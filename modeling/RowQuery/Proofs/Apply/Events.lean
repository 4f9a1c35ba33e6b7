import Mathlib.Tactic.Tauto
import RowQuery.Proofs.Apply.Calls
import RowQuery.Proofs.Apply.Validate

/-!
# The log of a run

The applier warns of hidden fields that are selected. A valid query has each option reported before
the first change of that option is put to the target. The changes of an option stand in its event, so
the log can be held against the calls: when the target refuses a change, the event with that change is
the last, and the options reported are those of the changes that were put to the target.
-/
namespace RowQuery

open Query (selectOption topOption skipOption orderByOption)

namespace Event

def option? : Event → Option String
  | applyingSelect .. => some selectOption
  | applyingTop .. => some topOption
  | applyingSkip .. => some skipOption
  | applyingOrderBy .. => some orderByOption
  | _ => none

def changes : Event → List Change
  | applyingSelect _ fields => [.restrict fields]
  | applyingTop _ count => [.limit count]
  | applyingSkip _ count => [.offset count]
  | applyingOrderBy _ order => order.map .order
  | _ => []

end Event

def Change.option : Change → String
  | restrict _ => selectOption
  | limit _ => topOption
  | offset _ => skipOption
  | order _ => orderByOption

namespace Event

theorem option?_of_mem_changes {event : Event} {change : Change} (h : change ∈ event.changes) :
    event.option? = some change.option := by
  cases event with
  | applyingSelect _ fields => rw [List.mem_singleton.mp h]; rfl
  | applyingTop _ count => rw [List.mem_singleton.mp h]; rfl
  | applyingSkip _ count => rw [List.mem_singleton.mp h]; rfl
  | applyingOrderBy _ order =>
    obtain ⟨key, -, rfl⟩ := List.mem_map.mp h
    rfl
  | _ => exact absurd h List.not_mem_nil

theorem option_eq_of_mem_changes {event : Event} {change other : Change}
    (h : change ∈ event.changes) (hother : other ∈ event.changes) : other.option = change.option := by
  have hoption := option?_of_mem_changes hother
  rw [option?_of_mem_changes h] at hoption
  exact (Option.some.inj hoption).symm

theorem mem_options_iff {events : List Event} (h : ∀ event ∈ events, event.changes ≠ [])
    (option : String) :
    option ∈ events.filterMap option? ↔ option ∈ (events.flatMap changes).map Change.option := by
  simp only [List.mem_filterMap, List.mem_map, List.mem_flatMap]
  constructor
  · rintro ⟨event, hevent, hoption⟩
    obtain ⟨change, hchange⟩ := List.exists_mem_of_ne_nil _ (h event hevent)
    rw [option?_of_mem_changes hchange] at hoption
    exact ⟨change, ⟨event, hevent, hchange⟩, Option.some.inj hoption⟩
  · rintro ⟨change, ⟨event, hevent, hchange⟩, rfl⟩
    exact ⟨event, hevent, option?_of_mem_changes hchange⟩

end Event

namespace Applier

variable {σ : Type} [Target σ]

def Call.change : Call → Change
  | taken change => change
  | refused change _ => change

def announced (recordType : String) (query : Query) : List Event :=
  (query.select.map (.applyingSelect recordType)).toList ++
    (query.top.map (.applyingTop recordType)).toList ++
    (query.skip.map (.applyingSkip recordType)).toList ++
    (query.orderBy.map (.applyingOrderBy recordType)).toList

theorem plan_eq_map (recordType : String) (query : Query) :
    plan recordType query =
      (announced recordType query).map fun event => (event, event.changes) := by
  cases query with
  | mk select top skip orderBy =>
    cases select <;> cases top <;> cases skip <;> cases orderBy <;> rfl

theorem flatMap_changes_announced (recordType : String) (query : Query) :
    (announced recordType query).flatMap Event.changes = requested query := by
  rw [← changes_plan recordType, plan_eq_map, List.flatMap_map]

theorem announced_pairwise (recordType : String) (query : Query) :
    (announced recordType query).Pairwise fun event _ => event.changes ≠ [] := by
  cases query with
  | mk select top skip orderBy =>
    cases select <;> cases top <;> cases skip <;> cases orderBy <;>
      simp [announced, Event.changes]

theorem mem_option_orderBy (recordType : String) (orderBy : Option SortOrder) (option : String) :
    option ∈ (orderBy.map (Event.applyingOrderBy recordType)).toList.filterMap Event.option? ↔
      option ∈ ((orderBy.getD []).map Change.order).map Change.option ∨
        option = orderByOption ∧ orderBy = some [] := by
  cases orderBy with
  | none => simp
  | some order =>
    cases order with
    | nil => simp [Event.option?]
    | cons key order =>
      have hlater : option ∈ (order.map Change.order).map Change.option →
          option = orderByOption := by
        rw [List.map_map, List.mem_map]
        rintro ⟨key, -, rfl⟩
        rfl
      simp only [Option.map_some, Option.toList_some, List.filterMap_cons, List.filterMap_nil,
        Event.option?, Option.getD_some, List.map_cons, List.mem_cons,
        Change.option, Option.some.injEq, reduceCtorEq, and_false, or_false]
      tauto

theorem mem_options_announced (recordType : String) (query : Query) (option : String) :
    option ∈ (announced recordType query).filterMap Event.option? ↔
      option ∈ (requested query).map Change.option ∨
        option = orderByOption ∧ query.orderBy = some [] := by
  have hselect : (query.select.map (.applyingSelect recordType)).toList.filterMap Event.option? =
      (query.select.map .restrict).toList.map Change.option := by
    cases query.select <;> rfl
  have htop : (query.top.map (.applyingTop recordType)).toList.filterMap Event.option? =
      (query.top.map .limit).toList.map Change.option := by
    cases query.top <;> rfl
  have hskip : (query.skip.map (.applyingSkip recordType)).toList.filterMap Event.option? =
      (query.skip.map .offset).toList.map Change.option := by
    cases query.skip <;> rfl
  simp only [announced, requested, List.filterMap_append, List.map_append, List.mem_append, hselect,
    htop, hskip, mem_option_orderBy, or_assoc]

/-! ## The log of a run -/

/-- The events up to that of the first option with a change that the target refuses. -/
def reached : List Event → σ → List Event
  | [], _ => []
  | event :: rest, target =>
    event :: match (asked event.changes target).outcome with
      | .ok next => reached rest next
      | .error _ => []

theorem reached_initial (events : List Event) (target : σ) : reached events target <+: events := by
  induction events generalizing target with
  | nil => exact List.nil_prefix
  | cons event rest ih =>
    rw [reached, List.prefix_cons_inj]
    split
    · exact ih _
    · exact List.nil_prefix

theorem events_performAll (changes : List Change) (target : σ) :
    Attempt.events (performAll plainly changes target) = [] := by
  induction changes generalizing target with
  | nil => rfl
  | cons change rest ih =>
    have hcall : Attempt.result (ExceptT.mk (plainly change target)) = change.perform target := rfl
    rw [performAll]
    cases h : change.perform target with
    | ok next =>
      rw [h] at hcall
      rw [Attempt.events_bind_of_ok hcall, ih]
      rfl
    | error e =>
      rw [h] at hcall
      rw [Attempt.events_bind_of_error hcall]
      rfl

theorem events_perform (events : List Event) (target : σ) :
    Attempt.events (perform plainly (events.map fun event => (event, event.changes)) target) =
      reached events target := by
  induction events generalizing target with
  | nil => rfl
  | cons event rest ih =>
    have hchanges := result_performAll event.changes target
    have hsilent := events_performAll event.changes target
    rw [List.map_cons, perform, Attempt.within_self,
      Attempt.events_bind_of_ok (Attempt.result_emit event), Attempt.events_emit, reached]
    cases h : (asked event.changes target).outcome with
    | ok next =>
      rw [h] at hchanges
      rw [Attempt.events_bind_of_ok hchanges, hsilent, ih]
      rfl
    | error e =>
      rw [h] at hchanges
      rw [Attempt.events_bind_of_error hchanges, hsilent]
      rfl

def warning : Except ValidationError Unit → List Event
  | .error (.hiddenFieldSelected recordType fields) => [.hiddenSelected recordType fields]
  | _ => []

theorem warning_of_checkKnown (s : σ) (option : String) (fields : List String) :
    warning (checkKnown s option fields) = [] := by
  cases h : checkKnown s option fields with
  | ok u => rfl
  | error e =>
    obtain ⟨field, rfl⟩ := exists_unknown_of_checkKnown h
    rfl

theorem warning_bind {x : Attempt ValidationError Unit} {f : Unit → Attempt ValidationError Unit}
    (hx : x.events = warning x.result) (hf : (f ()).events = warning (f ()).result) :
    (x >>= f).events = warning (x >>= f).result := by
  rw [Attempt.result_bind]
  cases h : x.result with
  | ok u =>
    rw [h] at hx
    rw [Attempt.events_bind_of_ok h, hx, ok_bind]
    exact hf
  | error e =>
    rw [Attempt.events_bind_of_error h, hx, h, error_bind]

theorem events_checkHidden (a : Applier) (fields : List String) :
    (a.checkHidden fields).events = warning (a.checkHidden fields).result := by
  rw [checkHidden]
  split
  · rfl
  · rfl

theorem events_checkSelect (a : Applier) (s : σ) (select : Option (List String)) :
    (a.checkSelect s select).events = warning (a.checkSelect s select).result := by
  cases select with
  | none => rfl
  | some fields =>
    have hknown := (warning_of_checkKnown s selectOption fields).symm
    cases henforce : a.enforce with
    | false =>
      simp only [checkSelect, henforce, Bool.false_eq_true, if_false]
      exact hknown
    | true =>
      simp only [checkSelect, henforce, if_true]
      exact warning_bind (events_checkHidden a fields) hknown

theorem events_validate (a : Applier) (query : Query) (s : σ) :
    (a.validate query s).events = warning (a.validate query s).result :=
  warning_bind (events_checkSelect a s query.select) (warning_of_checkKnown s _ _).symm

theorem events_apply (a : Applier) (query : Query) (s : σ) :
    (a.apply query s).events =
      match (a.validate query s).result with
      | .error e => warning (.error e)
      | .ok () => reached (announced a.recordType query) s := by
  have hwarning := events_validate a query s
  have hresult := Attempt.result_mapError QueryError.validation (a.validate query s)
  rw [apply, applyBy, Attempt.within_self]
  cases h : (a.validate query s).result with
  | error e =>
    rw [h] at hresult hwarning
    rw [Attempt.events_bind_of_error hresult, Attempt.events_mapError, hwarning]
  | ok u =>
    rw [h] at hresult hwarning
    rw [Attempt.events_bind_of_ok hresult, Attempt.events_mapError, hwarning, plan_eq_map,
      events_perform]
    rfl

/-! ## The log beside the calls -/

theorem reached_of_ok {events : List Event} {s next : σ}
    (h : (asked (events.flatMap Event.changes) s).outcome = .ok next) : reached events s = events := by
  induction events generalizing s with
  | nil => rfl
  | cons event rest ih =>
    rw [List.flatMap_cons, asked_append] at h
    rw [reached]
    cases hevent : (asked event.changes s).outcome with
    | ok t =>
      simp only [Record.andThen, hevent, Record.after] at h
      exact congrArg (event :: ·) (ih h)
    | error e => simp [Record.andThen, hevent] at h

/-- The events and the calls of a run that the target ends with an error. All changes of the options
before are taken, and the refused change is one of the option that is reported last. -/
inductive StopsIn (events : List Event) (e : QueryError) : List Event → List Call → Prop
  | intro (done : List Event) {later : List Event} {event : Event} {before after : List Change}
      {change : Change} (split : events = done ++ event :: later)
      (changes : event.changes = before ++ change :: after) :
      StopsIn events e (done ++ [event])
        ((done.flatMap Event.changes ++ before).map .taken ++ [.refused change e])

theorem StopsIn.cons {events log : List Event} {e : QueryError} {calls : List Call}
    (h : StopsIn events e log calls) (event : Event) :
    StopsIn (event :: events) e (event :: log) (event.changes.map .taken ++ calls) := by
  cases h with
  | @intro done later last before after change split changes =>
    have hcalls : event.changes.map .taken ++
        ((done.flatMap Event.changes ++ before).map Call.taken ++ [.refused change e]) =
          (((event :: done).flatMap Event.changes ++ before).map .taken ++ [.refused change e]) := by
      simp only [List.flatMap_cons, List.map_append, List.append_assoc]
    rw [hcalls]
    exact .intro (event :: done) (by rw [split]; rfl) changes

theorem stopsIn_of_error {events : List Event} {s : σ} {e : QueryError}
    (h : (asked (events.flatMap Event.changes) s).outcome = .error e) :
    StopsIn events e (reached events s) (asked (events.flatMap Event.changes) s).calls := by
  induction events generalizing s with
  | nil => simp [asked] at h
  | cons event rest ih =>
    rw [List.flatMap_cons, asked_append] at h ⊢
    rw [reached]
    cases hevent : (asked event.changes s).outcome with
    | ok next =>
      simp only [Record.andThen, hevent, Record.after, calls_of_ok hevent] at h ⊢
      exact (ih h).cons event
    | error e' =>
      simp only [Record.andThen, hevent, Except.error.injEq] at h ⊢
      subst h
      obtain ⟨before, change, after, hchanges, hcalls⟩ := calls_of_error hevent
      rw [hcalls]
      exact .intro [] rfl hchanges

theorem map_option_taken (changes : List Change) :
    (changes.map Call.taken).map (·.change.option) = changes.map Change.option := by
  rw [List.map_map]
  rfl

theorem StopsIn.mem_options_iff {recordType : String} {query : Query} {log : List Event}
    {e : QueryError} {calls : List Call} (h : StopsIn (announced recordType query) e log calls)
    (option : String) :
    option ∈ log.filterMap Event.option? ↔ option ∈ calls.map (·.change.option) := by
  cases h with
  | @intro done later event before after change split changes =>
    have hchange : change ∈ event.changes := by simp [changes]
    have hnonempty : ∀ other ∈ done ++ [event], other.changes ≠ [] := by
      have hpairwise := announced_pairwise recordType query
      rw [split, List.pairwise_append] at hpairwise
      intro other hother
      rcases List.mem_append.mp hother with hother | hother
      · exact hpairwise.2.2 other hother event List.mem_cons_self
      · rw [List.mem_singleton.mp hother]
        exact List.ne_nil_of_mem hchange
    -- The changes that the target was not asked for any more have the option of the refused one.
    have hafter : option ∈ after.map Change.option → option = change.option := by
      intro h
      obtain ⟨other, hother, rfl⟩ := List.mem_map.mp h
      exact Event.option_eq_of_mem_changes hchange (by simp [changes, hother])
    have hrefused : (Call.refused change e).change = change := rfl
    rw [Event.mem_options_iff hnonempty, List.flatMap_append, List.flatMap_singleton, changes]
    simp only [List.map_append, map_option_taken, List.map_cons, List.map_nil, List.mem_append,
      List.mem_cons, List.not_mem_nil, hrefused, or_false]
    tauto

end Applier
end RowQuery

import RowQuery.Apply
import RowQuery.Proofs.Outcome

/-!
# The calls that a target gets

The applier puts its changes to a target through a parameter, `Asking`. Here the parameter keeps a
record of every call and of its answer, and the record outlasts a refusal. A target that fails
validation gets no call. Any other gets the changes of the query in one order, up to the first that
it refuses; the error of that call is the error of the run, and no call follows it.
-/
namespace RowQuery.Applier

variable {σ : Type} [Target σ]

inductive Call
  | taken (change : Change)
  | refused (change : Change) (error : QueryError)
deriving DecidableEq, Repr

def Call.taken? : Call → Option Change
  | .taken change => some change
  | .refused _ _ => none

def Call.ofAnswer {α : Type} (change : Change) : Except QueryError α → Call
  | .ok _ => .taken change
  | .error error => .refused change error

structure Record (α : Type) where
  outcome : Except QueryError α
  calls : List Call

namespace Record

variable {α β : Type}

def changes (r : Record α) : List Change := r.calls.filterMap Call.taken?

def after (earlier : List Call) (r : Record α) : Record α := ⟨r.outcome, earlier ++ r.calls⟩

def andThen (r : Record α) (next : α → Record β) : Record β :=
  match r.outcome with
  | .ok a => (next a).after r.calls
  | .error e => ⟨.error e, r.calls⟩

@[simp] theorem after_nil (r : Record α) : r.after [] = r := rfl

@[simp] theorem after_after (first second : List Call) (r : Record α) :
    (r.after second).after first = r.after (first ++ second) := by
  simp [after]

theorem andThen_after (earlier : List Call) (r : Record α) (next : α → Record β) :
    (r.after earlier).andThen next = (r.andThen next).after earlier := by
  cases r with
  | mk outcome calls => cases outcome <;> simp [andThen, after]

theorem andThen_assoc {γ : Type} (r : Record α) (next : α → Record β) (last : β → Record γ) :
    (r.andThen next).andThen last = r.andThen fun a => (next a).andThen last := by
  cases r with
  | mk outcome calls =>
    cases outcome with
    | ok a => exact andThen_after calls (next a) last
    | error e => rfl

end Record

abbrev Recording := StateT (List Call) Logged

def recorder : Asking Recording σ := fun change target => do
  let answer := change.perform target
  modify (· ++ [.ofAnswer change answer])
  pure answer

def recordFrom {α : Type} (earlier : List Call) (x : ExceptT QueryError Recording α) : Record α :=
  let last := (StateT.run (ExceptT.run x) earlier).value
  ⟨last.1, last.2⟩

/-- Everything that a target is asked while a query is applied to it. -/
def recorded (a : Applier) (query : Query) (target : σ) : Record σ :=
  recordFrom [] (a.applyBy recorder query target)

def requested (query : Query) : List Change :=
  (query.select.map .restrict).toList ++ (query.top.map .limit).toList ++
    (query.skip.map .offset).toList ++ (query.orderBy.getD []).map .order

theorem changes_plan (recordType : String) (query : Query) :
    (plan recordType query).flatMap Prod.snd = requested query := by
  cases query with
  | mk select top skip orderBy =>
    cases select <;> cases top <;> cases skip <;> cases orderBy <;> simp [plan, requested]

def asked : List Change → σ → Record σ
  | [], target => ⟨.ok target, []⟩
  | change :: rest, target =>
    Record.andThen ⟨change.perform target, [.ofAnswer change (change.perform target)]⟩ (asked rest)

theorem asked_cons_of_ok {change : Change} {target next : σ} (h : change.perform target = .ok next)
    (rest : List Change) :
    asked (change :: rest) target = (asked rest next).after [.taken change] := by
  rw [asked, h]
  rfl

theorem asked_cons_of_error {change : Change} {target : σ} {e : QueryError}
    (h : change.perform target = .error e) (rest : List Change) :
    asked (change :: rest) target = ⟨.error e, [.refused change e]⟩ := by
  rw [asked, h]
  rfl

theorem asked_append (first second : List Change) (target : σ) :
    asked (first ++ second) target = (asked first target).andThen (asked second) := by
  induction first generalizing target with
  | nil => rfl
  | cons change rest ih =>
    have hrest : asked (rest ++ second) = fun t : σ => (asked rest t).andThen (asked second) :=
      funext ih
    rw [List.cons_append, asked, asked, hrest, Record.andThen_assoc]

/-! ## Runs of the applier -/

theorem recordFrom_bind {α β : Type} (earlier : List Call) (x : ExceptT QueryError Recording α)
    (f : α → ExceptT QueryError Recording β) :
    recordFrom earlier (x >>= f) =
      match recordFrom earlier x with
      | ⟨.ok a, calls⟩ => recordFrom calls (f a)
      | ⟨.error e, calls⟩ => ⟨.error e, calls⟩ := by
  change recordFrom earlier (ExceptT.mk (ExceptT.run x >>= ExceptT.bindCont f)) = _
  simp only [recordFrom, ExceptT.run_mk, StateT.run_bind, Logged.value_bind]
  cases (StateT.run (ExceptT.run x) earlier).value.1 <;> rfl

theorem recordFrom_bind_ok {α β : Type} {earlier calls : List Call}
    {x : ExceptT QueryError Recording α} {a : α} (h : recordFrom earlier x = ⟨.ok a, calls⟩)
    (f : α → ExceptT QueryError Recording β) :
    recordFrom earlier (x >>= f) = recordFrom calls (f a) := by
  rw [recordFrom_bind, h]

theorem recordFrom_bind_error {α β : Type} {earlier calls : List Call}
    {x : ExceptT QueryError Recording α} {e : QueryError}
    (h : recordFrom earlier x = ⟨.error e, calls⟩) (f : α → ExceptT QueryError Recording β) :
    recordFrom earlier (x >>= f) = ⟨.error e, calls⟩ := by
  rw [recordFrom_bind, h]

theorem recordFrom_within {α : Type} (earlier : List Call) (x : Attempt QueryError α) :
    recordFrom earlier x.within = ⟨x.result, earlier⟩ := rfl

theorem recordFrom_recorder (earlier : List Call) (change : Change) (target : σ) :
    recordFrom earlier (ExceptT.mk (recorder change target)) =
      ⟨change.perform target, earlier ++ [.ofAnswer change (change.perform target)]⟩ := rfl

theorem recordFrom_performAll (earlier : List Call) (changes : List Change) (target : σ) :
    recordFrom earlier (performAll recorder changes target) =
      (asked changes target).after earlier := by
  induction changes generalizing earlier target with
  | nil => simp only [performAll, asked, Record.after, List.append_nil]; rfl
  | cons change rest ih =>
    have hcall := recordFrom_recorder earlier change target
    rw [performAll]
    cases h : change.perform target with
    | ok next =>
      rw [h] at hcall
      rw [recordFrom_bind_ok hcall, ih, asked_cons_of_ok h, Record.after_after, Call.ofAnswer]
    | error e =>
      rw [h] at hcall
      rw [recordFrom_bind_error hcall, asked_cons_of_error h]
      rfl

theorem recordFrom_perform (earlier : List Call) (steps : List (Event × List Change))
    (target : σ) :
    recordFrom earlier (perform recorder steps target) =
      (asked (steps.flatMap Prod.snd) target).after earlier := by
  induction steps generalizing earlier target with
  | nil => simp only [perform, List.flatMap_nil, asked, Record.after, List.append_nil]; rfl
  | cons step rest ih =>
    obtain ⟨event, changes⟩ := step
    have hall := recordFrom_performAll earlier changes target
    rw [perform, recordFrom_bind_ok (recordFrom_within earlier _), List.flatMap_cons, asked_append]
    cases h : asked changes target with
    | mk outcome calls =>
      rw [h] at hall
      cases outcome with
      | ok next =>
        rw [recordFrom_bind_ok hall, ih]
        simp [Record.andThen]
      | error e =>
        rw [recordFrom_bind_error hall]
        rfl

theorem recorded_eq (a : Applier) (query : Query) (target : σ) :
    a.recorded query target =
      match (a.validate query target).result with
      | .error e => ⟨.error (.validation e), []⟩
      | .ok () => asked (requested query) target := by
  have hcheck := recordFrom_within [] ((a.validate query target).mapError .validation)
  rw [Attempt.result_mapError] at hcheck
  rw [recorded, applyBy]
  cases h : (a.validate query target).result with
  | error e =>
    rw [h] at hcheck
    exact recordFrom_bind_error hcheck _
  | ok u =>
    rw [h] at hcheck
    rw [recordFrom_bind_ok hcheck, recordFrom_perform, changes_plan, Record.after_nil]

theorem result_performAll (changes : List Change) (target : σ) :
    Attempt.result (performAll plainly changes target) = (asked changes target).outcome := by
  induction changes generalizing target with
  | nil => rfl
  | cons change rest ih =>
    have hcall : Attempt.result (ExceptT.mk (plainly change target)) = change.perform target := rfl
    rw [performAll, Attempt.result_bind, hcall]
    cases h : change.perform target with
    | ok next =>
      rw [ok_bind, ih, asked_cons_of_ok h]
      rfl
    | error e =>
      rw [asked_cons_of_error h]
      rfl

theorem result_perform (steps : List (Event × List Change)) (target : σ) :
    Attempt.result (perform plainly steps target) =
      (asked (steps.flatMap Prod.snd) target).outcome := by
  induction steps generalizing target with
  | nil => rfl
  | cons step rest ih =>
    obtain ⟨event, changes⟩ := step
    rw [perform, Attempt.within_self, Attempt.result_bind, Attempt.result_emit, ok_bind,
      Attempt.result_bind, result_performAll, List.flatMap_cons, asked_append]
    cases h : (asked changes target).outcome with
    | ok next => simpa [Record.andThen, Record.after, h] using ih next
    | error e => simp [Record.andThen, h]

theorem result_apply (a : Applier) (query : Query) (target : σ) :
    (a.apply query target).result =
      match (a.validate query target).result with
      | .error e => .error (.validation e)
      | .ok () => (asked (requested query) target).outcome := by
  rw [apply, applyBy, Attempt.within_self, Attempt.result_bind, Attempt.result_mapError]
  cases h : (a.validate query target).result with
  | error e => rfl
  | ok u => rw [mapError_ok, ok_bind, result_perform, changes_plan]

/-! ## What the calls are -/

theorem calls_of_ok {changes : List Change} {target next : σ}
    (h : (asked changes target).outcome = .ok next) :
    (asked changes target).calls = changes.map .taken := by
  induction changes generalizing target with
  | nil => rfl
  | cons change rest ih =>
    cases hc : change.perform target with
    | ok t =>
      rw [asked_cons_of_ok hc] at h ⊢
      rw [List.map_cons, ← ih h]
      rfl
    | error e =>
      rw [asked_cons_of_error hc] at h
      cases h

theorem calls_of_error {changes : List Change} {target : σ} {e : QueryError}
    (h : (asked changes target).outcome = .error e) :
    ∃ before change after, changes = before ++ change :: after ∧
      (asked changes target).calls = before.map .taken ++ [.refused change e] := by
  induction changes generalizing target with
  | nil => simp [asked] at h
  | cons change rest ih =>
    cases hc : change.perform target with
    | ok t =>
      rw [asked_cons_of_ok hc] at h ⊢
      obtain ⟨before, last, after, hrest, hcalls⟩ := ih h
      refine ⟨change :: before, last, after, by rw [hrest]; rfl, ?_⟩
      rw [Record.after, hcalls]
      rfl
    | error e' =>
      rw [asked_cons_of_error hc] at h ⊢
      cases h
      exact ⟨[], change, rest, rfl, rfl⟩

theorem filterMap_taken (changes : List Change) :
    (changes.map Call.taken).filterMap Call.taken? = changes := by
  rw [List.filterMap_map]
  exact List.filterMap_some

theorem changes_of_ok {changes : List Change} {target next : σ}
    (h : (asked changes target).outcome = .ok next) : (asked changes target).changes = changes := by
  rw [Record.changes, calls_of_ok h, filterMap_taken]

theorem changes_of_error {changes : List Change} {target : σ} {e : QueryError}
    (h : (asked changes target).outcome = .error e) :
    ∃ change after, changes = (asked changes target).changes ++ change :: after := by
  obtain ⟨before, change, after, hsplit, hcalls⟩ := calls_of_error h
  have hlast : [Call.refused change e].filterMap Call.taken? = [] := rfl
  refine ⟨change, after, ?_⟩
  rw [Record.changes, hcalls, List.filterMap_append, filterMap_taken, hlast, List.append_nil]
  exact hsplit

theorem changes_eq_iff (changes : List Change) (target : σ) :
    (asked changes target).changes = changes ↔
      ∃ next, (asked changes target).outcome = .ok next := by
  constructor
  · intro h
    cases hoc : (asked changes target).outcome with
    | ok next => exact ⟨next, rfl⟩
    | error e =>
      obtain ⟨change, after, hsplit⟩ := changes_of_error hoc
      rw [h] at hsplit
      simp at hsplit
  · rintro ⟨next, h⟩
    exact changes_of_ok h

theorem changes_initial (changes : List Change) (target : σ) :
    (asked changes target).changes <+: changes := by
  cases hoc : (asked changes target).outcome with
  | ok next =>
    exact ⟨[], by rw [changes_of_ok hoc, List.append_nil]⟩
  | error e =>
    obtain ⟨change, after, hsplit⟩ := changes_of_error hoc
    exact ⟨change :: after, hsplit.symm⟩

structure Unsortable where
  fields : List String

instance : Target Unsortable where
  restrictFields _ t := .ok t
  limit _ t := t
  offset _ t := t
  addOrdering field _ t :=
    if t.fields.contains field then .error (.backend ("cannot order by " ++ field)) else .ok t
  hasField _ _ := true

end RowQuery.Applier

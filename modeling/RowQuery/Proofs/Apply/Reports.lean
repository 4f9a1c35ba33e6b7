import RowQuery.Proofs.Apply.Events
import RowQuery.Proofs.Apply.Verdict
import RowQuery.Query.FromUrl

/-!
# What the log says

A reader reports the query that it returns. While a query is applied there is one warning if it is
not valid because of hidden fields, and none otherwise. The options reported are those with a change
that was put to the target, and an order without keys, which has no change. An error about hidden
fields that a target gives itself is passed on like its other errors, without a warning.
-/
namespace RowQuery

open Query (orderByOption)

namespace Applier

variable {σ : Type} [Target σ]

section Run

variable {a : Applier} {query : Query} {s : σ}

theorem run_of_invalid {fault : ValidationError} (h : (a.validate query s).result = .error fault) :
    (a.apply query s).result = .error (.validation fault) ∧ (a.recorded query s).calls = [] ∧
      (a.apply query s).events = warning (.error fault) := by
  rw [result_apply, recorded_eq, events_apply, h]
  exact ⟨rfl, rfl, rfl⟩

theorem run_of_valid (h : (a.validate query s).result = .ok ()) :
    (a.apply query s).result = (asked (requested query) s).outcome ∧
      (a.recorded query s).calls = (asked (requested query) s).calls ∧
      (a.apply query s).events = reached (announced a.recordType query) s := by
  rw [result_apply, recorded_eq, events_apply, h]
  exact ⟨rfl, rfl, rfl⟩

theorem filter_warn_events (a : Applier) (query : Query) (s : σ) :
    (a.apply query s).events.filter (·.level = .warn) = warning (a.validate query s).result := by
  cases h : (a.validate query s).result with
  | error fault =>
    rw [(run_of_invalid h).2.2]
    cases fault <;> rfl
  | ok u =>
    rw [(run_of_valid h).2.2]
    refine List.filter_eq_nil_iff.mpr fun event hevent => ?_
    have hannounced := (reached_initial _ s).subset hevent
    simp only [announced, List.mem_append, Option.mem_toList, Option.map_eq_some_iff] at hannounced
    obtain ((⟨_, -, rfl⟩ | ⟨_, -, rfl⟩) | ⟨_, -, rfl⟩) | ⟨_, -, rfl⟩ := hannounced <;>
      simp [Event.level]

theorem warning_eq_singleton_iff {x : Except ValidationError Unit} {recordType : String}
    {fields : List String} :
    warning x = [.hiddenSelected recordType fields] ↔
      x = .error (.hiddenFieldSelected recordType fields) := by
  rcases x with (_ | _) | _ <;> simp [warning]

theorem warning_eq_nil_iff {x : Except ValidationError Unit} :
    warning x = [] ↔ ¬∃ recordType fields, x = .error (.hiddenFieldSelected recordType fields) := by
  rcases x with (_ | _) | _ <;> simp [warning]

theorem offends_of_validate {recordType : String} {fields : List String}
    (h : (a.validate query s).result = .error (.hiddenFieldSelected recordType fields)) :
    recordType = a.recordType ∧
      Offends (a.policy.hiddenFields a.recordType) (selected query) fields := by
  have hverdict := verdict_validate a query s
  rw [h] at hverdict
  cases hverdict with
  | hidden _ offends => exact ⟨rfl, offends⟩

theorem stopsIn_of_apply (hvalid : (a.validate query s).result = .ok ()) {e : QueryError}
    (h : (a.apply query s).result = .error e) :
    StopsIn (announced a.recordType query) e (a.apply query s).events
      (a.recorded query s).calls := by
  obtain ⟨hresult, hcalls, hevents⟩ := run_of_valid hvalid
  rw [hresult, ← flatMap_changes_announced a.recordType] at h
  rw [hcalls, hevents, ← flatMap_changes_announced a.recordType]
  exact stopsIn_of_error h

theorem run_of_ok {next : σ} (h : (a.apply query s).result = .ok next) :
    (a.apply query s).events = announced a.recordType query ∧
      (a.recorded query s).calls = (requested query).map .taken := by
  cases hvalid : (a.validate query s).result with
  | error fault =>
    rw [(run_of_invalid hvalid).1] at h
    cases h
  | ok u =>
    obtain ⟨hresult, hcalls, hevents⟩ := run_of_valid hvalid
    rw [hresult] at h
    refine ⟨?_, by rw [hcalls, calls_of_ok h]⟩
    rw [← flatMap_changes_announced a.recordType] at h
    rw [hevents, reached_of_ok h]

theorem exists_refused_iff (changes : List Change) (e : QueryError) :
    (∃ change, .refused change e ∈ (asked changes s).calls) ↔
      (asked changes s).outcome = .error e := by
  cases h : (asked changes s).outcome with
  | ok next => simp [calls_of_ok h]
  | error e' =>
    obtain ⟨before, change, after, -, hcalls⟩ := calls_of_error h
    rw [hcalls]
    simp [eq_comm]

theorem result_eq_error_iff (a : Applier) (query : Query) (s : σ) (recordType : String)
    (fields : List String) :
    (a.apply query s).result = .error (.validation (.hiddenFieldSelected recordType fields)) ↔
      (a.validate query s).result = .error (.hiddenFieldSelected recordType fields) ∨
        ∃ change, .refused change (.validation (.hiddenFieldSelected recordType fields)) ∈
          (a.recorded query s).calls := by
  cases h : (a.validate query s).result with
  | error fault =>
    obtain ⟨hresult, hcalls, -⟩ := run_of_invalid h
    simp [hresult, hcalls]
  | ok u =>
    obtain ⟨hresult, hcalls, -⟩ := run_of_valid h
    rw [hresult, hcalls, exists_refused_iff]
    simp

theorem mem_options_events (a : Applier) (query : Query) (s : σ) (option : String) :
    option ∈ (a.apply query s).events.filterMap Event.option? ↔
      option ∈ (a.recorded query s).calls.map (·.change.option) ∨
        option = orderByOption ∧ query.orderBy = some [] ∧
          ∃ next, (a.apply query s).result = .ok next := by
  cases h : (a.apply query s).result with
  | ok next =>
    obtain ⟨hevents, hcalls⟩ := run_of_ok h
    rw [hevents, hcalls, map_option_taken, mem_options_announced]
    simp
  | error e =>
    cases hvalid : (a.validate query s).result with
    | error fault =>
      obtain ⟨-, hcalls, hevents⟩ := run_of_invalid hvalid
      rw [hcalls, hevents]
      cases fault <;> simp [warning, Event.option?]
    | ok u =>
      rw [(stopsIn_of_apply hvalid h).mem_options_iff]
      simp

end Run

/-- What the events of a run say, beside the calls that the target gets. -/
structure Reports (a : Applier) (query : Query) (s : σ) : Prop where
  /-- The only warning is of hidden fields, if the query is not valid because of them. -/
  warning_iff : ∀ recordType fields,
    (a.apply query s).events.filter (·.level = .warn) = [.hiddenSelected recordType fields] ↔
      (a.validate query s).result = .error (.hiddenFieldSelected recordType fields)
  no_warning_iff : (a.apply query s).events.filter (·.level = .warn) = [] ↔
    ¬∃ recordType fields,
      (a.validate query s).result = .error (.hiddenFieldSelected recordType fields)
  hidden : ∀ recordType fields,
    (a.validate query s).result = .error (.hiddenFieldSelected recordType fields) →
      recordType = a.recordType ∧
        Offends (a.policy.hiddenFields a.recordType) (selected query) fields
  /-- An error about hidden fields that is no reason for a warning comes from the target. -/
  error_iff : ∀ recordType fields, (a.apply query s).result =
      .error (.validation (.hiddenFieldSelected recordType fields)) ↔
    (a.validate query s).result = .error (.hiddenFieldSelected recordType fields) ∨
      ∃ change, .refused change (.validation (.hiddenFieldSelected recordType fields)) ∈
        (a.recorded query s).calls
  /-- Of a query that is not valid no option is reported. -/
  invalid : ∀ e, (a.validate query s).result = .error e →
    (a.apply query s).events.filterMap Event.option? = []
  /-- Of a query that is applied in full every option is reported, and nothing else. -/
  finished : ∀ next, (a.apply query s).result = .ok next →
    (a.apply query s).events = announced a.recordType query ∧
      (a.recorded query s).calls = (requested query).map .taken
  /-- A valid query is reported up to the first option with a change that is refused. -/
  stopped : (a.validate query s).result = .ok () → ∀ e, (a.apply query s).result = .error e →
    StopsIn (announced a.recordType query) e (a.apply query s).events (a.recorded query s).calls
  /-- The options reported are those with a change put to the target, and an order without keys. -/
  options : ∀ option, option ∈ (a.apply query s).events.filterMap Event.option? ↔
    option ∈ (a.recorded query s).calls.map (·.change.option) ∨
      option = orderByOption ∧ query.orderBy = some [] ∧
        ∃ next, (a.apply query s).result = .ok next

theorem reports (a : Applier) (query : Query) (s : σ) : Reports a query s where
  warning_iff recordType fields := by
    rw [filter_warn_events, warning_eq_singleton_iff]
  no_warning_iff := by
    rw [filter_warn_events, warning_eq_nil_iff]
  hidden _ _ := offends_of_validate
  error_iff := result_eq_error_iff a query s
  invalid fault h := by
    rw [(run_of_invalid h).2.2]
    cases fault <;> rfl
  finished _ := run_of_ok
  stopped hvalid _ := stopsIn_of_apply hvalid
  options := mem_options_events a query s

end Applier

namespace Query

structure ReportsResult (x : Attempt ParseError Query) : Prop where
  ok_iff : ∀ query, x.events = [.parsed query] ↔ x.result = .ok query
  error_iff : x.events = [] ↔ ∃ e, x.result = .error e
  level : ∀ event ∈ x.events, event.level = .debug

theorem reportsResult_of_ok {x : Attempt ParseError Query} {query : Query}
    (hresult : x.result = .ok query) (hevents : x.events = [.parsed query]) : ReportsResult x where
  ok_iff other := by simp [hresult, hevents]
  error_iff := by simp [hresult, hevents]
  level := by simp [hevents, Event.level]

theorem reportsResult_of_error {x : Attempt ParseError Query} {e : ParseError}
    (hresult : x.result = .error e) (hevents : x.events = []) : ReportsResult x where
  ok_iff other := by simp [hresult, hevents]
  error_iff := by simp [hresult, hevents]
  level := by simp [hevents]

theorem reportsResult_parseQueryString (limits : Limits) (text : String) :
    ReportsResult (parseQueryString limits text) := by
  rw [parseQueryString]
  cases readQueryString limits text with
  | ok query => exact reportsResult_of_ok rfl rfl
  | error e => exact reportsResult_of_error rfl rfl

theorem reportsResult_parseUrl (limits : Limits) (url : String) :
    ReportsResult (parseUrl limits url) := by
  rw [parseUrl]
  cases urlQuery url with
  | ok text => exact reportsResult_parseQueryString limits text
  | error e => exact reportsResult_of_error rfl rfl

end Query

/-- The events tell exactly what was done: which query was read, which hidden fields were refused,
and which options were put to the target. -/
theorem events_tell_what_was_done {σ : Type} [Target σ] (limits : Limits) (text : String)
    (a : Applier) (query : Query) (s : σ) :
    (Query.ReportsResult (Query.parseQueryString limits text) ∧
      Query.ReportsResult (Query.parseUrl limits text)) ∧ a.Reports query s :=
  ⟨⟨Query.reportsResult_parseQueryString limits text, Query.reportsResult_parseUrl limits text⟩,
    a.reports query s⟩

/-- Of three keys the second is refused: the order is the last option reported. A hidden field is
warned of once. -/
theorem events_tell_of_refused_key_and_hidden_field :
    let table := HiddenFields.ofMembers [("book", ["authorId"])]
    let a : Applier := { policy := table.policy, recordType := "book" }
    let keys : SortOrder := [⟨"id", .ascending⟩, ⟨"body", .descending⟩, ⟨"id", .ascending⟩]
    let query : Query := { top := some 2, orderBy := some keys }
    let secret : Query := { select := some ["authorId", "id", "authorId"], top := some 2 }
    let s : Applier.Unsortable := ⟨["body"]⟩
    ((a.validate query s).result = .ok () ∧
      (a.apply query s).result = .error (.backend "cannot order by body") ∧
      (a.apply query s).events = [.applyingTop "book" 2, .applyingOrderBy "book" keys] ∧
      Applier.StopsIn (Applier.announced "book" query) (.backend "cannot order by body")
        (a.apply query s).events (a.recorded query s).calls) ∧
    ((a.validate secret s).result = .error (.hiddenFieldSelected "book" ["authorId"]) ∧
      (a.apply secret s).events.filter (·.level = .warn) =
        [.hiddenSelected "book" ["authorId"]]) := by
  intro table a keys query secret s
  have hstopped := (events_tell_what_was_done {} "" a query s).2.stopped rfl _ rfl
  have hsecret := (events_tell_what_was_done {} "" a secret s).2.warning_iff "book" ["authorId"]
  have hinvalid : (a.validate secret s).result =
      .error (.hiddenFieldSelected "book" ["authorId"]) := rfl
  exact ⟨⟨rfl, rfl, rfl, hstopped⟩, hinvalid, hsecret.mpr hinvalid⟩

namespace Applier

structure Guarded where
  recordType : String
  hidden : List String

instance : Target Guarded where
  restrictFields fields t :=
    match fields.filter t.hidden.contains with
    | [] => .ok t
    | offending => .error (.validation (.hiddenFieldSelected t.recordType offending))
  limit _ t := t
  offset _ t := t
  addOrdering _ _ t := .ok t
  hasField _ _ := true

end Applier

/-- A target refuses a field that is hidden by the target itself, and there is no warning. Another
target refuses the second key of an order, and the event names the third key too. -/
theorem events_of_refusing_targets :
    let a : Applier := { policy := .allVisible, recordType := "book" }
    let secret : Query := { select := some ["id", "secret"] }
    let guarded : Applier.Guarded := ⟨"book", ["secret"]⟩
    let keys : SortOrder := [⟨"id", .ascending⟩, ⟨"body", .ascending⟩, ⟨"title", .ascending⟩]
    let query : Query := { orderBy := some keys }
    let unsortable : Applier.Unsortable := ⟨["body"]⟩
    ((a.apply secret guarded).result =
        .error (.validation (.hiddenFieldSelected "book" ["secret"])) ∧
      (a.apply secret guarded).events = [.applyingSelect "book" ["id", "secret"]]) ∧
    (a.apply query unsortable).events = [.applyingOrderBy "book" keys] ∧
      (a.recorded query unsortable).calls = [.taken (.order ⟨"id", .ascending⟩),
        .refused (.order ⟨"body", .ascending⟩) (.backend "cannot order by body")] :=
  ⟨⟨rfl, rfl⟩, rfl, rfl⟩

end RowQuery

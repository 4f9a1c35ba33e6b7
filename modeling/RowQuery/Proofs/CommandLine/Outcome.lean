import RowQuery.CommandLine.Run
import RowQuery.Proofs.Apply.Validate
import RowQuery.Proofs.Json.Written
import RowQuery.Proofs.Memory.Narrowed
import RowQuery.Proofs.Memory.Sorted
import RowQuery.Proofs.Query.Reference

/-!
# How a run for a query ends

A query is answered, or refused for what is wrong with its text, or refused for what it asks, or it
breaks the run because there are many rows and its keys tear them. Rows in memory take every change,
so no run for a query reports an internal failure. A refusal is printed as a problem: 400 for the
text, 422 for what is asked, with the message and the fields of the error. Rows matter to a refusal
only where it says that a field is unknown.
-/
namespace RowQuery

def QueryError.fields : QueryError → List String
  | .validation (.hiddenFieldSelected _ fields) => fields
  | .validation (.unknownField _ field) => [field]
  | _ => []

namespace Problem

theorem ofParseError_spec (e : ParseError) :
    (ofParseError e).status.code = 400 ∧ (ofParseError e).detail = e.message ∧
      (ofParseError e).fields = [] := by
  cases e <;> exact ⟨rfl, rfl, rfl⟩

theorem ofValidationError_spec (e : ValidationError) :
    (ofValidationError e).status.code = 422 ∧ (ofValidationError e).detail = e.message ∧
      (ofValidationError e).fields = (QueryError.validation e).fields := by
  cases e <;> exact ⟨rfl, rfl, rfl⟩

end Problem

namespace CommandLine

variable {settings : Settings} {a : Arguments} {url : String} {rows : Option MemoryQuery}

def applierOf (settings : Settings) (a : Arguments) : Applier where
  policy := settings.visibility.policy
  recordType := a.recordTypeName
  enforce := !a.noEnforce

def outcome (settings : Settings) (a : Arguments) (url : String) (rows : Option MemoryQuery) :
    Except QueryError (Option Json) :=
  (adapt settings a.recordTypeName (!a.noEnforce) url rows).result

/-- The verdict on a query; without rows every field is known. -/
def verdict (settings : Settings) (a : Arguments) (rows : Option MemoryQuery) (query : Query) :
    Except ValidationError Unit :=
  ((applierOf settings a).validate query (rows.getD {})).result

def shown (settings : Settings) (a : Arguments) (query : Query) :
    Option MemoryQuery → Option Json
  | none => some query.toJson
  | some rows =>
    let adapted := rows.narrowed query
    let answer := if a.noEnforce then adapted.rows
      else adapted.visibleRows settings.visibility.policy a.recordTypeName
    answer.map fun rows => .array (rows.map .object)

theorem outcome_eq (settings : Settings) (a : Arguments) (url : String)
    (rows : Option MemoryQuery) :
    outcome settings a url rows =
      (Query.parseUrl settings.limits url).result.mapError .parse >>= fun query =>
      (verdict settings a rows query).mapError .validation >>= fun _ =>
      .ok (shown settings a query rows) := by
  rw [outcome, adapt, Attempt.result_bind, Attempt.result_mapError]
  cases (Query.parseUrl settings.limits url).result with
  | error e => rfl
  | ok query =>
    simp only [mapError_ok, ok_bind]
    cases rows with
    | none =>
      simp only [Attempt.result_bind, Attempt.result_mapError]
      rfl
    | some rows =>
      have happly : ((applierOf settings a).apply query rows).result =
          (verdict settings a (some rows) query).mapError .validation >>= fun _ =>
            .ok (rows.narrowed query) :=
        MemoryQuery.result_apply (applierOf settings a) query rows
      simp only [Attempt.result_bind]
      change ((applierOf settings a).apply query rows).result >>= _ = _
      rw [happly]
      cases verdict settings a (some rows) query with
      | error e => rfl
      | ok u => cases h : a.noEnforce <;> simp only [shown, h] <;> rfl

theorem outcome_eq_error_iff {e : QueryError} :
    outcome settings a url rows = .error e ↔
      (∃ fault, (Query.parseUrl settings.limits url).result = .error fault ∧ e = .parse fault) ∨
      ∃ query fault, (Query.parseUrl settings.limits url).result = .ok query ∧
        verdict settings a rows query = .error fault ∧ e = .validation fault := by
  rw [outcome_eq]
  cases (Query.parseUrl settings.limits url).result with
  | error fault => simp [Except.mapError, eq_comm]
  | ok query =>
    rw [mapError_ok, ok_bind]
    cases h : verdict settings a rows query <;> simp [Except.mapError, h, eq_comm]

theorem outcome_eq_parse_iff {e : ParseError} :
    outcome settings a url rows = .error (.parse e) ↔
      (Query.parseUrl settings.limits url).result = .error e := by
  simp [outcome_eq_error_iff]

theorem outcome_eq_validation_iff {e : ValidationError} :
    outcome settings a url rows = .error (.validation e) ↔
      ∃ query, (Query.parseUrl settings.limits url).result = .ok query ∧
        verdict settings a rows query = .error e := by
  simp [outcome_eq_error_iff]

theorem outcome_ne_backend (detail : String) :
    outcome settings a url rows ≠ .error (.backend detail) := by
  simp [outcome_eq_error_iff]

theorem verdict_none (settings : Settings) (a : Arguments) (query : Query) :
    verdict settings a none query = (applierOf settings a).checkVisible query := by
  apply Applier.result_validate_of_knows_all
  intro field
  rfl

theorem outcome_none_eq_error_iff (settings : Settings) (a : Arguments) (url : String)
    (r : MemoryQuery) (e : QueryError) :
    outcome settings a url none = .error e ↔ outcome settings a url (some r) = .error e ∧
      ∀ option field, e ≠ .validation (.unknownField option field) := by
  cases e with
  | parse fault => simp [outcome_eq_parse_iff]
  | backend detail => simp [outcome_ne_backend]
  | validation fault =>
    have hverdict : ∀ query, verdict settings a none query = .error fault ↔
        verdict settings a (some r) query = .error fault ∧
          ∀ option field, fault ≠ .unknownField option field := by
      intro query
      rw [verdict_none]
      exact Applier.checkVisible_eq_error_iff (applierOf settings a) query r fault
    rw [outcome_eq_validation_iff, outcome_eq_validation_iff]
    constructor
    · rintro ⟨query, hquery, hfault⟩
      obtain ⟨hrows, hknown⟩ := (hverdict query).mp hfault
      refine ⟨⟨query, hquery, hrows⟩, ?_⟩
      intro option field heq
      exact hknown option field (QueryError.validation.inj heq)
    · rintro ⟨⟨query, hquery, hrows⟩, hknown⟩
      refine ⟨query, hquery, (hverdict query).mpr ⟨hrows, ?_⟩⟩
      intro option field heq
      exact hknown option field (congrArg QueryError.validation heq)

theorem outcome_eq_ok_iff {value : Option Json} :
    outcome settings a url rows = .ok value ↔
      ∃ query, (Query.parseUrl settings.limits url).result = .ok query ∧
        verdict settings a rows query = .ok () ∧ shown settings a query rows = value := by
  rw [outcome_eq]
  cases (Query.parseUrl settings.limits url).result with
  | error fault => simp [Except.mapError]
  | ok query =>
    rw [mapError_ok, ok_bind]
    cases h : verdict settings a rows query <;> simp [Except.mapError, h]

theorem shown_eq_none_iff {query : Query} {q : MemoryQuery} :
    shown settings a query (some q) = none ↔ (q.narrowed query).sorted = none := by
  simp only [shown, Option.map_eq_none_iff]
  split
  · exact Option.map_eq_none_iff
  · exact Option.map_eq_none_iff.trans Option.map_eq_none_iff

theorem torn_of_outcome (h : outcome settings a url rows = .ok none) :
    ∃ q query, rows = some q ∧ (Query.parseUrl settings.limits url).result = .ok query ∧
      20 < q.source.length ∧
      ¬Sort.PreorderOn (SortOrder.compare (q.order ++ query.orderBy.getD [])) q.source := by
  obtain ⟨query, hquery, -, hshown⟩ := outcome_eq_ok_iff.mp h
  cases rows with
  | none => cases hshown
  | some q =>
    have hsorted := shown_eq_none_iff.mp hshown
    have hnot := mt (MemoryQuery.isSome_sorted (q := q.narrowed query)) (by simp [hsorted])
    obtain ⟨hpreorder, hlong⟩ := not_or.mp hnot
    exact ⟨q, query, rfl, hquery, Nat.lt_of_not_le hlong, hpreorder⟩

/-! ## The run around it -/

def problemFor (url : String) (e : QueryError) : Problem :=
  { (Problem.ofError e).value with instanceUri := url }

/-- A run that gets as far as a query: its arguments, settings and rows are read. -/
structure Requests (s : Surroundings) (arguments : List String) (a : Arguments)
    (settings : Settings) (url : String) (rows : Option MemoryQuery) : Prop where
  arguments : Arguments.read arguments = .ok a
  query : a.printConfig = false
  url : a.url = some url
  settings : effectiveSettings s a = .ok settings
  rows : a.data.mapM (rowsIn s) = .ok rows

variable {s : Surroundings} {arguments : List String}

theorem run_eq_answer (h : Requests s arguments a settings url rows) :
    run s arguments = answer settings a url rows := by
  have hperform : perform s a = .ok (answer settings a url rows) := by
    simp only [perform, h.settings, h.query, h.url, h.rows, ok_bind, Bool.false_eq_true, if_false]
  simp only [run, h.arguments, hperform]

theorem answer_of_ok {value : Json} (h : outcome settings a url rows = .ok (some value)) :
    answer settings a url rows = .done (printed value) := by
  rw [outcome] at h
  rw [answer, h]

theorem answer_of_none (h : outcome settings a url rows = .ok none) :
    answer settings a url rows = .broken := by
  rw [outcome] at h
  rw [answer, h]

theorem answer_of_error {e : QueryError} (h : outcome settings a url rows = .error e) :
    answer settings a url rows = .rejected (printed (problemFor url e).toJson) := by
  rw [outcome] at h
  rw [answer, h]
  rfl

theorem ofJsonText?_printed_problem (p : Problem) :
    Problem.ofJsonText? (printed p.toJson) = some p := by
  rw [Problem.ofJsonText?, printed, Json.readAs_line p.fits]
  exact p.ofJson?_toJson

theorem ofJsonText?_printed_query (q : Query) : Query.ofJsonText? (printed q.toJson) = some q := by
  rw [Query.ofJsonText?, printed, Json.readAs_line q.fits]
  exact q.ofJson?_toJson

/-- A run for a query ends in one of three ways. It exits with 0 and prints the answer, which
without rows is the query, or it exits with 2 and prints the problem of a parse error or a
validation error: 400 if the text of the query cannot be read, and 422 if it can be and the query is
not valid. Only where the keys tear more than 20 rows it may print nothing and exit with 101. What
is printed is read back. Without rows a run is refused for the same reasons as with any rows,
unknown fields excepted. -/
theorem run_answers_or_rejects (settings : Settings) (a : Arguments) (url : String)
    (rows : Option MemoryQuery) :
    let parsed := (Query.parseUrl settings.limits url).result
    let outcome := outcome settings a url
    (∀ s arguments, Requests s arguments a settings url rows →
      (∀ value, outcome rows = .ok (some value) →
        (run s arguments).exitCode = 0 ∧ (run s arguments).output = printed value ∧
        (rows = none → ∃ query, parsed = .ok query ∧
          Query.ofJsonText? (run s arguments).output = some query)) ∧
      (outcome rows = .ok none →
        (run s arguments).exitCode = 101 ∧ (run s arguments).output = "" ∧
        ∃ q query, rows = some q ∧ parsed = .ok query ∧ 20 < q.source.length ∧
          ¬Sort.PreorderOn (SortOrder.compare (q.order ++ query.orderBy.getD [])) q.source) ∧
      ∀ e, outcome rows = .error e →
        (run s arguments).exitCode = 2 ∧
        (run s arguments).output = printed (problemFor url e).toJson ∧
        Problem.ofJsonText? (run s arguments).output = some (problemFor url e)) ∧
    (∀ e, outcome rows = .error e →
      ((problemFor url e).status.code = 400 ↔ ∃ fault, parsed = .error fault) ∧
      ((problemFor url e).status.code = 422 ↔
        ∃ query fault, parsed = .ok query ∧ verdict settings a rows query = .error fault) ∧
      (problemFor url e).detail = e.message ∧ (problemFor url e).fields = e.fields ∧
      (problemFor url e).instanceUri = url ∧ ∀ detail, e ≠ .backend detail) ∧
    (∀ fault, outcome rows = .error (.parse fault) ↔ parsed = .error fault) ∧
    (∀ fault, outcome rows = .error (.validation fault) ↔
      ∃ query, parsed = .ok query ∧ verdict settings a rows query = .error fault) ∧
    ∀ r e, outcome none = .error e ↔ outcome (some r) = .error e ∧
      ∀ option field, e ≠ .validation (.unknownField option field) := by
  intro parsed outcome
  refine ⟨?_, ?_, fun fault => outcome_eq_parse_iff, fun fault => outcome_eq_validation_iff,
    outcome_none_eq_error_iff settings a url⟩
  · intro s arguments hrun
    rw [run_eq_answer hrun]
    refine ⟨fun value hvalue => ?_, fun hnone => ?_, fun e he => ?_⟩
    · rw [answer_of_ok hvalue]
      refine ⟨rfl, rfl, ?_⟩
      rintro rfl
      obtain ⟨query, hquery, -, hshown⟩ := outcome_eq_ok_iff.mp hvalue
      obtain rfl := Option.some.inj hshown
      exact ⟨query, hquery, ofJsonText?_printed_query query⟩
    · rw [answer_of_none hnone]
      exact ⟨rfl, rfl, torn_of_outcome hnone⟩
    · rw [answer_of_error he]
      exact ⟨rfl, rfl, ofJsonText?_printed_problem _⟩
  · intro e he
    cases e with
    | parse fault =>
      have hparse : parsed = .error fault := outcome_eq_parse_iff.mp he
      obtain ⟨hstatus, hdetail, hfields⟩ := Problem.ofParseError_spec fault
      have hcode : (problemFor url (.parse fault)).status.code = 400 := hstatus
      refine ⟨?_, ?_, hdetail, hfields, rfl, nofun⟩
      · exact ⟨fun _ => ⟨fault, hparse⟩, fun _ => hcode⟩
      · simp [hcode, hparse]
    | validation fault =>
      obtain ⟨query, hquery, hverdict⟩ := outcome_eq_validation_iff.mp he
      have hparse : parsed = .ok query := hquery
      obtain ⟨hstatus, hdetail, hfields⟩ := Problem.ofValidationError_spec fault
      have hcode : (problemFor url (.validation fault)).status.code = 422 := hstatus
      refine ⟨?_, ?_, hdetail, hfields, rfl, nofun⟩
      · simp [hcode, hparse]
      · exact ⟨fun _ => ⟨query, fault, hparse, hverdict⟩, fun _ => hcode⟩
    | backend detail => exact absurd he (outcome_ne_backend detail)

/-- The author is hidden, and the rows do not have it either: it is refused as hidden. -/
theorem run_rejects_hidden_author :
    let s : Surroundings := { textOf := fun path =>
      if path = "books.json" then some "[\x7b\"title\":\"a\"\x7d]" else none }
    let url := "/books?$select=author"
    let arguments := ["--record-type=book", "--hidden=author", "--data=books.json", url]
    let a : Arguments :=
      { url := some url, recordType := some "book", hidden := ["author"],
        data := some "books.json" }
    let settings : Settings := { visibility := HiddenFields.ofMembers [("book", ["author"])] }
    let rows : MemoryQuery := { source := [[("title", .string "a")]] }
    let e : QueryError := .validation (.hiddenFieldSelected "book" ["author"])
    Requests s arguments a settings url (some rows) ∧
    outcome settings a url (some rows) = .error e ∧
    (run s arguments).exitCode = 2 ∧
    (run s arguments).output =
      "\x7b\n  \"type\": \"about:blank\",\n  \"title\": \"Hidden Field\",\n  \"status\": 422,\n" ++
      "  \"detail\": \"one of the fields in the $select query string value is hidden " ++
      "for record type \\\"book\\\": author\",\n  \"instance\": \"/books?$select=author\",\n" ++
      "  \"code\": \"odata.hidden_field\",\n  \"fields\": [\n    \"author\"\n  ]\n\x7d\n" ∧
    Problem.ofJsonText? (run s arguments).output = some (problemFor url e) ∧
    (problemFor url e).fields = ["author"] ∧
    outcome settings a url none = .error e := by
  intro s url arguments a settings rows e
  have hread : Arguments.read ["--record-type=book", "--hidden=author", "--data=books.json",
      "/books?$select=author"] = .ok a := by rfl
  have htext : "[\x7b\"title\":\"a\"\x7d]".toList =
      ['[', '\x7b', '"', 't', 'i', 't', 'l', 'e', '"', ':', '"', 'a', '"', '\x7d', ']'] := by rfl
  have hvalue : Json.readValue "[\x7b\"title\":\"a\"\x7d]" =
      some (.array [.object [("title", .string "a")]]) := by
    simp only [Json.readValue, Json.read, Json.readAs, htext]
    rfl
  have hrows : rowsIn s "books.json" = .ok rows := by
    simp only [rowsIn, s, if_true, hvalue]
    rfl
  have hquery : Query.urlQuery "/books?$select=author" = .ok "$select=author" := by rfl
  have hparse : (Query.parseUrl {} "/books?$select=author").result =
      .ok { select := some ["author"] } := by
    rw [Query.parseUrl_of_urlQuery hquery]
    rfl
  have hrun : Requests s arguments a settings url (some rows) :=
    { arguments := hread
      query := rfl
      url := rfl
      settings := rfl
      rows := by simp only [a, Option.mapM_some, hrows]; rfl }
  have herror : outcome settings a url (some rows) = .error e := by
    rw [outcome_eq_validation_iff]
    exact ⟨{ select := some ["author"] }, hparse, rfl⟩
  obtain ⟨hends, hproblem, -, -, hwithout⟩ := run_answers_or_rejects settings a url (some rows)
  obtain ⟨hcode, houtput, hread⟩ := (hends s arguments hrun).2.2 e herror
  obtain ⟨-, -, -, hfields, -⟩ := hproblem e herror
  have hhidden : ∀ option field, e ≠ .validation (.unknownField option field) := by
    intro option field
    simp [e]
  refine ⟨hrun, herror, hcode, ?_, hread, hfields, (hwithout rows e).mpr ⟨herror, hhidden⟩⟩
  rw [houtput]
  decide +kernel

/-- Keys that tear 21 rows end the run. -/
theorem answer_torn_rows :
    let settings : Settings := { visibility := HiddenFields.ofMembers [] }
    let rows : MemoryQuery := { source := SortOrder.tornRows }
    let ending := answer settings {} "/books?$orderby=v" (some rows)
    ending.exitCode = 101 ∧ ending.output = "" := by
  intro settings rows ending
  have hquery : Query.urlQuery "/books?$orderby=v" = .ok "$orderby=v" := by rfl
  have hparse : (Query.parseUrl {} "/books?$orderby=v").result =
      .ok { orderBy := some [⟨"v", .ascending⟩] } := by
    rw [Query.parseUrl_of_urlQuery hquery]
    rfl
  have hsorted : (rows.narrowed { orderBy := some [⟨"v", .ascending⟩] }).sorted = none :=
    SortOrder.sort?_tornRows
  have hnone : outcome settings {} "/books?$orderby=v" (some rows) = .ok none :=
    outcome_eq_ok_iff.mpr ⟨_, hparse, rfl, shown_eq_none_iff.mpr hsorted⟩
  have hbroken : ending = .broken := answer_of_none hnone
  rw [hbroken]
  exact ⟨rfl, rfl⟩

end CommandLine
end RowQuery

import RowQuery.Proofs.Query.WellFormed

/-!
# Sort orders as texts

Commas part the value of `$orderby` into clauses, and a clause is a field with or without the word
of a direction. `ClauseReads` and `ClauseFails` say what a clause stands for and what is wrong with
it, from its words alone. A value is read if every clause is, and otherwise the leftmost clause that
is not decides the error. A sort order that was read is read again from its own text, and no other
sort order is.
-/
namespace RowQuery

def Direction.Spelled (d : Direction) (word : List Char) : Prop :=
  List.Forall₂ (fun c letter => c = letter ∨ c = letter.toUpper) word d.word.toList

namespace Query

open Text (HasWords Strips isBlank trim words hasWords_iff)

inductive ClauseReads (clause : List Char) : OrderKey → Prop
  | field {field : List Char} (h : HasWords clause [field]) :
      ClauseReads clause ⟨String.ofList field, .ascending⟩
  | directed {field word : List Char} {d : Direction} (h : HasWords clause [field, word])
      (hword : d.Spelled word) : ClauseReads clause ⟨String.ofList field, d⟩

inductive ClauseFails (clause : List Char) : ParseError → Prop
  | noField (h : HasWords clause []) : ClauseFails clause .emptyOrderByField
  | noDirection {field word : List Char} (h : HasWords clause [field, word])
      (hword : ∀ d : Direction, ¬d.Spelled word) :
      ClauseFails clause (.invalidDirection (String.ofList field) (String.ofList word))
  | tooMany {found : List (List Char)} {stripped : List Char} (h : HasWords clause found)
      (hmany : 3 ≤ found.length) (hstripped : Strips clause stripped) :
      ClauseFails clause (.malformedOrderBy (String.ofList stripped))

/-! ## Words of directions -/

theorem map_toLower_eq_iff {letters : List Char} (h : ∀ l ∈ letters,
      l.toNat = l.toUpper.toNat + 0x20 ∧ 0x41 ≤ l.toUpper.toNat ∧ l.toUpper.toNat ≤ 0x5a)
    (word : List Char) :
    word.map Char.toLower = letters ↔
      List.Forall₂ (fun c letter => c = letter ∨ c = letter.toUpper) word letters := by
  induction letters generalizing word with
  | nil => simp
  | cons letter letters ih =>
    cases word with
    | nil => simp
    | cons c word =>
      obtain ⟨⟨hsmall, hcapital⟩, hletters⟩ := List.forall_mem_cons.mp h
      rw [List.map_cons, List.cons.injEq, Text.toLower_eq_iff_of_letter hsmall hcapital,
        ih hletters, List.forall₂_cons]

theorem spelled_iff {d : Direction} {word : List Char} :
    d.Spelled word ↔ Direction.lowerAscii word = d.word.toList := by
  rw [Direction.Spelled, Direction.lowerAscii, map_toLower_eq_iff]
  cases d <;> simp [Direction.word]

theorem ofWord?_eq_some_iff {d : Direction} {word : List Char} :
    Direction.ofWord? (String.ofList word) = some d ↔ d.Spelled word := by
  rw [spelled_iff, Direction.ofWord?, String.toList_ofList]
  generalize Direction.lowerAscii word = lowered
  cases d with
  | ascending =>
    have hword : Direction.ascending.word.toList = ['a', 's', 'c'] := rfl
    rw [hword]
    split_ifs <;> simp_all
  | descending =>
    have hword : Direction.descending.word.toList = ['d', 'e', 's', 'c'] := rfl
    rw [hword]
    split_ifs <;> simp_all

theorem ofWord?_eq_none_iff {word : List Char} :
    Direction.ofWord? (String.ofList word) = none ↔ ∀ d : Direction, ¬d.Spelled word := by
  rw [Option.eq_none_iff_forall_ne_some]
  simp only [ne_eq, ofWord?_eq_some_iff]

/-! ## One clause -/

variable {clause : List Char}

theorem orderClause_of_reads {key : OrderKey} (h : ClauseReads clause key) :
    orderClause clause = .ok key := by
  cases h with
  | field h => rw [orderClause, h.words_eq, List.map_singleton]
  | directed h hword =>
    simp only [orderClause, h.words_eq, List.map_cons, List.map_nil, ofWord?_eq_some_iff.mpr hword]

theorem orderClause_of_fails {e : ParseError} (h : ClauseFails clause e) :
    orderClause clause = .error e := by
  cases h with
  | noField h => rw [orderClause, h.words_eq, List.map_nil]
  | noDirection h hword =>
    simp only [orderClause, h.words_eq, List.map_cons, List.map_nil, ofWord?_eq_none_iff.mpr hword]
  | @tooMany found stripped h hmany hstripped =>
    rw [orderClause, h.words_eq, Text.strips_iff.mp hstripped]
    rcases found with _ | ⟨first, _ | ⟨second, _ | ⟨third, rest⟩⟩⟩
    · exact absurd hmany (by decide)
    · exact absurd hmany (by simp)
    · exact absurd hmany (by simp)
    · rfl

theorem reads_or_fails (clause : List Char) :
    (∃ key, ClauseReads clause key) ∨ ∃ e, ClauseFails clause e := by
  have hwords : HasWords clause (words clause) := hasWords_iff.mpr rfl
  match hfound : words clause with
  | [] => exact .inr ⟨_, .noField (hfound ▸ hwords)⟩
  | [field] => exact .inl ⟨_, .field (hfound ▸ hwords)⟩
  | [field, word] =>
    by_cases hword : ∃ d : Direction, d.Spelled word
    · obtain ⟨d, hd⟩ := hword
      exact .inl ⟨_, .directed (hfound ▸ hwords) hd⟩
    · exact .inr ⟨_, .noDirection (hfound ▸ hwords) (not_exists.mp hword)⟩
  | first :: second :: third :: rest =>
    exact .inr ⟨_, .tooMany (hfound ▸ hwords) (by simp) (Text.strips_iff.mpr rfl)⟩

theorem orderClause_eq_ok_iff {key : OrderKey} :
    orderClause clause = .ok key ↔ ClauseReads clause key := by
  refine ⟨fun h => ?_, orderClause_of_reads⟩
  rcases reads_or_fails clause with ⟨key', hreads⟩ | ⟨e, hfails⟩
  · rw [orderClause_of_reads hreads, Except.ok.injEq] at h
    exact h ▸ hreads
  · rw [orderClause_of_fails hfails] at h
    cases h

theorem orderClause_eq_error_iff {e : ParseError} :
    orderClause clause = .error e ↔ ClauseFails clause e := by
  refine ⟨fun h => ?_, orderClause_of_fails⟩
  rcases reads_or_fails clause with ⟨key, hreads⟩ | ⟨e', hfails⟩
  · rw [orderClause_of_reads hreads] at h
    cases h
  · rw [orderClause_of_fails hfails, Except.error.injEq] at h
    exact h ▸ hfails

/-- A value is read if each of its clauses is, to one key for each clause. Otherwise its error is
that of the leftmost clause that cannot be read. -/
theorem parseOrderBy_grammar (raw : String) :
    ∃ clauses, Parts raw clauses ∧
      (∀ order, parseOrderBy raw = .ok order ↔ List.Forall₂ ClauseReads clauses order) ∧
      ((∃ order, parseOrderBy raw = .ok order) ↔
        ∀ clause ∈ clauses, ∃ key, ClauseReads clause key) ∧
      ∀ e, parseOrderBy raw = .error e ↔
        FirstAfter (fun clause => ∃ key, ClauseReads clause key) (ClauseFails · e) clauses := by
  have hreads : ClauseReads = fun clause key => orderClause clause = .ok key :=
    funext₂ fun _ _ => propext orderClause_eq_ok_iff.symm
  have hfails : ClauseFails = fun clause e => orderClause clause = .error e :=
    funext₂ fun _ _ => propext orderClause_eq_error_iff.symm
  rw [hreads, hfails]
  exact ⟨commaParts raw, parts_iff.mpr rfl, fun order => mapM_eq_ok_iff,
    exists_mapM_eq_ok_iff, fun e => mapM_eq_error_iff⟩

example : parseOrderBy "title\u2003DESC,a  b\u00a0c ,," = .error (.malformedOrderBy "a  b\u00a0c") :=
  rfl

/-! ## The text of a sort order -/

theorem parseOrderBy_display_of_fields {order : SortOrder} (hne : order ≠ [])
    (h : ∀ key ∈ order, OrderField key.field) : parseOrderBy order.display = .ok order := by
  have hblank : ∀ c ∈ [' '], isBlank c = true := List.forall_mem_singleton.mpr (by decide)
  refine parseOrderBy_of_joined hblank hne h ?_
  rw [SortOrder.display, if_neg (by simpa using hne), String.toList_intercalate, List.map_map]
  rfl

/-- A sort order that was read is read again from its own text, and the sort orders that are read
from their own texts are those that have keys, each with a field of one word. -/
theorem parseOrderBy_display :
    (∀ raw order, parseOrderBy raw = .ok order → parseOrderBy order.display = .ok order) ∧
    ∀ order : SortOrder, parseOrderBy order.display = .ok order ↔
      order ≠ [] ∧ ∀ key ∈ order, OrderField key.field := by
  have hread : ∀ raw order, parseOrderBy raw = .ok order →
      order ≠ [] ∧ ∀ key ∈ order, OrderField key.field :=
    fun raw order h => forall_of_commaParts orderClause_spec h
  refine ⟨fun raw order h => ?_, fun order => ⟨hread order.display order, ?_⟩⟩
  · obtain ⟨hne, hfields⟩ := hread raw order h
    exact parseOrderBy_display_of_fields hne hfields
  · rintro ⟨hne, hfields⟩
    exact parseOrderBy_display_of_fields hne hfields

/-- Blanks at both ends of a clause, and the word of a direction as a field. -/
theorem parseOrderBy_display_blanks :
    let order : SortOrder := [⟨"title", .descending⟩, ⟨"desc", .ascending⟩]
    parseOrderBy "\u2003title\u00a0 DeSC\t,desc" = .ok order ∧
      parseOrderBy order.display = .ok order ∧ ∀ key ∈ order, OrderField key.field := by
  intro order
  have hraw : parseOrderBy "\u2003title\u00a0 DeSC\t,desc" = .ok order := rfl
  have hdisplay := parseOrderBy_display.1 _ order hraw
  exact ⟨hraw, hdisplay, ((parseOrderBy_display.2 order).mp hdisplay).2⟩

end Query
end RowQuery

import RowQuery.Proofs.Memory.Narrowed
import RowQuery.Proofs.Memory.Row
import RowQuery.Proofs.Memory.Sorted

/-!
# The answer to a sequence of changes

Rows in memory record changes and evaluate them late. The order of calls matters within one kind of
change only: keys are collected, and of the fields, the limits and the offsets the last one counts.
The rows are sorted by all the keys, cut at the front, cut at the end and then projected, if the
sort has an answer.
-/
namespace RowQuery

namespace Change

inductive Kind
  | restrict
  | limit
  | offset
  | order
deriving DecidableEq, Repr

def kind : Change → Kind
  | restrict _ => .restrict
  | limit _ => .limit
  | offset _ => .offset
  | order _ => .order

def fields? : Change → Option (List String)
  | restrict fields => some fields
  | _ => none

def limit? : Change → Option UInt64
  | limit count => some count
  | _ => none

def offset? : Change → Option UInt64
  | offset count => some count
  | _ => none

def key? : Change → Option OrderKey
  | order key => some key
  | _ => none

/-- Two sequences in which the changes of each kind follow one another alike. -/
def SameByKind (changes other : List Change) : Prop :=
  ∀ kind : Kind, changes.filter (·.kind = kind) = other.filter (·.kind = kind)

variable {changes other : List Change}

theorem filterMap_filter_kind {α : Type} {f : Change → Option α} {kind : Kind}
    (hf : ∀ change, change.kind ≠ kind → f change = none) (changes : List Change) :
    (changes.filter (·.kind = kind)).filterMap f = changes.filterMap f := by
  induction changes with
  | nil => rfl
  | cons change rest ih =>
    by_cases h : change.kind = kind
    · simp [h, List.filterMap_cons, ih]
    · simp [h, hf change h, ih]

theorem SameByKind.filterMap_eq {α : Type} {f : Change → Option α} {kind : Kind}
    (h : SameByKind changes other) (hf : ∀ change, change.kind ≠ kind → f change = none) :
    changes.filterMap f = other.filterMap f := by
  rw [← filterMap_filter_kind hf changes, h kind, filterMap_filter_kind hf]

theorem parts_of_kind_ne (change : Change) :
    (change.kind ≠ .restrict → change.fields? = none) ∧
    (change.kind ≠ .limit → change.limit? = none) ∧
    (change.kind ≠ .offset → change.offset? = none) ∧
    (change.kind ≠ .order → change.key? = none) := by
  cases change <;> simp [kind, fields?, limit?, offset?, key?]

theorem SameByKind.parts_eq (h : SameByKind changes other) :
    changes.filterMap fields? = other.filterMap fields? ∧
    changes.filterMap limit? = other.filterMap limit? ∧
    changes.filterMap offset? = other.filterMap offset? ∧
    changes.filterMap key? = other.filterMap key? :=
  ⟨h.filterMap_eq fun change => change.parts_of_kind_ne.1,
    h.filterMap_eq fun change => change.parts_of_kind_ne.2.1,
    h.filterMap_eq fun change => change.parts_of_kind_ne.2.2.1,
    h.filterMap_eq fun change => change.parts_of_kind_ne.2.2.2⟩

end Change

namespace MemoryQuery

open Change (fields? limit? offset? key? SameByKind)

def evaluate (changes : List Change) (v : Json) : Except QueryError (Option (List Json)) := do
  let q ← ofJson v
  let q ← changes.foldlM (fun q change => change.perform q) q
  .ok (q.rows.map fun rows => rows.map .object)

/-- What is left of rows in order: the last offset and the last limit cut them, and each row is
projected to the last list of fields. -/
def answer (changes : List Change) (arranged : List Row) : List Row :=
  let rest := arranged.drop ((changes.filterMap offset?).getLast?.elim 0 UInt64.toNat)
  let page := rest.take ((changes.filterMap limit?).getLast?.elim rest.length UInt64.toNat)
  page.map fun row => (changes.filterMap fields?).getLast?.elim row row.listed

theorem rowsFrom_map_object (index : Nat) (rows : List Row) :
    rowsFrom index (rows.map .object) = .ok rows := by
  induction rows generalizing index with
  | nil => rfl
  | cons row rest ih => simp [rowsFrom, rowOf, ih, ok_bind]

theorem foldlM_perform (changes : List Change) (q : MemoryQuery) :
    changes.foldlM (fun q change => change.perform q) q = .ok (changes.foldl withChange q) := by
  induction changes generalizing q with
  | nil => rfl
  | cons change rest ih => rw [List.foldlM_cons, perform_eq, ok_bind, ih, List.foldl_cons]

theorem foldl_withChange (changes : List Change) (q : MemoryQuery) :
    changes.foldl withChange q =
      { source := q.source
        select := (changes.filterMap fields?).getLast?.or q.select
        limit := (changes.filterMap limit?).getLast?.or q.limit
        offset := (changes.filterMap offset?).getLast?.or q.offset
        order := q.order ++ changes.filterMap key? } := by
  induction changes generalizing q with
  | nil => simp
  | cons change rest ih =>
    rw [List.foldl_cons, ih]
    cases change <;>
      simp [withChange, List.filterMap_cons, fields?, limit?, offset?, key?, List.getLast?_cons,
        Option.or_some]

theorem page_eq_take (q : MemoryQuery) (rows : List Row) :
    q.page rows = (rows.drop (q.offset.elim 0 UInt64.toNat)).take
      (q.limit.elim (rows.drop (q.offset.elim 0 UInt64.toNat)).length UInt64.toNat) := by
  cases h : q.limit with
  | none => simp only [page, h, Option.elim_none, List.take_length]
  | some count => simp only [page, h, Option.elim_some]

theorem projection_eq_elim (q : MemoryQuery) (row : Row) :
    q.projection row = q.select.elim row row.listed := by
  cases h : q.select <;> simp [projection, h, Row.project_eq_listed]

theorem evaluate_map_object (changes : List Change) (rows : List Row) :
    evaluate changes (.array (rows.map .object)) =
      .ok ((Sort.sort? (SortOrder.compare (changes.filterMap key?)) rows).map fun arranged =>
        (answer changes arranged).map .object) := by
  have hofJson : ofJson (.array (rows.map .object)) = .ok { source := rows } := by
    simp [ofJson, rowsFrom_map_object, ok_bind]
  have hprojection : ∀ q : MemoryQuery, q.projection = fun row => q.select.elim row row.listed :=
    fun q => funext q.projection_eq_elim
  rw [evaluate, hofJson, ok_bind, foldlM_perform, ok_bind, foldl_withChange]
  simp only [MemoryQuery.rows, sorted_eq, page_eq_take, hprojection, Option.or_none,
    List.nil_append, Option.map_map]
  rfl

theorem sort?_nil (rows : List Row) : Sort.sort? (SortOrder.compare []) rows = some rows :=
  (sorted_eq { source := rows }).symm

/-- The rows that a sequence of changes leaves: sorted by all keys, cut and projected. If the keys
are a preorder on the rows, the sort gives the one stable arrangement of them. Of no more than 20
rows it gives an arrangement always, and the stable one if there is one; of more rows that the keys
tear it may give any, or none. What counts of the sequence are the changes of each kind by
themselves. -/
theorem evaluate_eq_answer (rows : List Row) (changes : List Change) :
    let v : Json := .array (rows.map .object)
    let keys : SortOrder := changes.filterMap key?
    let arranged := Sort.sort? keys.compare rows
    evaluate changes v = .ok (arranged.map fun sorted => (answer changes sorted).map .object) ∧
    (∀ sorted ∈ arranged, sorted.Perm rows) ∧
    (Sort.PreorderOn keys.compare rows →
      ∃ sorted, arranged = some sorted ∧ Sort.StablySorted keys.compare rows sorted) ∧
    (Sort.PreorderOn keys.compare rows ∨ rows.length ≤ 20 → ∃ sorted, arranged = some sorted ∧
      ∀ other, Sort.StablySorted keys.compare rows other → sorted = other) ∧
    (keys = [] → arranged = some rows) ∧
    (∀ other, SameByKind other changes → evaluate other v = evaluate changes v) ∧
    evaluate [] v = .ok (some (rows.map .object)) := by
  intro v keys arranged
  refine ⟨evaluate_map_object changes rows, fun _ => Sort.sort?_perm, ?_, ?_, ?_, ?_, ?_⟩
  · exact fun h => ⟨_, h.sort?_eq, h.stablySorted_sort⟩
  · intro h
    have harranged : arranged = some (Sort.sort keys.compare rows) :=
      h.elim (fun hpreorder => hpreorder.sort?_eq) Sort.sort?_of_length_le
    exact ⟨_, harranged, fun _ hstable => hstable.sort_eq fun a _ b _ => keys.compare_swap a b⟩
  · intro h
    simp only [arranged, h, sort?_nil]
  · intro other h
    obtain ⟨hfields, hlimit, hoffset, hkeys⟩ := h.parts_eq
    rw [evaluate_map_object, evaluate_map_object]
    simp only [answer, hfields, hlimit, hoffset, hkeys]
  · simp [v, evaluate_map_object, answer, sort?_nil]

/-- Three rows, two of them alike, under changes in an order that does not matter. -/
theorem evaluate_three_rows :
    let first : Row := [("id", .number (.int ⟨1, by decide, by decide⟩)), ("title", .string "b")]
    let second : Row := [("id", .number (.int ⟨2, by decide, by decide⟩)), ("title", .null)]
    let third : Row := [("title", .null), ("id", .number (.int ⟨3, by decide, by decide⟩))]
    let rows := [first, second, third]
    let sorted := [second, third, first]
    let changes : List Change := [.limit 5, .order ⟨"title", .ascending⟩,
      .restrict ["id", "year", "id"], .offset 1, .limit 1]
    let other : List Change := [.order ⟨"title", .ascending⟩, .offset 1, .limit 5, .limit 1,
      .restrict ["id", "year", "id"]]
    let keys : SortOrder := changes.filterMap key?
    Sort.PreorderOn keys.compare rows ∧ Sort.StablySorted keys.compare rows sorted ∧
    SameByKind other changes ∧
    Sort.sort? keys.compare rows = some sorted ∧
    evaluate other (.array (rows.map .object)) =
      .ok (some [.object [("id", .number (.int ⟨3, by decide, by decide⟩))]]) ∧
    evaluate [.limit 1] (.array (rows.map .object)) = .ok (some [.object first]) := by
  intro first second third rows sorted changes other keys
  have hpreorder : Sort.PreorderOn keys.compare rows :=
    ⟨by decide, by decide, by decide, by decide⟩
  have hnumbered : Sort.StablySorted keys.compare rows sorted :=
    ⟨[(second, 1), (third, 2), (first, 0)],
      @List.perm_append_comm _ [(second, 1), (third, 2)] [(first, 0)], by decide, rfl⟩
  have hsame : SameByKind other changes := by
    intro kind
    cases kind <;> rfl
  obtain ⟨hanswer, -, -, honly, -, hother, -⟩ := evaluate_eq_answer rows changes
  obtain ⟨hlimited, -, -, -, hunsorted, -, -⟩ := evaluate_eq_answer rows [.limit 1]
  obtain ⟨arranged, harranged, heq⟩ := honly (.inl hpreorder)
  rw [heq sorted hnumbered] at harranged
  refine ⟨hpreorder, hnumbered, hsame, harranged, ?_, ?_⟩
  · rw [hother other hsame, hanswer, harranged]
    rfl
  · rw [hlimited, hunsorted rfl]
    rfl

/-- Under a key that tears 21 rows there is no answer. -/
theorem evaluate_torn_rows :
    SortOrder.tornRows.length = 21 ∧
    evaluate [.order ⟨"v", .ascending⟩] (.array (SortOrder.tornRows.map .object)) = .ok none := by
  refine ⟨rfl, ?_⟩
  rw [evaluate_map_object]
  exact congrArg (fun arranged : Option (List Row) => Except.ok (arranged.map _))
    SortOrder.sort?_tornRows

end MemoryQuery
end RowQuery

import Mathlib.Data.List.Forall2
import RowQuery.Memory.Basic
import RowQuery.Proofs.Memory.Row

/-!
# What may be seen of rows in memory

Hidden fields are taken out of the finished rows. No row is lost or moved by that, a row keeps its
other fields in their order with their values, and nothing hidden is left at its top level, whatever
the projection asked for. Taking hidden fields out after a projection is projecting to the visible
ones among its fields.
-/
namespace RowQuery

namespace Row

variable {row seen : Row} {hidden : NameSet}

/-- What is seen of a row: its visible keys, in their order and with their values. -/
structure SeenAs (hidden : NameSet) (row seen : Row) : Prop where
  keys : seen.map Prod.fst = (row.map Prod.fst).filter fun key => !hidden.contains key
  values : ∀ key, hidden.contains key = false → seen.get? key = row.get? key

theorem keys_without (row : Row) (hidden : NameSet) :
    (row.without hidden.toList).map Prod.fst =
      (row.map Prod.fst).filter fun key => !hidden.contains key := by
  induction row with
  | nil => rfl
  | cons member rest ih =>
    obtain ⟨key, value⟩ := member
    rw [without_cons, List.map_cons, List.filter_cons]
    by_cases hkey : key ∈ hidden.toList
    · simpa [hkey, NameSet.contains] using ih
    · simpa [hkey, NameSet.contains] using ih

theorem seenAs_without (row : Row) (hidden : NameSet) :
    SeenAs hidden row (row.without hidden.toList) := by
  constructor
  · exact keys_without row hidden
  · intro key hkey
    apply get?_without
    simpa [NameSet.contains] using hkey

theorem SeenAs.not_hidden (h : SeenAs hidden row seen) :
    ∀ key ∈ seen.map Prod.fst, hidden.contains key = false := by
  intro key hkey
  rw [h.keys, List.mem_filter] at hkey
  simpa using hkey.2

end Row

namespace MemoryQuery

variable {q : MemoryQuery} {policy : Policy} {recordType : String}

theorem visibleRows_seenAs (q : MemoryQuery) (policy : Policy) (recordType : String) :
    Option.Rel (List.Forall₂ (Row.SeenAs (policy.hiddenFields recordType))) q.rows
      (q.visibleRows policy recordType) := by
  rw [visibleRows]
  cases q.rows with
  | none => exact .none
  | some rows =>
    refine .some ?_
    rw [List.forall₂_map_right_iff, List.forall₂_same]
    intro row _
    exact Row.seenAs_without row _

theorem not_hidden_of_visible {rows : List Row} (h : rows ∈ q.visibleRows policy recordType) :
    ∀ seen ∈ rows, ∀ key ∈ seen.map Prod.fst,
      (policy.hiddenFields recordType).contains key = false := by
  intro seen hmem
  rw [visibleRows, Option.mem_def, Option.map_eq_some_iff] at h
  obtain ⟨source, -, rfl⟩ := h
  obtain ⟨row, -, rfl⟩ := List.mem_map.mp hmem
  exact (Row.seenAs_without row _).not_hidden

theorem visibleRows_eq_rows {fields : List String} (hselect : q.select = some fields) :
    q.visibleRows policy recordType =
      { q with select := some (fields.filter fun field =>
          !(policy.hiddenFields recordType).contains field) }.rows := by
  have hkept : (fields.filter fun field => !(policy.hiddenFields recordType).contains field) =
      fields.filter (· ∉ (policy.hiddenFields recordType).toList) := by
    apply List.filter_congr
    intro field _
    by_cases hfield : field ∈ (policy.hiddenFields recordType).toList <;>
      simp [NameSet.contains, hfield]
  have hrow : ∀ row : Row, (q.projection row).without (policy.hiddenFields recordType).toList =
      row.project (fields.filter (· ∉ (policy.hiddenFields recordType).toList)) := by
    intro row
    simp only [projection, hselect]
    exact Row.without_project row fields _
  rw [visibleRows, rows, rows, Option.map_map, hkept]
  refine Option.map_congr fun sorted _ => ?_
  rw [Function.comp_apply, List.map_map]
  exact List.map_congr_left fun row _ => hrow row

theorem rows_of_select_nil (hselect : q.select = some []) :
    q.rows = q.rows.map fun rows => List.replicate rows.length [] := by
  have hrow : q.projection = fun _ => [] := by
    funext row
    simp only [projection, hselect]
    rfl
  rw [rows, Option.map_map]
  simp only [hrow, Function.comp_def, List.map_const', List.length_replicate]

/-- Whatever was done to a query before, its visible rows have no hidden key. They are its rows, one
for one and in their order, each with its visible keys as they were, and if it has no answer there
are none to see. Where there is a projection, they are the rows of the query that is restricted to
the visible ones of its fields instead, and rows without members if there are none. -/
theorem visibleRows_hide (q : MemoryQuery) (policy : Policy) (recordType : String) :
    let hidden := policy.hiddenFields recordType
    let visible := q.visibleRows policy recordType
    (∀ rows ∈ visible, ∀ seen ∈ rows, ∀ key ∈ seen.map Prod.fst, hidden.contains key = false) ∧
    Option.Rel (List.Forall₂ (Row.SeenAs hidden)) q.rows visible ∧
    ∀ fields, q.select = some fields →
      let kept := fields.filter fun field => !hidden.contains field
      (∃ next, Target.restrictFields kept q = .ok next ∧ visible = next.rows) ∧
      (kept = [] → visible = q.rows.map fun rows => List.replicate rows.length []) := by
  intro hidden visible
  refine ⟨fun _ => not_hidden_of_visible, visibleRows_seenAs q policy recordType, ?_⟩
  intro fields hselect kept
  have hrows : visible = { q with select := some kept }.rows := visibleRows_eq_rows hselect
  refine ⟨⟨_, rfl, hrows⟩, ?_⟩
  intro hnone
  have hempty := rows_of_select_nil (q := { q with select := some kept }) (by rw [hnone])
  rw [hrows, hempty, rows, rows, Option.map_map, Option.map_map]
  simp only [Function.comp_def, List.length_map]
  rfl

/-- The author is hidden, asked for twice and first or alone, and missing from one row. -/
theorem visibleRows_hide_author :
    let policy : Policy := .ofSets fun _ => ⟨["author"], List.pairwise_singleton _ _⟩
    let fields := ["author", "title", "year", "author", "title"]
    let q : MemoryQuery :=
      { source := [[("title", .string "b"), ("author", .string "x")], [("title", .string "a")]]
        select := some fields
        order := [⟨"author", .descending⟩] }
    q.select = some fields ∧
    q.rows = some [[("author", .string "x"), ("title", .string "b")], [("title", .string "a")]] ∧
    q.visibleRows policy "book" = some [[("title", .string "b")], [("title", .string "a")]] ∧
    ∃ next, Target.restrictFields ["title", "year", "title"] q = .ok next ∧
      q.visibleRows policy "book" = next.rows ∧
    { q with select := some ["author"] }.visibleRows policy "book" = some [[], []] := by
  intro policy fields q
  have hsome := ((visibleRows_hide q policy "book").2.2 fields rfl).1
  have hnone := ((visibleRows_hide { q with select := some ["author"] } policy "book").2.2
    ["author"] rfl).2 rfl
  obtain ⟨next, hnext, hvisible⟩ := hsome
  exact ⟨rfl, rfl, rfl, next, hnext, hvisible, hnone⟩

end MemoryQuery
end RowQuery

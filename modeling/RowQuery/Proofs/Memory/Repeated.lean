import RowQuery.Proofs.Memory.Paged

/-!
# Keys that decide nothing

A key is asked only about rows that the keys before it find alike, and under one field two values
are alike in both directions or in none. So a key whose field was there before changes no comparison
of rows, whether or not the comparison orders them. To apply a query again only repeats keys:
the rows it selects are the same as after the first time.
-/
namespace RowQuery

namespace SortOrder

variable {before after : SortOrder} {key : OrderKey}

theorem compare_without_repeated (h : ∃ known ∈ before, known.field = key.field) :
    SortOrder.compare (before ++ key :: after) = SortOrder.compare (before ++ after) := by
  have hknows : before.Knows [key] := List.forall_mem_singleton.mpr h
  funext a b
  rw [← List.singleton_append, ← List.append_assoc, compare_append, compare_append_of_knows hknows,
    compare_append]

end SortOrder

namespace MemoryQuery

variable {a : Applier} {query : Query} {q r : MemoryQuery} {order : SortOrder}

theorem rows_of_compare_eq (h : order.compare = q.order.compare) :
    { q with order }.rows = q.rows := by
  have hsorted : { q with order }.sorted = q.sorted := by simp only [sorted_eq, h]
  rw [rows, rows, hsorted]
  rfl

theorem visibleRows_of_compare_eq (h : order.compare = q.order.compare) (policy : Policy)
    (recordType : String) :
    { q with order }.visibleRows policy recordType = q.visibleRows policy recordType := by
  rw [visibleRows, visibleRows, rows_of_compare_eq h]

theorem narrowed_narrowed (q : MemoryQuery) (query : Query) :
    (q.narrowed query).narrowed query =
      { q.narrowed query with order := (q.narrowed query).order ++ query.orderBy.getD [] } := by
  cases query with
  | mk select top skip orderBy => cases select <;> cases top <;> cases skip <;> rfl

theorem validate_narrowed (a : Applier) (query : Query) (q : MemoryQuery) :
    a.validate query (q.narrowed query) = a.validate query q :=
  Applier.validate_congr_of_fieldsOf fun _ _ => rfl

theorem result_apply_eq_ok_iff :
    (a.apply query q).result = .ok r ↔
      (a.validate query q).result = .ok () ∧ r = q.narrowed query := by
  rw [result_apply]
  cases a.validate query q |>.result with
  | error fault => simp [Except.mapError]
  | ok u => simp [eq_comm]

theorem compare_order_narrowed_twice (q : MemoryQuery) (query : Query) :
    SortOrder.compare ((q.narrowed query).order ++ query.orderBy.getD []) =
      (q.narrowed query).order.compare :=
  SortOrder.compare_append_of_knows fun key hkey =>
    ⟨key, List.mem_append_right q.order hkey, rfl⟩

/-- A query that was applied is accepted again. That makes the order longer and nothing else: rows
compare as before, and the same ones are selected and shown. In any order, a key whose field comes
earlier can be left out, whatever the directions are. -/
theorem apply_again (h : (a.apply query q).result = .ok r) :
    (∃ s, (a.apply query r).result = .ok s ∧
      s = { r with order := r.order ++ query.orderBy.getD [] } ∧
      s.order.compare = r.order.compare ∧ s.rows = r.rows ∧
      ∀ policy recordType, s.visibleRows policy recordType = r.visibleRows policy recordType) ∧
    ∀ (t : MemoryQuery) (before : SortOrder) (key : OrderKey) (after : SortOrder),
      t.order = before ++ key :: after → (∃ known ∈ before, known.field = key.field) →
        SortOrder.compare (before ++ after) = t.order.compare ∧
        { t with order := before ++ after }.rows = t.rows ∧
        ∀ policy recordType, { t with order := before ++ after }.visibleRows policy recordType =
          t.visibleRows policy recordType := by
  constructor
  · obtain ⟨hvalid, rfl⟩ := result_apply_eq_ok_iff.mp h
    have hagain := (validate_narrowed a query q).symm ▸ hvalid
    have hcompare := compare_order_narrowed_twice q query
    exact ⟨_, result_apply_eq_ok_iff.mpr ⟨hagain, narrowed_narrowed q query ▸ rfl⟩, rfl, hcompare,
      rows_of_compare_eq hcompare, visibleRows_of_compare_eq hcompare⟩
  · intro t before key after horder hknown
    have hcompare : SortOrder.compare (before ++ after) = t.order.compare := by
      rw [horder, SortOrder.compare_without_repeated hknown]
    exact ⟨hcompare, rows_of_compare_eq hcompare, visibleRows_of_compare_eq hcompare⟩

/-- Books of two shelves. The second application sorts by the shelf again, and the order has the
number twice in either direction. -/
theorem apply_again_shelf :
    let a : Applier := { policy := .allVisible, recordType := "book" }
    let row := fun (shelf : String) (number : UInt64) =>
      ([("shelf", .string shelf), ("number", .ofUInt64 number)] : Row)
    let q : MemoryQuery :=
      { source := [row "b" 1, row "a" 1, row "b" 2], order := [⟨"number", .descending⟩] }
    let query : Query :=
      { top := some 2, orderBy := some [⟨"shelf", .ascending⟩, ⟨"number", .ascending⟩] }
    let r := q.narrowed query
    let kept : SortOrder := [⟨"number", .descending⟩, ⟨"shelf", .ascending⟩]
    (a.apply query q).result = .ok r ∧
    (∃ s, (a.apply query r).result = .ok s ∧ s.order.length = 5 ∧
      s.rows = some [row "b" 2, row "a" 1]) ∧
    (∃ known ∈ kept, known.field = "number") ∧ { r with order := kept }.rows = r.rows := by
  intro a row q query r kept
  have hr : (a.apply query q).result = .ok r := rfl
  have hrows : r.rows = some [row "b" 2, row "a" 1] := rfl
  have hknown : ∃ known ∈ kept, known.field = "number" := ⟨_, List.mem_cons_self, rfl⟩
  obtain ⟨⟨s, hs, hstate, -, hsame, -⟩, hleft⟩ := apply_again hr
  have hlength : s.order.length = 5 := by rw [hstate]; rfl
  have horder : r.order = kept ++ ⟨"number", .ascending⟩ :: [] := rfl
  exact ⟨hr, ⟨s, hs, hlength, hsame.trans hrows⟩, hknown, (hleft r kept _ [] horder hknown).2.1⟩

end MemoryQuery
end RowQuery

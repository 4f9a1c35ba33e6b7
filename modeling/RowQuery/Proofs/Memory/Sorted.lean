import RowQuery.Memory.Basic
import RowQuery.Proofs.Memory.Lexicographic
import RowQuery.Proofs.Memory.Sort.Stable

/-!
# When rows in memory can be sorted

Rows without keys are left alone, which is what a sort that finds all of them alike does. So there
is one law for all queries: rows are sorted by all keys, and they come out as a stable sort puts
them wherever the keys are a preorder on them. Without that, short lists have an answer all the
same, and long ones may have none.
-/
namespace RowQuery

namespace SortOrder

variable {order : SortOrder} {rows : List Row} {a b : Row}

theorem preorderOn_nil (rows : List Row) : Sort.PreorderOn (SortOrder.compare []) rows :=
  .of_trans (fun _ _ _ _ => rfl) fun _ _ _ _ _ _ _ _ => Ordering.noConfusion

theorem preorderOn_of_two (order : SortOrder) (h : ∀ row ∈ rows, row = a ∨ row = b) :
    Sort.PreorderOn order.compare rows := by
  refine .of_trans (fun a _ b _ => compare_swap order a b) fun x hx y hy z hz => ?_
  refine trans_of_not_torn (fun f hf m hm n hn htorn => ?_) hx hy hz
  obtain ⟨hnf, hfm, hnm⟩ := circle_of_torn htorn
  have hself := compare_self order
  rcases h f hf with rfl | rfl <;> rcases h m hm with rfl | rfl <;>
    rcases h n hn with rfl | rfl <;> simp_all

/-- An integer and the next one by turns, and among them the first as a binary number. -/
def tornRows : List Row :=
  let row := fun v : Number => ([("v", .number v)] : Row)
  let low := row (.int ⟨9007199254740992, by decide, by decide⟩)
  let high := row (.int ⟨9007199254740993, by decide, by decide⟩)
  let float := row (.float { negative := false, magnitude := 4845873199050653696 })
  [high, low] ++ List.replicate 8 high ++ [float] ++ List.replicate 10 low

theorem sort?_tornRows : Sort.sort? (SortOrder.compare [⟨"v", .ascending⟩]) tornRows = none := by
  rw [← Option.isNone_iff_eq_none]
  decide +kernel

end SortOrder

namespace MemoryQuery

variable {q : MemoryQuery} {sorted : List Row}

theorem sorted_eq (q : MemoryQuery) : q.sorted = Sort.sort? q.order.compare q.source := by
  rw [MemoryQuery.sorted]
  split
  · rename_i hnone
    have halike : Sort.sort (SortOrder.compare []) q.source = q.source :=
      Sort.sort_eq_self fun _ _ _ _ => rfl
    rw [List.isEmpty_iff.mp hnone, (SortOrder.preorderOn_nil q.source).sort?_eq, halike]
  · rfl

theorem sorted_perm (h : q.sorted = some sorted) : sorted.Perm q.source :=
  Sort.sort?_perm (q.sorted_eq.symm.trans h)

theorem isSome_sorted (h : Sort.PreorderOn q.order.compare q.source ∨ q.source.length ≤ 20) :
    q.sorted.isSome := by
  rw [sorted_eq]
  rcases h with hpreorder | hshort
  · rw [hpreorder.sort?_eq, Option.isSome_some]
  · rw [Sort.sort?_of_length_le hshort, Option.isSome_some]

end MemoryQuery
end RowQuery

import RowQuery.Proofs.Memory.Sort
import RowQuery.Sql.Evaluate

/-!
# What a database does with rows

A database rearranges rows and no more, puts them in the order of the keys, and without keys leaves
them in the order of the primary key. How it arranges rows that the keys leave alike is its own
affair. The stable sort is such a database, since values of a table are totally ordered.
-/
namespace RowQuery.Sql

namespace Cell

def units (c : Cell) : Int := c.units?.getD 0

def characters : Cell → String
  | text s => s
  | _ => ""

theorem compare_eq_compareLex :
    Cell.compare =
      compareLex (compareOn rank) (compareLex (compareOn units) (compareOn characters)) := by
  funext a b
  -- Two numbers have no text, which comes last and decides nothing.
  cases a <;> cases b <;> first | rfl | exact Ordering.then_eq.symm

instance : Std.TransCmp Cell.compare := by
  rw [compare_eq_compareLex]
  infer_instance

end Cell

theorem compareRecords_cons (key : OrderKey) (rest : SortOrder) :
    compareRecords (key :: rest) = compareLex
      (fun a b => key.direction.orient ((a.cell key.field).compare (b.cell key.field)))
      (compareRecords rest) := rfl

theorem transCmp_orient {α : Type} (d : Direction) (cmp : α → α → Ordering) [Std.TransCmp cmp] :
    Std.TransCmp fun a b => d.orient (cmp a b) := by
  cases d with
  | ascending => exact ‹Std.TransCmp cmp›
  | descending =>
    have hflip : (fun a b => Direction.descending.orient (cmp a b)) = fun a b => cmp b a := by
      funext a b
      exact Std.OrientedCmp.eq_swap.symm
    rw [hflip]
    exact {
      eq_swap := Std.OrientedCmp.eq_swap
      isLE_trans := fun hab hbc => Std.TransCmp.isLE_trans hbc hab }

instance (field : String) :
    Std.TransCmp fun a b : Record => (a.cell field).compare (b.cell field) where
  eq_swap := Std.OrientedCmp.eq_swap
  isLE_trans := Std.TransCmp.isLE_trans

instance (keys : SortOrder) : Std.TransCmp (compareRecords keys) := by
  induction keys with
  | nil => exact { eq_swap := rfl, isLE_trans := fun _ _ => rfl }
  | cons key rest ih =>
    have hkey := transCmp_orient key.direction fun a b : Record =>
      (a.cell key.field).compare (b.cell key.field)
    rw [compareRecords_cons]
    infer_instance

theorem compareRecords_swap (keys : SortOrder) (a b : Record) :
    compareRecords keys b a = (compareRecords keys a b).swap :=
  Std.OrientedCmp.eq_swap

namespace Database

structure Lawful (db : Database) : Prop where
  perm : ∀ keys rows, (db.arrange keys rows).Perm rows
  ordered : ∀ keys rows, (db.arrange keys rows).Pairwise fun a b => compareRecords keys a b ≠ .gt
  unkeyed : ∀ rows, db.arrange [] rows = rows

theorem lawful_stable : stable.Lawful where
  perm keys rows := Sort.sort_perm _ rows
  ordered keys rows := by
    refine Sort.pairwise_sort (fun a _ b _ c _ hab hbc => ?_) ?_
    · rw [ne_eq, ← Ordering.isLE_iff_ne_gt] at hab hbc ⊢
      exact Std.TransCmp.isLE_trans hab hbc
    · refine List.pairwise_of_forall fun y x => ?_
      rw [Sort.Follows]
      split
      · simp [*]
      · rename_i hge
        rw [compareRecords_swap, ne_eq, Ordering.swap_eq_gt]
        exact hge
  unkeyed rows := Sort.sort_eq_self fun _ _ _ _ => rfl

end Database
end RowQuery.Sql

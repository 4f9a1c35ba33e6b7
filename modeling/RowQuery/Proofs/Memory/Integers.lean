import Mathlib.Algebra.Group.Int.Defs
import Mathlib.Data.Int.Order.Basic
import RowQuery.Memory.Row
import RowQuery.Proofs.Number.Binary64

/-!
# Integers in order

An integer of 64 bits is signed or unsigned, and some are both. Two integers of one type are compared
as numbers of that type. Two that share no type are rounded first, which keeps what matters: one of
them is negative and the other is past all signed ones. So integers compare as the numbers they are,
and the comparison is a total order on them.
-/
namespace RowQuery

namespace Integer

def FitsSigned (i : Integer) : Prop := -(2 ^ 63) ≤ i.value ∧ i.value < 2 ^ 63

def FitsUnsigned (i : Integer) : Prop := 0 ≤ i.value ∧ i.value < 2 ^ 64

def ShareType (i j : Integer) : Prop :=
  i.FitsSigned ∧ j.FitsSigned ∨ i.FitsUnsigned ∧ j.FitsUnsigned

instance (i : Integer) : Decidable i.FitsSigned := inferInstanceAs (Decidable (_ ∧ _))

instance (i : Integer) : Decidable i.FitsUnsigned := inferInstanceAs (Decidable (_ ∧ _))

instance (i j : Integer) : Decidable (i.ShareType j) := inferInstanceAs (Decidable (_ ∨ _))

theorem fitsSigned_iff {i : Integer} : i.FitsSigned ↔ i.value < 2 ^ 63 := by
  have hlower := i.lower
  exact and_iff_right (by omega)

theorem fitsUnsigned_iff {i : Integer} : i.FitsUnsigned ↔ 0 ≤ i.value := by
  have hupper := i.upper
  exact and_iff_left (by omega)

theorem shareType_iff {i j : Integer} :
    i.ShareType j ↔ i.value < 2 ^ 63 ∧ j.value < 2 ^ 63 ∨ 0 ≤ i.value ∧ 0 ≤ j.value := by
  rw [ShareType, fitsSigned_iff, fitsSigned_iff, fitsUnsigned_iff, fitsUnsigned_iff]

theorem apart_of_not_shareType {i j : Integer} (h : ¬i.ShareType j) :
    i.value < 0 ∧ 2 ^ 63 ≤ j.value ∨ 2 ^ 63 ≤ i.value ∧ j.value < 0 := by
  rw [shareType_iff] at h
  omega

theorem eq_of_value_eq {i j : Integer} (h : i.value = j.value) : i = j := by
  cases i
  cases j
  simpa using h

end Integer

namespace Number

variable {i j : Integer}

theorem compare_of_shareType (h : i.ShareType j) :
    (int i).compare (int j) = Ord.compare i.value j.value := by
  rw [Integer.shareType_iff] at h
  rw [compare, if_pos (by simpa using h)]

theorem compare_of_not_shareType (h : ¬i.ShareType j) :
    (int i).compare (int j) = Ord.compare (int i).position (int j).position := by
  rw [Integer.shareType_iff] at h
  rw [compare, if_neg (by simpa using h)]

theorem position_int_lt (hi : i.value < 0) (hj : 0 ≤ j.value) :
    (int i).position < (int j).position := by
  simpa [position, hi, hj.not_gt] using Binary64.position_neg_lt _ _

theorem compare_position_of_not_shareType (h : ¬i.ShareType j) :
    Ord.compare (int i).position (int j).position = Ord.compare i.value j.value := by
  rcases Integer.apart_of_not_shareType h with ⟨hi, hj⟩ | ⟨hi, hj⟩
  · rw [Int.compare_eq_lt.mpr (position_int_lt hi (by omega)), Int.compare_eq_lt.mpr (by omega)]
  · rw [Int.compare_eq_gt.mpr (position_int_lt hj (by omega)), Int.compare_eq_gt.mpr (by omega)]

theorem compare_int (i j : Integer) : (int i).compare (int j) = Ord.compare i.value j.value := by
  by_cases h : i.ShareType j
  · exact compare_of_shareType h
  · rw [compare_of_not_shareType h, compare_position_of_not_shareType h]

theorem transCmp_int : Std.TransCmp fun i j : Integer => (int i).compare (int j) where
  eq_swap {i j} := by
    rw [compare_int, compare_int]
    exact Std.OrientedCmp.eq_swap
  isLE_trans {i j k} hij hjk := by
    rw [compare_int] at hij hjk ⊢
    exact Std.TransCmp.isLE_trans hij hjk

theorem lawfulEqCmp_int : Std.LawfulEqCmp fun i j : Integer => (int i).compare (int j) where
  compare_self {i} := by
    rw [compare_int]
    exact Int.compare_eq_eq.mpr rfl
  eq_of_compare {i j} h := by
    rw [compare_int] at h
    exact Integer.eq_of_value_eq (Int.compare_eq_eq.mp h)

/-- Integers compare as the numbers they are. Without a common type their roundings are compared, one
of a negative integer and one of an integer past the signed ones, and this comes to the same. The
comparison is a total order. -/
theorem compare_integers_exactly :
    (∀ i j : Integer, (int i).compare (int j) = Ord.compare i.value j.value) ∧
    (∀ i j : Integer, ¬i.ShareType j →
      (int i).compare (int j) = Ord.compare (int i).position (int j).position ∧
      (i.value < 0 ∧ 2 ^ 63 ≤ j.value ∨ 2 ^ 63 ≤ i.value ∧ j.value < 0)) ∧
    Std.TransCmp (fun i j : Integer => (int i).compare (int j)) ∧
    Std.LawfulEqCmp (fun i j : Integer => (int i).compare (int j)) :=
  ⟨compare_int,
    fun _ _ h => ⟨compare_of_not_shareType h, Integer.apart_of_not_shareType h⟩,
    transCmp_int, lawfulEqCmp_int⟩

/-- The integers next to the two ends of the signed range, where a common type is lost. -/
theorem compare_integers_exactly_at_boundary :
    let i : Integer := ⟨-1, by decide, by decide⟩
    let j : Integer := ⟨2 ^ 63, by decide, by decide⟩
    ¬i.ShareType j ∧ (int i).compare (int j) = .lt ∧
      (int i).compare (int j) = Ord.compare (int i).position (int j).position ∧
      (i.value < 0 ∧ 2 ^ 63 ≤ j.value ∨ 2 ^ 63 ≤ i.value ∧ j.value < 0) := by
  intro i j
  obtain ⟨hexact, hapart, -⟩ := compare_integers_exactly
  have h : ¬i.ShareType j := by decide
  exact ⟨h, hexact i j, hapart i j h⟩

end Number
end RowQuery

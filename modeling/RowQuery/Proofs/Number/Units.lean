import Mathlib.Algebra.Group.Nat.Defs
import Mathlib.Order.Monotone.Basic
import RowQuery.Number.Binary64

/-!
# Binary numbers in the order of their positions

Each magnitude stands for more units than the one before: within a power of two the significand
grows, and past it the scale does. So two numbers are in the order of their positions, apart from
minus zero, which is no less than zero.
-/
namespace RowQuery.Binary64

theorem units_small {m : Nat} (h : m < 2 ^ 53) : units m = m := by
  have hm : m < Nat.pow 2 53 := h
  simp [units, parts, hm]

theorem units_large {m : Nat} (h : 2 ^ 53 ≤ m) :
    units m = (2 ^ 52 + m % 2 ^ 52) * 2 ^ (m / 2 ^ 52 - 1) := by
  have hm : ¬m < Nat.pow 2 53 := Nat.not_lt.mpr h
  simp only [units, parts, if_neg hm]
  rfl

theorem units_lt_succ (m : Nat) : units m < units (m + 1) := by
  rcases Nat.lt_or_ge (m + 1) (2 ^ 53) with hsmall | hlarge
  · rw [units_small hsmall, units_small (by omega)]
    omega
  · rcases Nat.lt_or_ge m (2 ^ 53) with hm | hm
    · -- The first magnitude with a scale.
      obtain rfl : m = 2 ^ 53 - 1 := by omega
      rw [units_small hm, units_large hlarge]
      decide
    · rw [units_large hm, units_large hlarge]
      have hdm := Nat.div_add_mod m (2 ^ 52)
      have hmod := Nat.mod_lt m (Nat.two_pow_pos 52)
      have hpos : 0 < 2 ^ (m / 2 ^ 52 - 1) := Nat.two_pow_pos _
      rcases Nat.lt_or_ge (m % 2 ^ 52 + 1) (2 ^ 52) with hsame | hnext
      · have hdiv : (m + 1) / 2 ^ 52 = m / 2 ^ 52 := by omega
        have hrest : (m + 1) % 2 ^ 52 = m % 2 ^ 52 + 1 := by omega
        rw [hdiv, hrest]
        exact Nat.mul_lt_mul_of_pos_right (by omega) hpos
      · have hdiv : (m + 1) / 2 ^ 52 - 1 = m / 2 ^ 52 - 1 + 1 := by omega
        have hrest : (m + 1) % 2 ^ 52 = 0 := by omega
        rw [hdiv, hrest, Nat.pow_succ]
        calc (2 ^ 52 + m % 2 ^ 52) * 2 ^ (m / 2 ^ 52 - 1)
            < 2 ^ 53 * 2 ^ (m / 2 ^ 52 - 1) := Nat.mul_lt_mul_of_pos_right (by omega) hpos
          _ = (2 ^ 52 + 0) * (2 ^ (m / 2 ^ 52 - 1) * 2) := by omega

theorem units_strictMono : StrictMono units := strictMono_nat_of_lt_succ units_lt_succ

theorem unit_pos : 0 < unit := by decide +kernel

def signed (x : Binary64) : Int :=
  if x.negative then -(units x.magnitude : Int) else units x.magnitude

def Unsigned (x : Binary64) : Prop := x.magnitude = 0 → x.negative = false

theorem units_pos {m : Nat} (h : m ≠ 0) : 0 < units m := by
  have hzero : units 0 = 0 := units_small (by decide)
  have hlt := units_strictMono (Nat.pos_of_ne_zero h)
  omega

theorem signed_lt_iff {x y : Binary64} (hx : x.Unsigned) :
    x.signed < y.signed ↔ position x.negative x.magnitude < position y.negative y.magnitude := by
  have hlt := units_strictMono.lt_iff_lt (a := x.magnitude) (b := y.magnitude)
  have hgt := units_strictMono.lt_iff_lt (a := y.magnitude) (b := x.magnitude)
  cases hnx : x.negative with
  | false =>
    cases hny : y.negative with
    | false => simp only [signed, position, hnx, hny, Bool.false_eq_true, if_false]; omega
    | true => simp only [signed, position, hnx, hny, Bool.false_eq_true, if_false, if_true]; omega
  | true =>
    have hpos : 0 < units x.magnitude := by
      refine units_pos fun hzero => ?_
      rw [hx hzero] at hnx
      cases hnx
    cases hny : y.negative with
    | false => simp only [signed, position, hnx, hny, Bool.false_eq_true, if_false, if_true]; omega
    | true => simp only [signed, position, hnx, hny, if_true]; omega

theorem compare_signed {x y : Binary64} (hx : x.Unsigned) (hy : y.Unsigned) :
    Ord.compare x.signed y.signed =
      Ord.compare (position x.negative x.magnitude) (position y.negative y.magnitude) := by
  have hlt := signed_lt_iff (y := y) hx
  have hgt := signed_lt_iff (y := x) hy
  rcases Int.lt_trichotomy x.signed y.signed with h | h | h
  · rw [Int.compare_eq_lt.mpr h, Int.compare_eq_lt.mpr (hlt.mp h)]
  · rw [Int.compare_eq_eq.mpr h, Int.compare_eq_eq.mpr (by omega)]
  · rw [Int.compare_eq_gt.mpr h, Int.compare_eq_gt.mpr (hgt.mp h)]

end RowQuery.Binary64

import Mathlib.Algebra.Group.Nat.Defs
import RowQuery.Number.Binary64

/-!
# Rounding keeps the order

Rounding an integer to the nearest binary number is monotone. Between two powers of two the step is
one, and there the quotients decide; a number past the next power of two comes out above everything
before it.
-/
namespace RowQuery.Binary64

theorem roundHalfEven_bounds (num den : Nat) :
    num / den ≤ roundHalfEven num den ∧ roundHalfEven num den ≤ num / den + 1 := by
  simp only [roundHalfEven]
  split <;> omega

theorem roundHalfEven_mono {m n den : Nat} (hden : 0 < den) (h : m ≤ n) :
    roundHalfEven m den ≤ roundHalfEven n den := by
  have hm := roundHalfEven_bounds m den
  have hn := roundHalfEven_bounds n den
  have hquotient : m / den ≤ n / den := Nat.div_le_div_right h
  rcases Nat.lt_or_eq_of_le hquotient with hlt | heq
  · omega
  · -- With one quotient the remainders are in order, and so are the two decisions.
    have hmod : m % den ≤ n % den := by
      have hdm := Nat.div_add_mod m den
      have hdn := Nat.div_add_mod n den
      rw [← heq] at hdn
      omega
    have hlt := Nat.mod_lt n hden
    simp only [roundHalfEven, Bool.or_eq_true, Bool.and_eq_true, decide_eq_true_eq, beq_iff_eq,
      heq]
    split
    · split <;> omega
    · split <;> omega

theorem roundHalfEven_one (n : Nat) : roundHalfEven n 1 = n := by
  simp [roundHalfEven, Nat.mod_one]

def scale (n : Nat) : Nat := Nat.log2 n - 52

theorem nearestUnits_small {n : Nat} (h : n < 2 ^ 53) : nearestUnits n 1 = n := by
  have hq : n < Nat.pow 2 53 := h
  simp only [nearestUnits, Nat.div_one, if_pos hq, roundHalfEven_one]

theorem nearestUnits_large {n : Nat} (h : 2 ^ 53 ≤ n) :
    nearestUnits n 1 = scale n * 2 ^ 52 + roundHalfEven n (2 ^ scale n) := by
  have hq : ¬n < Nat.pow 2 53 := Nat.not_lt.mpr h
  simp only [nearestUnits, Nat.div_one, Nat.one_mul, if_neg hq]
  rfl

theorem scale_spec {n : Nat} (h : 2 ^ 53 ≤ n) :
    2 ^ 52 * 2 ^ scale n ≤ n ∧ n < 2 ^ 53 * 2 ^ scale n ∧ 1 ≤ scale n := by
  have hne : n ≠ 0 := by omega
  have hlog : 53 ≤ Nat.log2 n := (Nat.le_log2 hne).mpr h
  have hself := Nat.log2_self_le hne
  have hnext := @Nat.lt_log2_self n
  have hlow : 52 + scale n = Nat.log2 n := by rw [scale]; omega
  have hhigh : 53 + scale n = Nat.log2 n + 1 := by omega
  refine ⟨?_, ?_, by rw [scale]; omega⟩
  · rwa [← Nat.pow_add, hlow]
  · rwa [← Nat.pow_add, hhigh]

theorem nearestUnits_bounds {n : Nat} (h : 2 ^ 53 ≤ n) :
    (scale n + 1) * 2 ^ 52 ≤ nearestUnits n 1 ∧
      nearestUnits n 1 ≤ (scale n + 2) * 2 ^ 52 := by
  obtain ⟨hlow, hhigh, -⟩ := scale_spec h
  have hpos : 0 < 2 ^ scale n := Nat.two_pow_pos _
  have hround := roundHalfEven_bounds n (2 ^ scale n)
  have hquotient : 2 ^ 52 ≤ n / 2 ^ scale n := (Nat.le_div_iff_mul_le hpos).mpr hlow
  have hbelow : n / 2 ^ scale n < 2 ^ 53 := (Nat.div_lt_iff_lt_mul hpos).mpr hhigh
  rw [nearestUnits_large h]
  omega

theorem scale_mono {m n : Nat} (hm : 2 ^ 53 ≤ m) (h : m ≤ n) : scale m ≤ scale n := by
  have hne : m ≠ 0 := by omega
  have hlog : Nat.log2 m ≤ Nat.log2 n :=
    (Nat.le_log2 (by omega)).mpr (Nat.le_trans (Nat.log2_self_le hne) h)
  rw [scale, scale]
  omega

theorem nearestUnits_mono {m n : Nat} (h : m ≤ n) : nearestUnits m 1 ≤ nearestUnits n 1 := by
  rcases Nat.lt_or_ge n (2 ^ 53) with hn | hn
  · rwa [nearestUnits_small hn, nearestUnits_small (by omega)]
  · have hnear := nearestUnits_bounds hn
    have hscale := (scale_spec hn).2.2
    rcases Nat.lt_or_ge m (2 ^ 53) with hm | hm
    · rw [nearestUnits_small hm]
      omega
    · have hmono := scale_mono hm h
      have hpast := nearestUnits_bounds hm
      rcases Nat.lt_or_eq_of_le hmono with hlt | heq
      · omega
      · have hround := roundHalfEven_mono (Nat.two_pow_pos (scale n)) h
        rw [nearestUnits_large hm, nearestUnits_large hn, heq]
        omega

theorem nearest_mono {m n : Nat} (h : m ≤ n) : nearest m ≤ nearest n :=
  nearestUnits_mono (Nat.mul_le_mul_right unit h)

theorem position_neg_lt (m n : Nat) : position true m < position false n := by
  simp only [position, if_true, Bool.false_eq_true, if_false]
  omega

theorem position_mono_of_nonneg {m n : Nat} (h : m ≤ n) : position false m ≤ position false n := by
  simpa [position] using h

theorem position_anti_of_neg {m n : Nat} (h : m ≤ n) : position true n ≤ position true m := by
  simp only [position, if_true]
  omega

end RowQuery.Binary64

import Mathlib.Tactic.IntervalCases
import RowQuery.Number.Decimal

/-!
# Reading back a written number

A digit is the character of a number below ten. The decimal digits of a number have its value, so
every number below `2 ^ 64` is read back. They begin with a zero for the number zero alone.
-/
namespace RowQuery.Decimal

theorem isDigit_iff (c : Char) : isDigit c = true ↔ 0x30 ≤ c.toNat ∧ c.toNat ≤ 0x39 := by
  simp only [isDigit, Bool.and_eq_true, decide_eq_true_eq, Char.le_def, UInt32.le_iff_toNat_le]
  exact Iff.rfl

theorem digit_lt {c : Char} (h : isDigit c = true) : digit c < 10 := by
  rw [isDigit_iff] at h
  rw [digit]
  omega

theorem digitChar_digit {c : Char} (h : isDigit c = true) : Nat.digitChar (digit c) = c := by
  apply Char.toNat_inj.mp
  rw [Nat.toNat_digitChar_of_lt_ten (digit_lt h), digit]
  rw [isDigit_iff] at h
  omega

theorem digit_digitChar {d : Nat} (h : d < 10) : digit (Nat.digitChar d) = d := by
  rw [digit, Nat.toNat_digitChar_of_lt_ten h]
  omega

theorem isDigit_digitChar {d : Nat} (h : d < 10) : isDigit (Nat.digitChar d) = true := by
  rw [isDigit_iff, Nat.toNat_digitChar_of_lt_ten h]
  omega

theorem value_toDigits (n : Nat) : value (Nat.toDigits 10 n) = n := by
  have hfold : value (Nat.toDigits 10 n) = Nat.ofDigitChars 10 (Nat.toDigits 10 n) 0 :=
    Nat.ofDigitChars_eq_foldl.symm
  rw [hfold, Nat.ofDigitChars_ten_toDigits]

theorem isDigit_of_mem_toDigits {n : Nat} {c : Char} (h : c ∈ Nat.toDigits 10 n) :
    isDigit c = true :=
  Nat.isDigit_of_mem_toDigits (by decide) (by decide) h

theorem head?_toDigits {n : Nat} (h : 0 < n) : (Nat.toDigits 10 n).head? ≠ some '0' := by
  induction n using Nat.strongRecOn with
  | ind n ih =>
    rw [Nat.toDigits_eq_if (by decide)]
    split
    · rename_i hn
      interval_cases n <;> decide
    · rename_i hn
      have hshorter := ih (n / 10) (by omega) (by omega)
      cases hdigits : Nat.toDigits 10 (n / 10) with
      | nil => exact absurd hdigits Nat.toDigits_ne_nil
      | cons c rest => rwa [hdigits] at hshorter

theorem ofDigits?_toDigits {n : Nat} (h : n < UInt64.size) :
    ofDigits? (Nat.toDigits 10 n) = some (UInt64.ofNatLT n h) := by
  have hempty : (Nat.toDigits 10 n).isEmpty = false := by simp [Nat.toDigits_ne_nil]
  have hdigits : (Nat.toDigits 10 n).all isDigit = true := by
    rw [List.all_eq_true]
    exact fun c hc => isDigit_of_mem_toDigits hc
  simp only [ofDigits?, hempty, hdigits, value_toDigits, Bool.not_true, Bool.or_false,
    Bool.false_eq_true, if_false, dif_pos h]

theorem ofDigits?_toString (n : UInt64) : ofDigits? (toString n).toList = some n := by
  have htext : (toString n).toList = Nat.toDigits 10 n.toNat := Nat.toList_repr
  rw [htext, ofDigits?_toDigits n.toNat_lt]
  rfl

end RowQuery.Decimal

import Mathlib.Data.List.Induction
import Mathlib.Data.Nat.Digits.Defs
import RowQuery.Proofs.Number.Decimal
import RowQuery.Query.Parser

/-!
# Numerals

A numeral is one digit or more, with any zeros in front, and stands for a number in base ten. The
values of `$top` and `$skip` that are read are the numerals of the numbers below `2 ^ 64`, and every
other value is refused as it was given. Reading one digit after the other in 64 bits, with a check of
each product and each sum, accepts the same numerals: digits only ever make a number larger, so the
first result that does not fit decides.
-/
namespace RowQuery

namespace Decimal

variable {text : List Char} {c : Char} {m n : UInt64}

/-- The text consists of the digits of `n`, the first of them possibly zeros. -/
def IsNumeral (text : List Char) (n : Nat) : Prop :=
  ∃ digits : List Nat, digits ≠ [] ∧ (∀ d ∈ digits, d < 10) ∧ text = digits.map Nat.digitChar ∧
    n = Nat.ofDigits 10 digits.reverse

theorem value_append_singleton (text : List Char) (c : Char) :
    value (text ++ [c]) = 10 * value text + digit c := by
  rw [value, List.foldl_append]
  rfl

theorem value_map_digitChar {digits : List Nat} (h : ∀ d ∈ digits, d < 10) :
    value (digits.map Nat.digitChar) = Nat.ofDigits 10 digits.reverse := by
  induction digits using List.reverseRecOn with
  | nil => rfl
  | append_singleton digits last ih =>
    have hlast : last < 10 := h last (by simp)
    have hdigits := ih fun d hd => h d (List.mem_append_left _ hd)
    rw [List.map_append, List.map_singleton, value_append_singleton, hdigits, digit_digitChar hlast,
      List.reverse_append, List.reverse_singleton, List.singleton_append, Nat.ofDigits_cons,
      Nat.add_comm]

theorem map_digitChar_digit (h : ∀ c ∈ text, isDigit c = true) :
    (text.map digit).map Nat.digitChar = text := by
  rw [List.map_map]
  conv_rhs => rw [← List.map_id text]
  exact List.map_congr_left fun c hc => digitChar_digit (h c hc)

theorem isNumeral_iff {n : Nat} :
    IsNumeral text n ↔ text ≠ [] ∧ (∀ c ∈ text, isDigit c = true) ∧ value text = n := by
  constructor
  · rintro ⟨digits, hne, hdigits, rfl, rfl⟩
    refine ⟨by simpa using hne, fun c hc => ?_, value_map_digitChar hdigits⟩
    obtain ⟨d, hd, rfl⟩ := List.mem_map.mp hc
    exact isDigit_digitChar (hdigits d hd)
  · rintro ⟨hne, hdigits, rfl⟩
    have hsmall : ∀ d ∈ text.map digit, d < 10 := by
      intro d hd
      obtain ⟨c, hc, rfl⟩ := List.mem_map.mp hd
      exact digit_lt (hdigits c hc)
    have htext := map_digitChar_digit hdigits
    exact ⟨text.map digit, by simpa using hne, hsmall, htext.symm,
      by rw [← value_map_digitChar hsmall, htext]⟩

def checked? (n : Nat) : Option UInt64 :=
  if h : n < UInt64.size then some (UInt64.ofNatLT n h) else none

theorem checked?_eq_some_iff {k : Nat} : checked? k = some n ↔ n.toNat = k := by
  rw [checked?]
  split
  · rw [Option.some.injEq, ← UInt64.toNat_inj, UInt64.toNat_ofNatLT, eq_comm]
  · rename_i hlarge
    have hn := n.toNat_lt
    exact iff_of_false (Option.some_ne_none n).symm fun h => hlarge (h ▸ hn)

theorem ofDigits?_eq_some_iff : ofDigits? text = some n ↔ IsNumeral text n.toNat := by
  have hvalue : ofDigits? text =
      if text.isEmpty || !text.all isDigit then none else checked? (value text) := rfl
  rw [isNumeral_iff, hvalue]
  split
  · rename_i h
    simp only [Bool.or_eq_true, List.isEmpty_iff, Bool.not_eq_true', List.all_eq_false] at h
    refine iff_of_false (Option.some_ne_none n).symm fun hnumeral => ?_
    rcases h with hnil | ⟨c, hc, hother⟩
    · exact hnumeral.1 hnil
    · exact hother (hnumeral.2.1 c hc)
  · rename_i h
    simp only [Bool.or_eq_true, List.isEmpty_iff, Bool.not_eq_true', not_or,
      Bool.not_eq_false, List.all_eq_true] at h
    rw [checked?_eq_some_iff, and_iff_right h.1, and_iff_right h.2, eq_comm]

/-! ## Digit after digit -/

def push? (n : UInt64) (c : Char) : Option UInt64 :=
  if isDigit c then (checked? (10 * n.toNat)).bind fun m => checked? (m.toNat + digit c) else none

theorem push?_eq_some_iff :
    push? m c = some n ↔ isDigit c = true ∧ n.toNat = 10 * m.toNat + digit c := by
  rw [push?]
  split
  · rename_i hc
    rw [Option.bind_eq_some_iff, and_iff_right hc]
    constructor
    · rintro ⟨scaled, hscaled, hsum⟩
      rw [checked?_eq_some_iff] at hscaled hsum
      omega
    · intro h
      have hfits : 10 * m.toNat < UInt64.size := by
        have hn := n.toNat_lt
        simp only [UInt64.size]
        omega
      refine ⟨UInt64.ofNatLT _ hfits, checked?_eq_some_iff.mpr (UInt64.toNat_ofNatLT), ?_⟩
      rw [checked?_eq_some_iff, UInt64.toNat_ofNatLT, h]
  · rename_i hc
    exact iff_of_false (Option.some_ne_none n).symm fun h => hc h.1

theorem le_foldl_digits (k : Nat) (text : List Char) :
    k ≤ text.foldl (fun n c => 10 * n + digit c) k := by
  induction text generalizing k with
  | nil => exact Nat.le_refl k
  | cons c text ih =>
    have hstep : k ≤ 10 * k + digit c := by omega
    exact Nat.le_trans hstep (ih _)

theorem foldlM_push?_eq_some_iff :
    text.foldlM push? m = some n ↔ (∀ c ∈ text, isDigit c = true) ∧
      text.foldl (fun n c => 10 * n + digit c) m.toNat = n.toNat := by
  induction text generalizing m with
  | nil => simp [← UInt64.toNat_inj]
  | cons c text ih =>
    rw [List.foldlM_cons, List.foldl_cons, List.forall_mem_cons]
    simp only [Option.bind_eq_bind, Option.bind_eq_some_iff, push?_eq_some_iff]
    constructor
    · rintro ⟨next, ⟨hc, hnext⟩, hrest⟩
      obtain ⟨hdigits, hvalue⟩ := ih.mp hrest
      exact ⟨⟨hc, hdigits⟩, hnext ▸ hvalue⟩
    · rintro ⟨⟨hc, hdigits⟩, hvalue⟩
      -- What is read so far is no more than the whole number, and so it fits.
      have hfits : 10 * m.toNat + digit c < UInt64.size :=
        Nat.lt_of_le_of_lt (hvalue ▸ le_foldl_digits _ text) n.toNat_lt
      refine ⟨UInt64.ofNatLT _ hfits, ⟨hc, UInt64.toNat_ofNatLT⟩, ih.mpr ⟨hdigits, ?_⟩⟩
      rw [UInt64.toNat_ofNatLT, hvalue]

theorem isNumeral_iff_foldlM :
    IsNumeral text n.toNat ↔ text ≠ [] ∧ text.foldlM push? 0 = some n := by
  rw [isNumeral_iff, foldlM_push?_eq_some_iff]
  rfl

end Decimal

namespace Query

theorem parseUnsigned_eq_ok_iff {option raw : String} {n : UInt64} :
    parseUnsigned option raw = .ok n ↔ Decimal.IsNumeral raw.toList n.toNat := by
  rw [← Decimal.ofDigits?_eq_some_iff, parseUnsigned]
  cases Decimal.ofDigits? raw.toList <;> simp

theorem parseUnsigned_eq_error_iff {option raw : String} {e : ParseError} :
    parseUnsigned option raw = .error e ↔
      (¬∃ n < 2 ^ 64, Decimal.IsNumeral raw.toList n) ∧ e = .invalidInteger option raw := by
  have hbelow : (∃ n < 2 ^ 64, Decimal.IsNumeral raw.toList n) ↔
      ∃ n : UInt64, Decimal.ofDigits? raw.toList = some n := by
    simp only [Decimal.ofDigits?_eq_some_iff]
    constructor
    · rintro ⟨n, hn, h⟩
      exact ⟨UInt64.ofNatLT n hn, h⟩
    · rintro ⟨n, h⟩
      exact ⟨n.toNat, n.toNat_lt, h⟩
  rw [hbelow, parseUnsigned]
  cases Decimal.ofDigits? raw.toList <;> simp [eq_comm]

/-- A value is read exactly if it is a numeral of a number below `2 ^ 64`, and as that number. Every
other value is refused, with the option and the value in the error. The digits may as well be read
one after the other in 64 bits. -/
theorem parseUnsigned_iff_isNumeral (option raw : String) :
    (∀ n : UInt64, parseUnsigned option raw = .ok n ↔ Decimal.IsNumeral raw.toList n.toNat) ∧
    (∀ e, parseUnsigned option raw = .error e ↔
      (¬∃ n < 2 ^ 64, Decimal.IsNumeral raw.toList n) ∧ e = .invalidInteger option raw) ∧
    ∀ n : UInt64, parseUnsigned option raw = .ok n ↔
      raw.toList ≠ [] ∧ raw.toList.foldlM Decimal.push? 0 = some n := by
  refine ⟨fun n => parseUnsigned_eq_ok_iff, fun e => parseUnsigned_eq_error_iff, fun n => ?_⟩
  rw [parseUnsigned_eq_ok_iff, Decimal.isNumeral_iff_foldlM]

example : parseUnsigned "$top" "00018446744073709551615" = .ok 18446744073709551615 := by decide

example : parseUnsigned "$skip" "18446744073709551616" =
    .error (.invalidInteger "$skip" "18446744073709551616") := by decide

end Query
end RowQuery

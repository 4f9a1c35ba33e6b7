import Mathlib.Data.List.TakeDrop
import RowQuery.Proofs.Number.Decimal
import RowQuery.Settings.FromYaml
import RowQuery.Yaml.Style

/-!
# Plain values are texts

The writer's list of texts that are not plain covers what the reader takes for nothing, a boolean or
a number: a plain value is read as a text.
-/
namespace RowQuery.Yaml

variable {s digits rest : List Char} {base n : Nat} {c : Char}

/-! ## Digits -/

theorem any_digit?_ten (c : Char) :
    (Hexadecimal.digit? c).any (· < 10) = true ↔ Decimal.isDigit c = true := by
  have hcode : ∀ d : Char, c ≤ d ↔ c.toNat ≤ d.toNat := fun d => by
    rw [Char.le_def, UInt32.le_iff_toNat_le]
    exact Iff.rfl
  have hcode' : ∀ d : Char, d ≤ c ↔ d.toNat ≤ c.toNat := fun d => by
    rw [Char.le_def, UInt32.le_iff_toNat_le]
    exact Iff.rfl
  rw [Decimal.isDigit_iff, Hexadecimal.digit?]
  simp only [hcode, hcode', Bool.and_eq_true, decide_eq_true_eq]
  have hnumbers : '0'.toNat = 0x30 ∧ '9'.toNat = 0x39 ∧ 'a'.toNat = 0x61 ∧ 'f'.toNat = 0x66 ∧
    'A'.toNat = 0x41 ∧ 'F'.toNat = 0x46 := by decide
  obtain ⟨h0, h9, ha, hf, hA, hF⟩ := hnumbers
  rw [h0, h9, ha, hf, hA, hF]
  split
  · simp; omega
  · split
    · simp; omega
    · split
      · simp; omega
      · simp; omega

theorem any_of_mem_foldlM {m : Nat}
    (h : digits.foldlM (fun n c => (Hexadecimal.digit? c).bind fun d =>
      if d < base then some (base * n + d) else none) n = some m) :
    ∀ c ∈ digits, (Hexadecimal.digit? c).any (· < base) = true := by
  induction digits generalizing n with
  | nil => simp
  | cons c digits ih =>
    rw [List.foldlM_cons] at h
    obtain ⟨k, hk, hrest⟩ := Option.bind_eq_some_iff.mp h
    obtain ⟨d, hd, hk⟩ := Option.bind_eq_some_iff.mp hk
    refine List.forall_mem_cons.mpr ⟨?_, ih hrest⟩
    split at hk
    · simpa [hd]
    · cases hk

theorem digits_of_valueIn? (h : valueIn? base digits = some n) :
    digits ≠ [] ∧ ∀ c ∈ digits, (Hexadecimal.digit? c).any (· < base) = true := by
  rw [valueIn?] at h
  split at h
  · cases h
  · rename_i hempty
    exact ⟨by simpa using hempty, any_of_mem_foldlM h⟩

namespace Plain

theorem areDigits_of_forall (hne : digits ≠ [])
    (h : ∀ c ∈ digits, (Hexadecimal.digit? c).any (· < base) = true) :
    areDigits base digits = true := by
  rw [areDigits, Bool.and_eq_true, List.all_eq_true]
  exact ⟨by simpa using hne, fun c hc => by rw [h c hc, Bool.or_true]⟩

theorem isRun_of_forall (hne : digits ≠ []) (h : ∀ c ∈ digits, Decimal.isDigit c = true) :
    isRun digits = true := by
  rw [isRun, areDigits_of_forall hne fun c hc => (any_digit?_ten c).mpr (h c hc), Bool.true_and,
    decide_eq_true_eq]
  intro hhead
  exact absurd (h '_' (List.mem_of_mem_head? hhead)) (by decide)

theorem span_digits (h : ∀ c ∈ digits, Decimal.isDigit c = true)
    (hrest : ∀ c ∈ rest.head?, c ≠ '_' ∧ Decimal.isDigit c = false) :
    (digits ++ rest).span (fun c => c = '_' || Decimal.isDigit c) = (digits, rest) := by
  have hdigits : ∀ c ∈ digits, (decide (c = '_') || Decimal.isDigit c) = true := fun c hc => by
    rw [h c hc, Bool.or_true]
  rw [List.span_eq_takeWhile_dropWhile, List.takeWhile_append_of_pos hdigits,
    List.dropWhile_append_of_pos hdigits]
  cases rest with
  | nil => simp
  | cons c rest =>
    obtain ⟨hc, hdigit⟩ := hrest c rfl
    simp [hc, hdigit]

/-! ## Numbers -/

theorem isPower_of_power? {power : Int} (h : Literal.power? s = some power) :
    isPower s = true ∧ ∀ c ∈ s.head?, c = 'e' ∨ c = 'E' := by
  cases s with
  | nil => exact ⟨rfl, nofun⟩
  | cons mark rest =>
    rw [Literal.power?] at h
    dsimp only at h
    split at h
    · rename_i hmark
      simp only [Bool.and_eq_true, Bool.or_eq_true, decide_eq_true_eq, Bool.not_eq_true',
        List.isEmpty_eq_false_iff, List.all_eq_true] at hmark
      obtain ⟨⟨hmark, hne⟩, hdigits⟩ := hmark
      refine ⟨?_, by simpa using hmark⟩
      rw [isPower, isRun_of_forall hne hdigits]
      simpa using hmark
    · cases h

theorem exists_digits (s : List Char) :
    ∃ digits rest, s = digits ++ rest ∧ (∀ c ∈ digits, Decimal.isDigit c = true) ∧
      (∀ c ∈ rest.head?, Decimal.isDigit c = false) ∧ s.takeWhile Decimal.isDigit = digits ∧
      s.dropWhile Decimal.isDigit = rest := by
  refine ⟨s.takeWhile Decimal.isDigit, s.dropWhile Decimal.isDigit,
    List.takeWhile_append_dropWhile.symm, List.all_eq_true.mp List.all_takeWhile, fun c hc => ?_,
    rfl, rfl⟩
  have hhead := List.head?_dropWhile_not Decimal.isDigit s
  rwa [Option.mem_def.mp hc] at hhead

theorem ne_underscore_of_power? {power : Int} (h : Literal.power? s = some power) :
    ∀ c ∈ s.head?, c ≠ '_' ∧ Decimal.isDigit c = false := by
  intro c hc
  rcases (isPower_of_power? h).2 c hc with rfl | rfl <;> decide

theorem isDecimal_of_read? {l : Literal} (h : Literal.read? s = some l) :
    isDecimal (Literal.unsigned s) = true := by
  rw [Literal.read?] at h
  generalize Literal.unsigned s = u at h ⊢
  obtain ⟨integral, rest, rfl, hintegral, -, htake, hdrop⟩ := exists_digits u
  dsimp only at h
  rw [htake, hdrop] at h
  -- With a point all digits may stand on one side of it; without one they stand before the power.
  split at h
  · rename_i tail
    obtain ⟨fraction, rest, rfl, hfraction, -, htake', hdrop'⟩ := exists_digits tail
    dsimp only at h
    rw [htake', hdrop'] at h
    split at h
    · cases h
    · rename_i hempty
      obtain ⟨power, hpower, -⟩ := Option.map_eq_some_iff.mp h
      have hpoint : ∀ c ∈ ('.' :: (fraction ++ rest)).head?,
          c ≠ '_' ∧ Decimal.isDigit c = false := by
        rintro c ⟨⟩
        decide
      have hspan := span_digits hfraction (ne_underscore_of_power? hpower)
      rw [isDecimal, span_digits hintegral hpoint]
      simp only [hspan, (isPower_of_power? hpower).1, Bool.and_true]
      split
      · rename_i hnil
        rw [List.isEmpty_iff.mp hnil, List.nil_append, List.isEmpty_iff] at hempty
        exact isRun_of_forall hempty hfraction
      · rename_i hnil
        exact isRun_of_forall (by simpa using hnil) hintegral
  · rename_i hpoint
    dsimp only at h
    split at h
    · cases h
    · rename_i hempty
      obtain ⟨power, hpower, -⟩ := Option.map_eq_some_iff.mp h
      rw [List.append_nil, List.isEmpty_iff] at hempty
      rw [isDecimal, span_digits hintegral (ne_underscore_of_power? hpower)]
      dsimp only
      split
      · exact absurd rfl (hpoint _)
      · rw [isRun_of_forall hempty hintegral, (isPower_of_power? hpower).1, Bool.true_and]

theorem isNumber_of_read? {l : Literal} (h : Literal.read? s = some l) : isNumber s = true := by
  have hdecimal := isDecimal_of_read? h
  rw [Literal.read?] at h
  rw [isNumber]
  generalize Literal.unsigned s = u at h hdecimal ⊢
  split
  · simp [Decimal.isDigit, Literal.power?] at h
  · simp [Decimal.isDigit, Literal.power?] at h
  · simp [Decimal.isDigit, Literal.power?] at h
  · exact hdecimal

theorem isDecimal_of_forall (hne : digits ≠ []) (h : ∀ c ∈ digits, Decimal.isDigit c = true) :
    isDecimal digits = true := by
  have hspan : (digits ++ []).span _ = (digits, []) := span_digits h nofun
  rw [List.append_nil] at hspan
  rw [isDecimal, hspan]
  simp only [isRun_of_forall hne h]
  rfl

theorem isNumber_of_natural? (h : natural? (Literal.unsigned s) = some n) : isNumber s = true := by
  rw [isNumber]
  generalize Literal.unsigned s = u at h ⊢
  rw [natural?.eq_def] at h
  split at h
  · exact areDigits_of_forall (digits_of_valueIn? h).1 (digits_of_valueIn? h).2
  · exact areDigits_of_forall (digits_of_valueIn? h).1 (digits_of_valueIn? h).2
  · exact areDigits_of_forall (digits_of_valueIn? h).1 (digits_of_valueIn? h).2
  · cases h
  · obtain ⟨hne, hdigits⟩ := digits_of_valueIn? h
    have hdecimal := isDecimal_of_forall hne fun c hc => (any_digit?_ten c).mp (hdigits c hc)
    split <;> simp_all

theorem isNumber_of_int? {i : Int} (h : int? s = some i) : isNumber s = true := by
  rw [int?.eq_def] at h
  split at h
  · obtain ⟨n, hn, -⟩ := Option.bind_eq_some_iff.mp h
    exact isNumber_of_natural? (s := '-' :: _) hn
  · obtain ⟨n, hn, -⟩ := Option.bind_eq_some_iff.mp h
    exact isNumber_of_natural? (s := '+' :: _) hn
  · rename_i hminus hplus
    obtain ⟨n, hn, -⟩ := Option.bind_eq_some_iff.mp h
    have hsigned : Literal.unsigned s = s := by
      rw [Literal.unsigned.eq_def]
      split
      · exact absurd rfl (hplus _)
      · exact absurd rfl (hminus _)
      · rfl
    exact isNumber_of_natural? (hsigned.symm ▸ hn)

end Plain

/-! ## Values -/

def specialWords : List String :=
  ["null", "Null", "NULL", "~", "true", "True", "TRUE", "false", "False", "FALSE", ".inf", ".Inf",
    ".INF", "+.inf", "+.Inf", "+.INF", "-.inf", "-.Inf", "-.INF", ".nan", ".NaN", ".NAN"]

theorem not_isValue_of_mem : ∀ s ∈ specialWords, Plain.isValue s.toList = false := by decide

theorem isNull_eq_false {s : String} (h : s ∉ specialWords) : isNull s = false := by
  simp only [specialWords, List.mem_cons, not_or] at h
  simp [isNull, h]

theorem bool?_eq_none {s : String} (h : s ∉ specialWords) : bool? s = none := by
  simp only [specialWords, List.mem_cons, not_or] at h
  simp [bool?, h]

theorem plainTree_of_isValue {s : String} (h : Plain.isValue s.toList = true) :
    plainTree s = .text s := by
  have hword : s ∉ specialWords := fun hs => by
    rw [not_isValue_of_mem s hs] at h
    cases h
  have hnumber : Plain.isNumber s.toList = false := by
    rw [Plain.isValue] at h
    simp only [Bool.and_eq_true, Bool.not_eq_true'] at h
    exact h.1.1.2
  have hne : s.isEmpty = false := by
    rw [← Bool.not_eq_true, String.isEmpty_iff]
    rintro rfl
    cases h
  have hint : int? s.toList = none := by
    rw [Option.eq_none_iff_forall_ne_some]
    intro n hn
    rw [Plain.isNumber_of_int? hn] at hnumber
    cases hnumber
  have hread : Literal.read? s.toList = none := by
    rw [Option.eq_none_iff_forall_ne_some]
    intro l hl
    rw [Plain.isNumber_of_read? hl] at hnumber
    cases hnumber
  have hspecial : isSpecial s.toList = false := by
    simp only [specialWords, List.mem_cons, not_or] at hword
    simp [isSpecial, hword]
  have hfraction : isFraction s.toList = false := by
    rw [isFraction, hspecial, hread]
    rfl
  rw [plainTree, hne, isNull_eq_false hword, bool?_eq_none hword, hint, hfraction]
  simp

theorem eq_of_plainTree_eq_text {s t : String} (h : plainTree s = .text t) : s = t := by
  rw [plainTree] at h
  split at h
  · cases h
  · split at h
    · cases h
    · cases h
    · split at h
      · cases h
      · exact Tree.text.inj h

/-! ## Written numbers -/

theorem digit?_of_isDigit (h : Decimal.isDigit c = true) :
    Hexadecimal.digit? c = some (Decimal.digit c) := by
  rw [Decimal.isDigit] at h
  rw [Hexadecimal.digit?, if_pos h, Decimal.digit]

theorem valueIn?_ten (hne : digits ≠ []) (h : ∀ c ∈ digits, Decimal.isDigit c = true) :
    valueIn? 10 digits = some (Decimal.value digits) := by
  rw [valueIn?, if_neg (by simpa using hne), Decimal.value]
  clear hne
  generalize 0 = n
  induction digits generalizing n with
  | nil => rfl
  | cons c digits ih =>
    rw [List.forall_mem_cons] at h
    rw [List.foldlM_cons, List.foldl_cons, digit?_of_isDigit h.1, Option.bind_some,
      if_pos (Decimal.digit_lt h.1)]
    exact ih h.2 (10 * n + Decimal.digit c)

theorem natural?_toDigits (n : Nat) : natural? (Nat.toDigits 10 n) = some n := by
  have hvalue : valueIn? 10 (Nat.toDigits 10 n) = _ :=
    valueIn?_ten Nat.toDigits_ne_nil fun c hc => Decimal.isDigit_of_mem_toDigits hc
  rw [Decimal.value_toDigits] at hvalue
  rcases Nat.eq_zero_or_pos n with rfl | hpos
  · rfl
  · have hhead := Decimal.head?_toDigits hpos
    generalize Nat.toDigits 10 n = digits at hvalue hhead ⊢
    rw [natural?.eq_def]
    split
    · exact absurd rfl hhead
    · exact absurd rfl hhead
    · exact absurd rfl hhead
    · exact absurd rfl hhead
    · exact hvalue

theorem int?_toDigits {n : Nat} (h : n < 2 ^ 128) :
    int? (Nat.toDigits 10 n) = some (n : Int) := by
  have hunsigned : int?.unsigned (Nat.toDigits 10 n) = some (n : Int) := by
    rw [int?.unsigned, natural?_toDigits, Option.bind_some, if_pos (show n < Nat.pow 2 128 from h)]
  have hsign : ∀ c ∈ (Nat.toDigits 10 n).head?, c ≠ '-' ∧ c ≠ '+' := by
    intro c hc
    have hdigit := Decimal.isDigit_of_mem_toDigits (List.mem_of_mem_head? hc)
    constructor <;> rintro rfl <;> cases hdigit
  generalize Nat.toDigits 10 n = digits at hunsigned hsign ⊢
  rw [int?.eq_def]
  split
  · exact absurd rfl (hsign _ rfl).1
  · exact absurd rfl (hsign _ rfl).2
  · exact hunsigned

theorem plainTree_toString {n : Nat} (h : n < 2 ^ 128) : plainTree (toString n) = .int n := by
  have htext : (toString n).toList = Nat.toDigits 10 n := Nat.toList_repr
  have hletter : ∀ s ∈ specialWords, s.toList.all Decimal.isDigit = false := by decide
  have hword : toString n ∉ specialWords := by
    intro hs
    have hletter := hletter _ hs
    rw [htext, List.all_eq_true.mpr fun c hc => Decimal.isDigit_of_mem_toDigits hc] at hletter
    cases hletter
  have hne : (toString n).isEmpty = false := by
    rw [← Bool.not_eq_true, String.isEmpty_iff, ← String.toList_eq_nil_iff, htext]
    exact Nat.toDigits_ne_nil
  rw [plainTree, hne, isNull_eq_false hword, bool?_eq_none hword, htext, int?_toDigits h]
  rfl

end RowQuery.Yaml

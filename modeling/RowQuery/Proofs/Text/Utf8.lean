import Mathlib.Data.List.TakeWhile
import RowQuery.Text.Utf8

/-!
# Decoding what was encoded

Decoding with repair gives back every text from its bytes, whatever follows them. A character is
taken by the number of its bytes; the ranges of the second byte are where surrogates and values past
the last code point would show, and a character has neither.
-/
namespace RowQuery.Utf8

theorem encode_cons (c : Char) (s : List Char) :
    encode (c :: s) = String.utf8EncodeChar c ++ encode s := rfl

theorem encode_append (s t : List Char) : encode (s ++ t) = encode s ++ encode t :=
  List.flatMap_append

theorem decodeAfter_append {bytes : List UInt8} {skip : Nat} (h : bytes.length = skip)
    (rest : List UInt8) : decodeAfter skip (bytes ++ rest) = decodeAfter 0 rest := by
  induction bytes generalizing skip with
  | nil =>
    subst h
    rfl
  | cons b bytes ih =>
    subst h
    exact ih rfl

/-! ## The classes of a byte by its value -/

theorem isTail_of_range {b : UInt8} (h : 0x80 ≤ b.toNat ∧ b.toNat ≤ 0xbf) : isTail b = true := by
  simpa [isTail, UInt8.le_iff_toNat_le] using h

theorem lead_one {a : UInt8} (h : a.toNat < 0x80) : lead a = some (a.toNat, 0) := by
  simp [lead, UInt8.lt_iff_toNat_lt, h]

theorem lead_two {a : UInt8} (hlow : 0xc2 ≤ a.toNat) (hhigh : a.toNat ≤ 0xdf) :
    lead a = some (a.toNat - 0xc0, 1) := by
  have h : ¬a.toNat < 0x80 := by omega
  simp [lead, UInt8.lt_iff_toNat_lt, UInt8.le_iff_toNat_le, h, hlow, hhigh]

theorem lead_three {a : UInt8} (hlow : 0xe0 ≤ a.toNat) (hhigh : a.toNat ≤ 0xef) :
    lead a = some (a.toNat - 0xe0, 2) := by
  have h : ¬a.toNat < 0x80 := by omega
  have h2 : ¬a.toNat ≤ 0xdf := by omega
  simp [lead, UInt8.lt_iff_toNat_lt, UInt8.le_iff_toNat_le, h, h2, hlow, hhigh]

theorem lead_four {a : UInt8} (hlow : 0xf0 ≤ a.toNat) (hhigh : a.toNat ≤ 0xf4) :
    lead a = some (a.toNat - 0xf0, 3) := by
  have h : ¬a.toNat < 0x80 := by omega
  have h2 : ¬a.toNat ≤ 0xdf := by omega
  have h3 : ¬a.toNat ≤ 0xef := by omega
  simp [lead, UInt8.lt_iff_toNat_lt, UInt8.le_iff_toNat_le, h, h2, h3, hlow, hhigh]

theorem isSecond_of_range {a b : UInt8} (h : 0x80 ≤ b.toNat ∧ b.toNat ≤ 0xbf)
    (he0 : a.toNat = 0xe0 → 0xa0 ≤ b.toNat) (hed : a.toNat = 0xed → b.toNat ≤ 0x9f)
    (hf0 : a.toNat = 0xf0 → 0x90 ≤ b.toNat) (hf4 : a.toNat = 0xf4 → b.toNat ≤ 0x8f) :
    isSecond a b = true := by
  simp only [isSecond, beq_iff_eq, ← UInt8.toNat_inj, UInt8.le_iff_toNat_le, UInt8.reduceToNat]
  split
  · simp_all
  · split
    · simp_all
    · split
      · simp_all
      · split
        · simp_all
        · exact isTail_of_range h

theorem toNat_extend {n : Nat} {b : UInt8} {low : Nat} (h : b.toNat = low + 0x80) :
    extend n b = n * 64 + low := by
  unfold extend
  omega

/-! ## One character -/

theorem decodeOne_single {a : UInt8} (h : a.toNat < 0x80) (rest : List UInt8) :
    decodeOne a rest = (Char.ofNat a.toNat, 0) := by
  cases rest <;> simp [decodeOne, lead_one h]

theorem decodeOne_multiple {a b : UInt8} {n : Nat} {tail : List UInt8}
    (hlead : lead a = some (n, tail.length + 1)) (hsecond : isSecond a b = true)
    (htail : ∀ t ∈ tail, isTail t = true) (rest : List UInt8) :
    decodeOne a (b :: (tail ++ rest)) =
      (Char.ofNat (tail.foldl extend (extend n b)), tail.length + 1) := by
  have htake : tail.takeWhile isTail = tail := List.takeWhile_eq_self_iff.2 htail
  simp [decodeOne, hlead, hsecond, htake]

theorem decodeAfter_single {c : Char} (h : c.toNat < 0x80) {a : UInt8} (ha : a.toNat = c.toNat)
    (rest : List UInt8) : decodeAfter 0 (a :: rest) = c :: decodeAfter 0 rest := by
  rw [decodeAfter, decodeOne_single (by omega), ha, Char.ofNat_toNat]

theorem decodeAfter_multiple {c : Char} {a b : UInt8} {n : Nat} {tail : List UInt8}
    (hlead : lead a = some (n, tail.length + 1)) (hsecond : isSecond a b = true)
    (htail : ∀ t ∈ tail, isTail t = true) (hvalue : tail.foldl extend (extend n b) = c.toNat)
    (rest : List UInt8) :
    decodeAfter 0 (a :: b :: tail ++ rest) = c :: decodeAfter 0 rest := by
  rw [List.cons_append, List.cons_append, decodeAfter, decodeOne_multiple hlead hsecond htail,
    hvalue, Char.ofNat_toNat]
  have hread : (b :: tail).length = tail.length + 1 := rfl
  exact congrArg (c :: ·) (decodeAfter_append hread rest)

theorem toNat_lt_or (c : Char) : c.toNat < 0xd800 ∨ 0xdfff < c.toNat ∧ c.toNat < 0x110000 :=
  c.valid

theorem decodeAfter_encodeChar (c : Char) (rest : List UInt8) :
    decodeAfter 0 (String.utf8EncodeChar c ++ rest) = c :: decodeAfter 0 rest := by
  have hvalid := toNat_lt_or c
  have hbyte : ∀ n : Nat, n < 256 → (UInt8.ofNat n).toNat = n :=
    fun n hn => UInt8.toNat_ofNat_of_lt' hn
  rw [← Char.toNat_val] at hvalid
  -- One case for each number of bytes; what their bits come to, put together again, is `v`.
  fun_cases String.utf8EncodeChar with
  | case1 v h1 =>
    exact decodeAfter_single (Nat.lt_succ_of_le h1) (hbyte v (by omega)) rest
  | case2 v h1 h2 =>
    have ha := hbyte (v / 64 % 32 + 0xc0) (by omega)
    have hb := hbyte (v % 64 + 0x80) (by omega)
    have htail : ∀ t ∈ ([] : List UInt8), isTail t = true := by simp
    have hlead := lead_two (a := UInt8.ofNat (v / 64 % 32 + 0xc0)) (by omega) (by omega)
    refine decodeAfter_multiple hlead
      (isSecond_of_range (by omega) (by omega) (by omega) (by omega) (by omega)) htail ?_ rest
    rw [List.foldl_nil, toNat_extend hb, ha]
    change _ = v
    omega
  | case3 v h1 h2 h3 =>
    have ha := hbyte (v / 4096 % 16 + 0xe0) (by omega)
    have hb := hbyte (v / 64 % 64 + 0x80) (by omega)
    have hc := hbyte (v % 64 + 0x80) (by omega)
    have htail : ∀ t ∈ [UInt8.ofNat (v % 64 + 0x80)], isTail t = true :=
      List.forall_mem_singleton.2 (isTail_of_range (by omega))
    refine decodeAfter_multiple (lead_three (by omega) (by omega))
      (isSecond_of_range (by omega) (by omega) (by omega) (by omega) (by omega)) htail ?_ rest
    rw [List.foldl_cons, List.foldl_nil, toNat_extend hb, toNat_extend hc, ha]
    change _ = v
    omega
  | case4 v h1 h2 h3 =>
    have ha := hbyte (v / 262144 % 8 + 0xf0) (by omega)
    have hb := hbyte (v / 4096 % 64 + 0x80) (by omega)
    have hc := hbyte (v / 64 % 64 + 0x80) (by omega)
    have hd := hbyte (v % 64 + 0x80) (by omega)
    have htail : ∀ t ∈ [UInt8.ofNat (v / 64 % 64 + 0x80), UInt8.ofNat (v % 64 + 0x80)],
        isTail t = true :=
      List.forall_mem_cons.2 ⟨isTail_of_range (by omega),
        List.forall_mem_singleton.2 (isTail_of_range (by omega))⟩
    refine decodeAfter_multiple (lead_four (by omega) (by omega))
      (isSecond_of_range (by omega) (by omega) (by omega) (by omega) (by omega)) htail ?_ rest
    rw [List.foldl_cons, List.foldl_cons, List.foldl_nil, toNat_extend hb, toNat_extend hc,
      toNat_extend hd, ha]
    change _ = v
    omega

theorem decodeLossy_encode_append (s : List Char) (rest : List UInt8) :
    decodeLossy (encode s ++ rest) = s ++ decodeLossy rest := by
  induction s with
  | nil => rfl
  | cons c s ih =>
    rw [encode_cons, List.append_assoc, decodeLossy, decodeAfter_encodeChar]
    exact congrArg (c :: ·) ih

theorem decodeLossy_encode (s : List Char) : decodeLossy (encode s) = s := by
  have h := decodeLossy_encode_append s []
  rwa [List.append_nil, show decodeLossy [] = [] from rfl, List.append_nil] at h

end RowQuery.Utf8

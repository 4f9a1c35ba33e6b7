import Mathlib.Algebra.GroupWithZero.Nat
import Mathlib.Data.String.Basic
import RowQuery.Proofs.Text.Respelled

/-!
# Decoding does not lengthen a text

A character stands for itself, a plus sign for a space, and an escape of three bytes for one byte.
A part that is no character is replaced by U+FFFD, which takes three bytes. That is no more than
what was written there: the bytes of a character are never parted, so such a part consists of bytes
that were written as escapes.
-/
namespace RowQuery

open String (utf8EncodeChar utf8Len utf8Len_cons)

namespace Utf8

theorem exists_encodeChar (c : Char) :
    ∃ first rest, utf8EncodeChar c = first :: rest ∧ isTail first = false ∧
      (rest = [] ∧ first.toNat = c.toNat ∧ c.toNat < 0x80 ∨ ∀ b ∈ first :: rest, 0x80 ≤ b.toNat) := by
  have hbyte : ∀ n : Nat, n < 256 → (UInt8.ofNat n).toNat = n :=
    fun n hn => UInt8.toNat_ofNat_of_lt' hn
  have hhigh : ∀ n : Nat, 0x80 ≤ n → n < 256 → 0x80 ≤ (UInt8.ofNat n).toNat :=
    fun n hn hlt => (hbyte n hlt).symm ▸ hn
  have htail : ∀ n : Nat, n < 0x80 ∨ 0xbf < n → n < 256 → isTail (UInt8.ofNat n) = false := by
    intro n hn hlt
    simp only [isTail, UInt8.le_iff_toNat_le, UInt8.reduceToNat, hbyte n hlt,
      Bool.and_eq_false_iff, decide_eq_false_iff_not]
    omega
  fun_cases String.utf8EncodeChar with
  | case1 v h1 =>
    exact ⟨_, _, rfl, htail v (by omega) (by omega),
      .inl ⟨rfl, hbyte v (by omega), Nat.lt_succ_of_le h1⟩⟩
  | case2 v h1 h2 =>
    refine ⟨_, _, rfl, htail _ (by omega) (by omega), .inr ?_⟩
    exact List.forall_mem_cons.2 ⟨hhigh _ (by omega) (by omega),
      List.forall_mem_singleton.2 (hhigh _ (by omega) (by omega))⟩
  | case3 v h1 h2 h3 =>
    refine ⟨_, _, rfl, htail _ (by omega) (by omega), .inr ?_⟩
    exact List.forall_mem_cons.2 ⟨hhigh _ (by omega) (by omega),
      List.forall_mem_cons.2 ⟨hhigh _ (by omega) (by omega),
        List.forall_mem_singleton.2 (hhigh _ (by omega) (by omega))⟩⟩
  | case4 v h1 h2 h3 =>
    refine ⟨_, _, rfl, htail _ (by omega) (by omega), .inr ?_⟩
    exact List.forall_mem_cons.2 ⟨hhigh _ (by omega) (by omega),
      List.forall_mem_cons.2 ⟨hhigh _ (by omega) (by omega),
        List.forall_mem_cons.2 ⟨hhigh _ (by omega) (by omega),
          List.forall_mem_singleton.2 (hhigh _ (by omega) (by omega))⟩⟩⟩

section mark

variable {mark : Char} {b : UInt8} (hmark : utf8EncodeChar mark = [b]) (hb : b.toNat < 0x80)
include hmark hb

theorem not_mem_encodeChar {c : Char} (h : c ≠ mark) : b ∉ utf8EncodeChar c := by
  intro hmem
  obtain ⟨first, rest, hc, -, ⟨rfl, hfirst, -⟩ | hhigh⟩ := exists_encodeChar c
  · obtain ⟨first', rest', hmark', -, ⟨-, hfirst', -⟩ | hhigh⟩ := exists_encodeChar mark
    · rw [hmark, List.cons.injEq] at hmark'
      rw [hc, List.mem_singleton] at hmem
      rw [← hmark'.1, hmem, hfirst] at hfirst'
      exact h (Char.toNat_inj.mp hfirst')
    · rw [← hmark', hmark, List.forall_mem_singleton] at hhigh
      omega
  · have := hhigh b (hc ▸ hmem)
    omega

theorem forall_ne_encodeChar {c : Char} (h : c ≠ mark) :
    ∀ x ∈ utf8EncodeChar c, (x == b) = false :=
  fun _ hx => beq_eq_false_iff_ne.mpr fun hxb => not_mem_encodeChar hmark hb h (hxb ▸ hx)

theorem splitBy_encode (s : List Char) :
    Text.splitBy (· == b) (encode s) = (Text.splitBy (· == mark) s).map encode := by
  induction s with
  | nil => rfl
  | cons c s ih =>
    rw [encode_cons]
    by_cases hc : c = mark
    · subst hc
      have hbytes := Text.splitBy_append_separator (p := (· == b)) (beq_self_eq_true b) []
      have hchars := Text.splitBy_append_separator (p := (· == c)) (beq_self_eq_true c) []
      rw [hmark, List.singleton_append, ← List.nil_append (b :: encode s), hbytes, ih,
        ← List.nil_append (c :: s), hchars, List.map_append]
      rfl
    · cases hs : Text.splitBy (· == mark) s with
      | nil => exact absurd hs (Text.splitBy_ne_nil _ s)
      | cons piece pieces =>
        have hone : ∀ x ∈ [c], (x == mark) = false := by simpa using hc
        have hchars := Text.splitBy_append_of_forall hone hs
        rw [List.singleton_append] at hchars
        rw [hs] at ih
        rw [Text.splitBy_append_of_forall (forall_ne_encodeChar hmark hb hc) ih, hchars]
        rfl

theorem breakAt_encode (s : List Char) :
    Text.breakAt (· == b) (encode s) =
      (encode (Text.breakAt (· == mark) s).1, (Text.breakAt (· == mark) s).2.map encode) := by
  induction s with
  | nil => rfl
  | cons c s ih =>
    rw [encode_cons]
    by_cases hc : c = mark
    · subst hc
      rw [hmark, List.singleton_append, Text.breakAt, Text.breakAt, if_pos (beq_self_eq_true b),
        if_pos (beq_self_eq_true c)]
      rfl
    · rw [Text.breakAt_append_of_forall (forall_ne_encodeChar hmark hb hc), ih, Text.breakAt,
        if_neg (by simpa using hc)]
      rfl

end mark

end Utf8

namespace Form

open Utf8 (encode encode_cons)

def spaced (c : Char) : Char := if c = '+' then ' ' else c

theorem map_plusToSpace_encode (s : List Char) :
    (encode s).map plusToSpace = encode (s.map spaced) := by
  induction s with
  | nil => rfl
  | cons c s ih =>
    rw [encode_cons, List.map_append, ih, List.map_cons, encode_cons, spaced]
    congr 1
    by_cases hc : c = '+'
    · rw [if_pos hc, hc]
      rfl
    · have hplus : utf8EncodeChar '+' = [0x2b] := rfl
      rw [if_neg hc]
      exact plusToSpace_of_ne fun x hx hx' =>
        Utf8.not_mem_encodeChar hplus (by decide) hc (hx' ▸ hx)

theorem utf8Len_map_spaced (s : List Char) : utf8Len (s.map spaced) = utf8Len s := by
  have hsize : ∀ c, (spaced c).utf8Size = c.utf8Size := by
    intro c
    rw [spaced]
    split
    · rename_i hc
      rw [hc]
      rfl
    · rfl
  induction s with
  | nil => rfl
  | cons c s ih => rw [List.map_cons, utf8Len_cons, utf8Len_cons, ih, hsize]

end Form

namespace Percent

open Utf8 (encode encode_cons exists_encodeChar)

theorem utf8Size_of_encodeChar {c : Char} {b : UInt8} (h : utf8EncodeChar c = [b]) :
    c.utf8Size = 1 := by
  rw [← String.length_utf8EncodeChar, h]
  rfl

theorem exists_of_hexValue {s : List Char} {b : UInt8} {bytes : List UInt8}
    (hs : encode s = b :: bytes) (hb : hexValue b ≠ none) :
    ∃ c rest, s = c :: rest ∧ c.utf8Size = 1 ∧ bytes = encode rest := by
  cases s with
  | nil => cases hs
  | cons c rest =>
    rw [encode_cons] at hs
    obtain ⟨first, more, hc, -, ⟨rfl, -, -⟩ | hhigh⟩ := exists_encodeChar c
    · rw [hc, List.singleton_append, List.cons.injEq] at hs
      exact ⟨c, rest, rfl, utf8Size_of_encodeChar hc, hs.2.symm⟩
    · rw [hc, List.cons_append, List.cons.injEq] at hs
      have hfirst := hhigh first List.mem_cons_self
      rw [hs.1] at hfirst
      exact absurd (hexValue_eq_none (by omega) (by omega) (by omega)) hb

theorem exists_of_value? {s : List Char} {b : UInt8} (h : value? (encode s) = some b) :
    ∃ high low rest, s = high :: low :: rest ∧ high.utf8Size = 1 ∧ low.utf8Size = 1 ∧
      (encode s).drop 2 = encode rest := by
  match hs : encode s with
  | [] | [_] =>
    rw [hs] at h
    cases h
  | first :: second :: bytes =>
    rw [hs] at h
    have hfirst : hexValue first ≠ none := fun hnone => by
      simp [value?_eq_none_of_first hnone] at h
    have hsecond : hexValue second ≠ none := fun hnone => by
      simp [value?_eq_none_of_second hnone] at h
    obtain ⟨high, tail, rfl, hhigh, htail⟩ := exists_of_hexValue hs hfirst
    obtain ⟨low, rest, rfl, hlow, hrest⟩ := exists_of_hexValue htail.symm hsecond
    exact ⟨high, low, rest, rfl, hhigh, hlow, hrest⟩

inductive Unescaped : Nat → List UInt8 → Prop
  | nil : Unescaped 0 []
  | char {n : Nat} {bytes : List UInt8} (c : Char) (h : Unescaped n bytes) :
      Unescaped (n + c.utf8Size) (utf8EncodeChar c ++ bytes)
  | escape {n : Nat} {bytes : List UInt8} (b : UInt8) (h : Unescaped n bytes) :
      Unescaped (n + 3) (b :: bytes)

theorem unescaped_decode (s : List Char) : Unescaped (utf8Len s) (decode (encode s)) := by
  -- An escape takes two characters more, so the induction is on the length.
  induction hn : s.length using Nat.strong_induction_on generalizing s with
  | _ n ih =>
    subst hn
    cases s with
    | nil => exact .nil
    | cons c s =>
      have hs := ih s.length (Nat.lt_succ_self _) s rfl
      by_cases hc : c = '%'
      · subst hc
        have hpercent : encode ('%' :: s) = 0x25 :: encode s := rfl
        rw [hpercent, decode_percent]
        cases hv : value? (encode s) with
        | none => exact .char '%' hs
        | some b =>
          obtain ⟨high, low, rest, rfl, hhigh, hlow, hdrop⟩ := exists_of_value? hv
          have hrest := ih rest.length (by simp only [List.length_cons]; omega) rest rfl
          have hone : '%'.utf8Size = 1 := rfl
          rw [hdrop, utf8Len_cons, utf8Len_cons, utf8Len_cons, hhigh, hlow, hone]
          exact .escape b hrest
      · have hpercent : utf8EncodeChar '%' = [0x25] := rfl
        have hbytes : ∀ b ∈ utf8EncodeChar c, b ≠ 0x25 := fun b hb hb' =>
          Utf8.not_mem_encodeChar hpercent (by decide) hc (hb' ▸ hb)
        rw [encode_cons, decode_append_of_forall hbytes]
        exact .char c hs

end Percent

namespace Utf8

open Percent (Unescaped)

theorem unescaped_of_isTail {n : Nat} {b : UInt8} {bytes : List UInt8}
    (h : Unescaped n (b :: bytes)) (hb : isTail b = true) :
    ∃ m, n = m + 3 ∧ Unescaped m bytes := by
  generalize hall : b :: bytes = all at h
  cases h with
  | nil => cases hall
  | char c h =>
    obtain ⟨first, rest, hc, hfirst, -⟩ := exists_encodeChar c
    rw [hc, List.cons_append, List.cons.injEq] at hall
    rw [hall.1, hfirst] at hb
    cases hb
  | escape b h =>
    rw [List.cons.injEq] at hall
    exact ⟨_, rfl, hall.2 ▸ h⟩

theorem unescaped_of_tail {n : Nat} {tail bytes : List UInt8} (h : Unescaped n (tail ++ bytes))
    (htail : ∀ b ∈ tail, isTail b = true) :
    ∃ m, n = m + 3 * tail.length ∧ Unescaped m bytes := by
  induction tail generalizing n with
  | nil => exact ⟨n, rfl, h⟩
  | cons b tail ih =>
    obtain ⟨m, rfl, hrest⟩ := unescaped_of_isTail h (htail b List.mem_cons_self)
    obtain ⟨k, rfl, hbytes⟩ := ih hrest fun x hx => htail x (List.mem_cons_of_mem b hx)
    exact ⟨k, by rw [List.length_cons]; omega, hbytes⟩

theorem isTail_of_isSecond {a b : UInt8} (h : isSecond a b = true) : isTail b = true := by
  have hrange : ∀ {low high : UInt8}, 0x80 ≤ low.toNat → high.toNat ≤ 0xbf →
      (low ≤ b && b ≤ high) = true → isTail b = true := by
    intro low high hlow hhigh hb
    simp only [Bool.and_eq_true, decide_eq_true_eq, UInt8.le_iff_toNat_le] at hb
    exact isTail_of_range (by omega)
  rw [isSecond] at h
  split_ifs at h
  · exact hrange (by decide) (by decide) h
  · exact hrange (by decide) (by decide) h
  · exact hrange (by decide) (by decide) h
  · exact hrange (by decide) (by decide) h
  · exact h

theorem toNat_lt_of_lead {a : UInt8} {n : Nat} (h : lead a = some (n, 0)) : n < 0x80 := by
  simp only [lead, UInt8.lt_iff_toNat_lt, UInt8.reduceToNat] at h
  split_ifs at h with hlow
  · cases h
    exact hlow
  all_goals simp at h

theorem utf8Size_ofNat : ∀ n < 0x80, (Char.ofNat n).utf8Size = 1 := by decide

theorem decodeOne_spec (a : UInt8) (bytes : List UInt8) :
    ∃ c tail rest, bytes = tail ++ rest ∧ decodeOne a bytes = (c, tail.length) ∧
      (∀ b ∈ tail, isTail b = true) ∧ c.utf8Size ≤ 3 * (tail.length + 1) := by
  have hreplaced : replacement.utf8Size ≤ 3 := by decide
  have hnone : ∀ b ∈ ([] : List UInt8), isTail b = true := by simp
  cases hlead : lead a with
  | none => exact ⟨replacement, [], bytes, rfl, by simp [decodeOne, hlead], hnone, hreplaced⟩
  | some value =>
    obtain ⟨n, k⟩ := value
    cases k with
    | zero =>
      have hone := utf8Size_ofNat n (toNat_lt_of_lead hlead)
      exact ⟨Char.ofNat n, [], bytes, rfl, by simp [decodeOne, hlead], hnone, by omega⟩
    | succ k =>
      cases bytes with
      | nil => exact ⟨replacement, [], [], rfl, by simp [decodeOne, hlead], hnone, hreplaced⟩
      | cons b rest =>
        by_cases hsecond : isSecond a b = true
        · obtain ⟨tail, htake⟩ : ∃ tail, (rest.take k).takeWhile isTail = tail := ⟨_, rfl⟩
          have hprefix : tail <+: rest :=
            htake ▸ (List.takeWhile_prefix isTail).trans (List.take_prefix k rest)
          obtain ⟨later, rfl⟩ := hprefix
          have htail : ∀ x ∈ b :: tail, isTail x = true :=
            List.forall_mem_cons.2
              ⟨isTail_of_isSecond hsecond, fun _ hx => List.mem_takeWhile_imp (htake ▸ hx)⟩
          by_cases hlength : tail.length = k
          · have hfour := (Char.ofNat (tail.foldl extend (extend n b))).utf8Size_le_four
            refine ⟨_, b :: tail, later, rfl, ?_, htail, hfour.trans ?_⟩
            · simp only [decodeOne, hlead, hsecond, htake, hlength, Bool.not_true,
                Bool.false_eq_true, if_false, if_true, List.length_cons]
            · rw [List.length_cons]
              omega
          · -- Too few bytes go on with the character, and one replacement stands for all of them.
            refine ⟨replacement, b :: tail, later, rfl, ?_, htail, by omega⟩
            simp [decodeOne, hlead, hsecond, htake, hlength]
        · exact ⟨replacement, [], b :: rest, rfl, by simp [decodeOne, hlead, hsecond], hnone,
            hreplaced⟩

theorem utf8Len_decodeLossy_le {n : Nat} {bytes : List UInt8} (h : Unescaped n bytes) :
    utf8Len (decodeLossy bytes) ≤ n := by
  rw [decodeLossy]
  -- Several bytes are read at a time, so the induction is on the length.
  induction hk : bytes.length using Nat.strong_induction_on generalizing n bytes with
  | _ k ih =>
    subst hk
    cases h with
    | nil => exact Nat.le_refl 0
    | @char n bytes c h =>
      have hlength : bytes.length < (utf8EncodeChar c ++ bytes).length := by
        have := c.utf8Size_pos
        rw [List.length_append, String.length_utf8EncodeChar]
        omega
      rw [decodeAfter_encodeChar, utf8Len_cons]
      exact Nat.add_le_add_right (ih _ hlength h rfl) _
    | @escape n bytes b h =>
      obtain ⟨c, tail, rest, rfl, hread, htail, hsize⟩ := decodeOne_spec b bytes
      -- No character begins with bytes that continue one, so these were written as escapes as well.
      obtain ⟨m, rfl, hrest⟩ := unescaped_of_tail h htail
      have hlength : rest.length < (b :: (tail ++ rest)).length := by
        rw [List.length_cons, List.length_append]
        omega
      have hlater := ih _ hlength hrest rfl
      rw [decodeAfter, hread]
      change utf8Len (c :: decodeAfter tail.length (tail ++ rest)) ≤ _
      rw [utf8Len_cons, decodeAfter_append rfl]
      omega

end Utf8

namespace Text

theorem getD_breakAt_sublist {α : Type} (p : α → Bool) (s : List α) :
    ((breakAt p s).2.getD []).Sublist s := by
  induction s with
  | nil => exact List.Sublist.refl []
  | cons a rest ih =>
    rw [breakAt]
    split
    · exact List.sublist_cons_self a rest
    · exact ih.cons a

theorem sum_utf8Len_splitBy_le (p : Char → Bool) (s : List Char) :
    ((splitBy p s).map utf8Len).sum ≤ utf8Len s := by
  have hflatten : ∀ pieces : List (List Char),
      (pieces.map utf8Len).sum = utf8Len pieces.flatten := by
    intro pieces
    induction pieces with
    | nil => rfl
    | cons piece pieces ih =>
      rw [List.map_cons, List.sum_cons, ih, List.flatten_cons, String.utf8Len_append]
  rw [hflatten]
  exact String.utf8Len_le_of_sublist (flatten_splitBy_sublist p s)

end Text

namespace Form

open Utf8 (encode)

theorem utf8ByteSize_decodePart_le (s : List Char) :
    (decodePart (encode s)).utf8ByteSize ≤ utf8Len s := by
  rw [decodePart, String.utf8ByteSize_ofList, map_plusToSpace_encode, ← utf8Len_map_spaced s]
  exact Utf8.utf8Len_decodeLossy_le (Percent.unescaped_decode _)

theorem utf8ByteSize_value_le (s : List Char) :
    (pairOf (encode s)).2.utf8ByteSize ≤ utf8Len s := by
  have hequals : utf8EncodeChar '=' = [0x3d] := rfl
  have hvalue : (pairOf (encode s)).2 =
      decodePart (encode ((Text.breakAt (· == '=') s).2.getD [])) := by
    rw [pairOf, Utf8.breakAt_encode hequals (by decide)]
    cases (Text.breakAt (· == '=') s).2 <;> rfl
  rw [hvalue]
  exact (utf8ByteSize_decodePart_le _).trans
    (String.utf8Len_le_of_sublist (Text.getD_breakAt_sublist _ s))

theorem sum_utf8ByteSize_values_pieces_le (pieces : List (List Char)) :
    ((((pieces.map encode).filter fun piece => !piece.isEmpty).map pairOf).map
      fun pair => pair.2.utf8ByteSize).sum ≤ (pieces.map utf8Len).sum := by
  induction pieces with
  | nil => exact Nat.le_refl 0
  | cons piece pieces ih =>
    have hpiece := utf8ByteSize_value_le piece
    rw [List.map_cons, List.filter_cons, List.map_cons, List.sum_cons]
    split
    · rw [List.map_cons, List.map_cons, List.sum_cons]
      omega
    · omega

theorem sum_utf8ByteSize_values_le (text : String) :
    ((Form.pairs text).map fun pair => pair.2.utf8ByteSize).sum ≤ text.utf8ByteSize := by
  have hampersand : utf8EncodeChar '&' = [0x26] := rfl
  rw [Form.pairs, Utf8.splitBy_encode hampersand (by decide), ← String.utf8Len_toList text]
  exact (sum_utf8ByteSize_values_pieces_le _).trans (Text.sum_utf8Len_splitBy_le _ _)

end Form
end RowQuery

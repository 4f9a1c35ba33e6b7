import Mathlib.Data.List.Forall2
import RowQuery.Proofs.Text.Form

/-!
# Bytes written as escapes

A byte may be written as an escape where it has no meaning of its own: it is no mark of a form and
no hexadecimal digit. Such a spelling can neither end nor complete an escape that is begun by a
percent sign before it, and so the pairs that are read stay the same, malformed escapes included.
-/
namespace RowQuery

namespace Text

variable {α : Type} {p : α → Bool} {start s : List α}

theorem splitBy_append_of_forall (h : ∀ a ∈ start, p a = false) {piece : List α}
    {pieces : List (List α)} (hs : splitBy p s = piece :: pieces) :
    splitBy p (start ++ s) = (start ++ piece) :: pieces := by
  induction start with
  | nil => exact hs
  | cons a start ih =>
    have ha : p a = false := h a List.mem_cons_self
    have hstart := ih fun b hb => h b (List.mem_cons_of_mem a hb)
    simp [splitBy, ha, hstart]

theorem breakAt_append_of_forall (h : ∀ a ∈ start, p a = false) :
    breakAt p (start ++ s) = (start ++ (breakAt p s).1, (breakAt p s).2) := by
  induction start with
  | nil => rfl
  | cons a start ih =>
    have ha : p a = false := h a List.mem_cons_self
    have hstart := ih fun b hb => h b (List.mem_cons_of_mem a hb)
    simp [breakAt, ha, hstart]

end Text

namespace Percent

theorem hexValue_eq_none {b : UInt8} (hdigit : b.toNat < 0x30 ∨ 0x39 < b.toNat)
    (hupper : b.toNat < 0x41 ∨ 0x46 < b.toNat) (hlower : b.toNat < 0x61 ∨ 0x66 < b.toNat) :
    hexValue b = none := by
  simp only [hexValue, UInt8.le_iff_toNat_le, UInt8.reduceToNat, Bool.and_eq_true,
    decide_eq_true_eq]
  rw [if_neg (by omega), if_neg (by omega), if_neg (by omega)]

def value? : List UInt8 → Option UInt8
  | high :: low :: _ =>
    match hexValue high, hexValue low with
    | some high, some low => some (high * 16 + low)
    | _, _ => none
  | _ => none

theorem value?_eq_none_of_first {b : UInt8} (h : hexValue b = none) (rest : List UInt8) :
    value? (b :: rest) = none := by
  cases rest with
  | nil => rfl
  | cons c rest => simp [value?, h]

theorem value?_eq_none_of_second {c : UInt8} (h : hexValue c = none) (b : UInt8)
    (rest : List UInt8) : value? (b :: c :: rest) = none := by
  cases hb : hexValue b <;> simp [value?, hb, h]

theorem decode_percent (rest : List UInt8) :
    decode (0x25 :: rest) =
      match value? rest with
      | some b => b :: decode (rest.drop 2)
      | none => 0x25 :: decode rest := by
  match rest with
  | [] | [_] => rfl
  | b :: c :: rest =>
    rw [decode, if_pos rfl]
    cases hb : hexValue b with
    | none => rw [value?_eq_none_of_first hb]
    | some high =>
      cases hc : hexValue c with
      | none => rw [value?_eq_none_of_second hc]
      | some low => simp [value?, hb, hc]

end Percent

namespace Form

open Percent (decode escape hexValue value?)

/-- A byte that means the same as its escape wherever it stands. -/
def isFree (b : UInt8) : Bool := isPlain b && (hexValue b).isNone

theorem isFree_iff {b : UInt8} : isFree b ↔ isPlain b ∧ hexValue b = none := by
  simp [isFree]

/-- The second text with some of its free bytes written as escapes. -/
inductive Respelled : List UInt8 → List UInt8 → Prop
  | nil : Respelled [] []
  | same {s t : List UInt8} (b : UInt8) : Respelled s t → Respelled (b :: s) (b :: t)
  | escaped {s t : List UInt8} {b : UInt8} :
    isFree b → Respelled s t → Respelled (escape b ++ s) (b :: t)

variable {s t : List UInt8}

theorem ne_equals_of_mem_escape {b x : UInt8} (h : x ∈ escape b) : x ≠ 0x3d := by
  have hb := b.toNat_lt
  have hdigit : ∀ n < 16, Percent.hexByte n ≠ 0x3d := by decide
  simp only [escape, List.mem_cons, List.not_mem_nil, or_false] at h
  rcases h with rfl | rfl | rfl
  · decide
  · exact hdigit _ (by omega)
  · exact hdigit _ (by omega)

/-! ## Escapes -/

theorem value?_respelled (h : Respelled s t) :
    value? s = value? t ∧ (value? t ≠ none → Respelled (s.drop 2) (t.drop 2)) := by
  have hpercent : hexValue 0x25 = none := by decide
  cases h with
  | nil => exact ⟨rfl, fun hne => absurd rfl hne⟩
  | escaped hfree _ =>
    have ht := Percent.value?_eq_none_of_first (isFree_iff.mp hfree).2
    exact ⟨(Percent.value?_eq_none_of_first hpercent _).trans (ht _).symm,
      fun hne => absurd (ht _) hne⟩
  | same b h =>
    cases h with
    | nil => exact ⟨rfl, fun hne => absurd rfl hne⟩
    | same c h => exact ⟨rfl, fun _ => h⟩
    | escaped hfree _ =>
      have ht := Percent.value?_eq_none_of_second (isFree_iff.mp hfree).2
      exact ⟨(Percent.value?_eq_none_of_second hpercent b _).trans (ht b _).symm,
        fun hne => absurd (ht b _) hne⟩

theorem decode_respelled (h : Respelled s t) : decode s = decode t := by
  -- A well-formed escape takes two bytes more, so the induction is on the length.
  induction hn : t.length using Nat.strong_induction_on generalizing s t with
  | _ n ih =>
    subst hn
    cases h with
    | nil => rfl
    | escaped hfree h =>
      have hne := (isPlain_iff.mp (isFree_iff.mp hfree).1).1
      rw [Percent.decode_escape, Percent.decode_cons_of_ne hne, ih _ (Nat.lt_succ_self _) h rfl]
    | @same s t b h =>
      have hrest := ih _ (Nat.lt_succ_self _) h rfl
      by_cases hb : b = 0x25
      · obtain ⟨hvalue, hdrop⟩ := value?_respelled h
        subst hb
        rw [Percent.decode_percent, Percent.decode_percent, hvalue]
        cases hv : value? t with
        | none => rw [hrest]
        | some v =>
          have hlength : (t.drop 2).length < (0x25 :: t).length := by
            rw [List.length_drop, List.length_cons]
            omega
          exact congrArg (v :: ·) (ih _ hlength (hdrop (by simp [hv])) rfl)
      · rw [Percent.decode_cons_of_ne hb, Percent.decode_cons_of_ne hb, hrest]

theorem map_plusToSpace_respelled (h : Respelled s t) :
    Respelled (s.map plusToSpace) (t.map plusToSpace) := by
  induction h with
  | nil => exact .nil
  | same b _ ih => exact .same (plusToSpace b) ih
  | @escaped s t b hfree _ ih =>
    have hb : plusToSpace b = b := if_neg (isPlain_iff.mp (isFree_iff.mp hfree).1).2.2.1
    have hescape := plusToSpace_of_ne fun x hx => (Percent.ne_of_mem_escape (b := b) hx).2
    rw [List.map_append, hescape, List.map_cons, hb]
    exact .escaped hfree ih

theorem decodePart_respelled (h : Respelled s t) : decodePart s = decodePart t := by
  rw [decodePart, decodePart, decode_respelled (map_plusToSpace_respelled h)]

/-! ## Pieces -/

theorem isEmpty_respelled (h : Respelled s t) : s.isEmpty = t.isEmpty := by
  cases h <;> rfl

theorem breakAt_respelled (h : Respelled s t) :
    Respelled (Text.breakAt (· == 0x3d) s).1 (Text.breakAt (· == 0x3d) t).1 ∧
      Respelled ((Text.breakAt (· == 0x3d) s).2.getD [])
        ((Text.breakAt (· == 0x3d) t).2.getD []) := by
  induction h with
  | nil => exact ⟨.nil, .nil⟩
  | same b h ih =>
    by_cases hb : (b == 0x3d) = true
    · simpa [Text.breakAt, hb] using ⟨Respelled.nil, h⟩
    · simpa [Text.breakAt, hb] using ⟨Respelled.same b ih.1, ih.2⟩
  | @escaped s t b hfree _ ih =>
    have hb : (b == 0x3d) = false :=
      beq_eq_false_iff_ne.mpr (isPlain_iff.mp (isFree_iff.mp hfree).1).2.2.2
    have hescape : ∀ x ∈ escape b, (x == 0x3d) = false :=
      fun x hx => beq_eq_false_iff_ne.mpr (ne_equals_of_mem_escape hx)
    rw [Text.breakAt_append_of_forall hescape]
    simpa [Text.breakAt, hb] using ⟨Respelled.escaped hfree ih.1, ih.2⟩

theorem pairOf_respelled (h : Respelled s t) : pairOf s = pairOf t := by
  obtain ⟨hname, hvalue⟩ := breakAt_respelled h
  exact Prod.ext (decodePart_respelled hname) (decodePart_respelled hvalue)

theorem exists_splitBy_respelled (h : Respelled s t) :
    ∃ first others piece pieces, Text.splitBy (· == 0x26) s = first :: others ∧
      Text.splitBy (· == 0x26) t = piece :: pieces ∧ Respelled first piece ∧
      List.Forall₂ Respelled others pieces := by
  induction h with
  | nil => exact ⟨[], [], [], [], rfl, rfl, .nil, .nil⟩
  | @same s t b _ ih =>
    obtain ⟨first, others, piece, pieces, hs, ht, hfirst, hothers⟩ := ih
    by_cases hb : (b == 0x26) = true
    · exact ⟨[], first :: others, [], piece :: pieces, by simp [Text.splitBy, hb, hs],
        by simp [Text.splitBy, hb, ht], .nil, .cons hfirst hothers⟩
    · exact ⟨b :: first, others, b :: piece, pieces, by simp [Text.splitBy, hb, hs],
        by simp [Text.splitBy, hb, ht], .same b hfirst, hothers⟩
  | @escaped s t b hfree _ ih =>
    obtain ⟨first, others, piece, pieces, hs, ht, hfirst, hothers⟩ := ih
    have hb : (b == 0x26) = false :=
      beq_eq_false_iff_ne.mpr (isPlain_iff.mp (isFree_iff.mp hfree).1).2.1
    have hescape : ∀ x ∈ escape b, (x == 0x26) = false :=
      fun x hx => beq_eq_false_iff_ne.mpr (Percent.ne_of_mem_escape hx).1
    exact ⟨escape b ++ first, others, b :: piece, pieces, Text.splitBy_append_of_forall hescape hs,
      by simp [Text.splitBy, hb, ht], .escaped hfree hfirst, hothers⟩

theorem splitBy_respelled (h : Respelled s t) :
    List.Forall₂ Respelled (Text.splitBy (· == 0x26) s) (Text.splitBy (· == 0x26) t) := by
  obtain ⟨first, others, piece, pieces, hs, ht, hfirst, hothers⟩ := exists_splitBy_respelled h
  rw [hs, ht]
  exact .cons hfirst hothers

theorem pairs_respelled {first second : String}
    (h : Respelled (Utf8.encode first.toList) (Utf8.encode second.toList)) :
    Form.pairs first = Form.pairs second := by
  have hpieces := splitBy_respelled h
  rw [Form.pairs, Form.pairs]
  generalize Text.splitBy (· == 0x26) (Utf8.encode first.toList) = pieces at hpieces
  generalize Text.splitBy (· == 0x26) (Utf8.encode second.toList) = others at hpieces
  induction hpieces with
  | nil => rfl
  | cons hpiece _ ih =>
    simp only [List.filter_cons, isEmpty_respelled hpiece]
    split
    · rw [List.map_cons, List.map_cons, pairOf_respelled hpiece, ih]
    · exact ih

end Form
end RowQuery

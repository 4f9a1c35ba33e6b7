import Mathlib.Data.List.TakeWhile
import RowQuery.Proofs.Text.Blank
import RowQuery.Proofs.Text.Respelled
import RowQuery.Url.Reference

/-!
# References that begin with a question mark

Such a reference has neither scheme nor authority, so it cannot be at fault. Its query runs to the
first number sign, or to the end of what is left after cleaning. The query is escaped byte by byte,
and only bytes are escaped that a form reads alike in both spellings.
-/
namespace RowQuery.Url

open Form (Respelled isFree)
open Text (rdropWhile_append)

/-! ## Escapes in a query -/

theorem isFree_of_encodesInQuery {special : Bool} {b : UInt8} (h : encodesInQuery special b) :
    isFree b := by
  have hvalue : b.toNat ≤ 0x20 ∨ 0x7f ≤ b.toNat ∨ b.toNat = 0x22 ∨ b.toNat = 0x23 ∨
      b.toNat = 0x3c ∨ b.toNat = 0x3e ∨ b.toNat = 0x27 := by
    simp only [encodesInQuery, UInt8.le_iff_toNat_le, ← UInt8.toNat_inj, UInt8.reduceToNat,
      Bool.or_eq_true, Bool.and_eq_true, decide_eq_true_eq, beq_iff_eq] at h
    omega
  have hhex : Percent.hexValue b = none :=
    Percent.hexValue_eq_none (by omega) (by omega) (by omega)
  have hplain : Form.isPlain b := by
    rw [Form.isPlain_iff]
    simp only [ne_eq, ← UInt8.toNat_inj, UInt8.reduceToNat]
    omega
  exact Form.isFree_iff.mpr ⟨hplain, hhex⟩

theorem encode_ofNat : ∀ n < 0x7f, String.utf8EncodeChar (Char.ofNat n) = [UInt8.ofNat n] := by
  decide

theorem encode_encodeQueryByte (special : Bool) (b : UInt8) :
    Utf8.encode (encodeQueryByte special b) =
      if encodesInQuery special b then Percent.escape b else [b] := by
  by_cases h : encodesInQuery special b = true
  · rw [encodeQueryByte, if_pos h, if_pos h, Percent.encode_encodeByte]
  · have hlt : b.toNat < 0x7f := by
      by_contra hge
      refine h ?_
      simp [encodesInQuery, UInt8.le_iff_toNat_le, not_lt.mp hge]
    rw [encodeQueryByte, if_neg h, if_neg h, Utf8.encode_cons, encode_ofNat _ hlt,
      UInt8.ofNat_toNat]
    rfl

theorem respelled_encodeQuery (special : Bool) (query : List Char) :
    Respelled (Utf8.encode (encodeQuery special query).toList) (Utf8.encode query) := by
  rw [encodeQuery, String.toList_ofList]
  induction Utf8.encode query with
  | nil => exact .nil
  | cons b rest ih =>
    rw [List.flatMap_cons, Utf8.encode_append, encode_encodeQueryByte]
    by_cases h : encodesInQuery special b = true
    · rw [if_pos h]
      exact .escaped (isFree_of_encodesInQuery h) ih
    · rw [if_neg h]
      exact .same b ih

theorem encodeQuery_mark (special : Bool) (query : List Char) :
    encodeQuery special ('?' :: query) = "?" ++ encodeQuery special query := by
  have hmark : encodeQueryByte special 0x3f = ['?'] := by cases special <;> decide
  have hbytes : Utf8.encode ('?' :: query) = 0x3f :: Utf8.encode query := rfl
  rw [encodeQuery, hbytes, List.flatMap_cons, hmark, encodeQuery, ← String.toList_inj]
  simp

theorem exists_mark_of_encodeQuery {special : Bool} {query : List Char} {rest : String}
    (h : encodeQuery special query = "?" ++ rest) : ∃ tail, query = '?' :: tail := by
  have hbytes : Utf8.encode ("?" ++ rest).toList = 0x3f :: Utf8.encode rest.toList := by
    rw [String.toList_append, Utf8.encode_append]
    rfl
  have hrespelled := respelled_encodeQuery special query
  rw [h, hbytes] at hrespelled
  generalize hq : Utf8.encode query = bytes at hrespelled
  have hdecode := Utf8.decodeLossy_encode query
  cases hrespelled with
  | same b _ =>
    rw [hq] at hdecode
    exact ⟨_, hdecode.symm⟩

/-! ## Where the query is -/

theorem clean_mark (s : List Char) :
    clean ('?' :: s) =
      (('?' :: s).rdropWhile isControlOrSpace).filter fun c => !isTabOrBreak c := by
  have hmark : isControlOrSpace '?' = false := by decide
  rw [clean, List.dropWhile_cons_of_neg (by simp [hmark])]
  rfl

theorem query?_of_clean {reference : String} {rest : List Char}
    (h : clean reference.toList = '?' :: rest) :
    query? reference = .ok (some (encodeQuery true (rest.takeWhile (· != '#')))) := by
  have hhost : afterHost ('?' :: rest) = .ok (.network, '?' :: rest) := by
    have hscheme : scheme? ('?' :: rest) = none := rfl
    simp [afterHost, hscheme, isSlash]
  rw [query?, h, hhost]
  rfl

variable {query : String}

theorem filter_isTabOrBreak_mark (hbreak : ∀ c ∈ query.toList, isTabOrBreak c = false) :
    ('?' :: query.toList).filter (fun c => !isTabOrBreak c) = '?' :: query.toList := by
  refine List.filter_eq_self.mpr (List.forall_mem_cons.mpr ⟨by decide, fun c hc => ?_⟩)
  rw [hbreak c hc]
  rfl

theorem query?_fragment (hnumber : '#' ∉ query.toList)
    (hbreak : ∀ c ∈ query.toList, isTabOrBreak c = false) (fragment : String) :
    query? ("?" ++ query ++ "#" ++ fragment) = .ok (some (encodeQuery true query.toList)) := by
  have htext : ("?" ++ query ++ "#" ++ fragment).toList =
      '?' :: (query.toList ++ ['#'] ++ fragment.toList) := by simp
  have hlast : ('?' :: (query.toList ++ ['#'])).getLast? = some '#' := by
    rw [← List.cons_append, List.getLast?_concat]
  -- Blanks at the end are the fragment's: trimming stops at the number sign.
  have htrim : ('?' :: (query.toList ++ ['#'] ++ fragment.toList)).rdropWhile isControlOrSpace =
      '?' :: query.toList ++ '#' :: fragment.toList.rdropWhile isControlOrSpace := by
    have h := rdropWhile_append hlast (p := isControlOrSpace) (by decide) fragment.toList
    simpa using h
  have hquery : ∀ c ∈ query.toList, (c != '#') = true :=
    fun c hc => bne_iff_ne.mpr fun h => hnumber (h ▸ hc)
  have hclean : clean ("?" ++ query ++ "#" ++ fragment).toList = '?' :: (query.toList ++
      '#' :: (fragment.toList.rdropWhile isControlOrSpace).filter fun c => !isTabOrBreak c) := by
    rw [htext, clean_mark, htrim, List.filter_append, filter_isTabOrBreak_mark hbreak]
    rfl
  rw [query?_of_clean hclean, List.takeWhile_append_of_pos hquery]
  simp

theorem query?_mark (hnumber : '#' ∉ query.toList)
    (hbreak : ∀ c ∈ query.toList, isTabOrBreak c = false)
    (hlast : ∀ c ∈ query.toList.getLast?, isControlOrSpace c = false) :
    query? ("?" ++ query) = .ok (some (encodeQuery true query.toList)) := by
  have htext : ("?" ++ query).toList = '?' :: query.toList := by simp
  have hkept : isControlOrSpace (query.toList.getLast?.getD '?') = false := by
    cases h : query.toList.getLast? with
    | none => decide
    | some c => exact hlast c h
  have htrim : ('?' :: query.toList).rdropWhile isControlOrSpace = '?' :: query.toList := by
    simpa using rdropWhile_append List.getLast?_cons hkept []
  have hquery : query.toList.takeWhile (· != '#') = query.toList :=
    List.takeWhile_eq_self_iff.mpr fun c hc => bne_iff_ne.mpr fun h => hnumber (h ▸ hc)
  have hclean : clean ("?" ++ query).toList = '?' :: query.toList := by
    rw [htext, clean_mark, htrim, filter_isTabOrBreak_mark hbreak]
  rw [query?_of_clean hclean, hquery]

end RowQuery.Url

import RowQuery.Proofs.Text.Split
import RowQuery.Proofs.Text.Utf8
import RowQuery.Text.Form

/-!
# Writing form-encoded pairs

Every byte of a value is written as an escape, so a value may have any characters in it. A name is
written as it is, and for that it must have none of the four bytes with a meaning of their own. What
is written so is read back pair by pair.
-/
namespace RowQuery

theorem Utf8.encode_intercalate (separator : List Char) (pieces : List (List Char)) :
    encode (separator.intercalate pieces) = (encode separator).intercalate (pieces.map encode) := by
  induction pieces with
  | nil => rfl
  | cons piece rest ih =>
    cases rest with
    | nil => simp
    | cons next rest =>
      rw [List.map_cons, List.map_cons, List.intercalate_cons_cons, List.intercalate_cons_cons,
        encode_append, encode_append, ih, List.map_cons]

namespace Percent

def hexByte (n : Nat) : UInt8 := UInt8.ofNat (hexDigit n).toNat

theorem encode_hexDigit : ∀ n < 16, String.utf8EncodeChar (hexDigit n) = [hexByte n] := by decide

theorem hexValue_hexByte : ∀ n < 16, hexValue (hexByte n) = some (UInt8.ofNat n) := by decide

theorem hexByte_ne : ∀ n < 16, hexByte n ≠ 0x26 ∧ hexByte n ≠ 0x2b := by decide

def escape (b : UInt8) : List UInt8 := [0x25, hexByte (b.toNat / 16), hexByte (b.toNat % 16)]

theorem encode_encodeByte (b : UInt8) : Utf8.encode (encodeByte b) = escape b := by
  have hb := b.toNat_lt
  have hpercent : String.utf8EncodeChar '%' = [0x25] := by decide
  have hhigh := encode_hexDigit (b.toNat / 16) (by omega)
  have hlow := encode_hexDigit (b.toNat % 16) (by omega)
  simp only [Utf8.encode, encodeByte, List.flatMap_cons, hpercent, hhigh, hlow]
  rfl

theorem encode_flatMap_encodeByte (bytes : List UInt8) :
    Utf8.encode (bytes.flatMap encodeByte) = bytes.flatMap escape := by
  induction bytes with
  | nil => rfl
  | cons b rest ih =>
    rw [List.flatMap_cons, Utf8.encode_append, encode_encodeByte, ih, List.flatMap_cons]

theorem ne_of_mem_escape {b x : UInt8} (h : x ∈ escape b) : x ≠ 0x26 ∧ x ≠ 0x2b := by
  have hb := b.toNat_lt
  have hhigh := hexByte_ne (b.toNat / 16) (by omega)
  have hlow := hexByte_ne (b.toNat % 16) (by omega)
  simp only [escape, List.mem_cons, List.not_mem_nil, or_false] at h
  rcases h with rfl | rfl | rfl
  · decide
  · exact hhigh
  · exact hlow

theorem decode_escape (b : UInt8) (rest : List UInt8) :
    decode (escape b ++ rest) = b :: decode rest := by
  have hb := b.toNat_lt
  have hhigh := hexValue_hexByte (b.toNat / 16) (by omega)
  have hlow := hexValue_hexByte (b.toNat % 16) (by omega)
  have hvalue : UInt8.ofNat (b.toNat / 16) * 16 + UInt8.ofNat (b.toNat % 16) = b := by
    rw [← UInt8.toNat_inj]
    simp only [UInt8.toNat_add, UInt8.toNat_mul, UInt8.toNat_ofNat', UInt8.reduceToNat]
    omega
  simp only [escape, List.cons_append, List.nil_append, decode, if_true, hhigh, hlow, hvalue]

theorem decode_flatMap_escape (bytes : List UInt8) : decode (bytes.flatMap escape) = bytes := by
  induction bytes with
  | nil => rfl
  | cons b rest ih => rw [List.flatMap_cons, decode_escape, ih]

theorem decode_cons_of_ne {a : UInt8} (h : a ≠ 0x25) (rest : List UInt8) :
    decode (a :: rest) = a :: decode rest := by
  match rest with
  | [] | [_] => rfl
  | _ :: _ :: _ => rw [decode, if_neg h]

theorem decode_append_of_forall {bytes : List UInt8} (h : ∀ b ∈ bytes, b ≠ 0x25)
    (rest : List UInt8) : decode (bytes ++ rest) = bytes ++ decode rest := by
  induction bytes with
  | nil => rfl
  | cons a bytes ih =>
    rw [List.cons_append, decode_cons_of_ne (h a List.mem_cons_self),
      ih fun b hb => h b (List.mem_cons_of_mem a hb), List.cons_append]

theorem decode_of_forall {bytes : List UInt8} (h : ∀ b ∈ bytes, b ≠ 0x25) :
    decode bytes = bytes := by
  have hdecode := decode_append_of_forall h []
  rwa [List.append_nil, show decode [] = [] from rfl, List.append_nil] at hdecode

end Percent

namespace Form

def isPlain (b : UInt8) : Bool := b != 0x25 && b != 0x26 && b != 0x2b && b != 0x3d

theorem isPlain_iff {b : UInt8} : isPlain b ↔ b ≠ 0x25 ∧ b ≠ 0x26 ∧ b ≠ 0x2b ∧ b ≠ 0x3d := by
  simp [isPlain, and_assoc]

def PlainName (name : String) : Prop := ∀ b ∈ Utf8.encode name.toList, isPlain b

instance (name : String) : Decidable (PlainName name) := List.decidableBAll ..

def escaped (value : String) : String :=
  String.ofList ((Utf8.encode value.toList).flatMap Percent.encodeByte)

def writePair (pair : String × String) : String := pair.1 ++ "=" ++ escaped pair.2

def write (pairs : List (String × String)) : String := "&".intercalate (pairs.map writePair)

def pieceOf (pair : String × String) : List UInt8 :=
  Utf8.encode pair.1.toList ++ 0x3d :: (Utf8.encode pair.2.toList).flatMap Percent.escape

theorem encode_writePair (pair : String × String) :
    Utf8.encode (writePair pair).toList = pieceOf pair := by
  simp only [writePair, escaped, String.toList_append, String.toList_ofList, Utf8.encode_append,
    Percent.encode_flatMap_encodeByte, List.append_assoc]
  rfl

theorem encode_write (pairs : List (String × String)) :
    Utf8.encode (write pairs).toList = [0x26].intercalate (pairs.map pieceOf) := by
  have hmark : Utf8.encode "&".toList = [0x26] := by decide
  rw [write, String.toList_intercalate, Utf8.encode_intercalate, hmark, List.map_map, List.map_map]
  exact congrArg _ (List.map_congr_left fun pair _ => encode_writePair pair)

variable {pair : String × String}

theorem plusToSpace_of_ne {bytes : List UInt8} (h : ∀ b ∈ bytes, b ≠ 0x2b) :
    bytes.map plusToSpace = bytes :=
  (List.map_congr_left fun b hb => if_neg (h b hb)).trans (List.map_id bytes)

theorem ampersand_not_mem_pieceOf (h : PlainName pair.1) : 0x26 ∉ pieceOf pair := by
  intro hmem
  rcases List.mem_append.mp hmem with hname | hvalue
  · exact (isPlain_iff.mp (h _ hname)).2.1 rfl
  · rcases List.mem_cons.mp hvalue with hmark | hvalue
    · exact absurd hmark (by decide)
    · obtain ⟨b, _, hb⟩ := List.mem_flatMap.mp hvalue
      exact (Percent.ne_of_mem_escape hb).1 rfl

theorem decodePart_name {name : String} (h : PlainName name) :
    decodePart (Utf8.encode name.toList) = name := by
  rw [decodePart, plusToSpace_of_ne fun b hb => (isPlain_iff.mp (h b hb)).2.2.1,
    Percent.decode_of_forall fun b hb => (isPlain_iff.mp (h b hb)).1, Utf8.decodeLossy_encode,
    String.ofList_toList]

theorem decodePart_value (value : String) :
    decodePart ((Utf8.encode value.toList).flatMap Percent.escape) = value := by
  have hplus : ∀ b ∈ (Utf8.encode value.toList).flatMap Percent.escape, b ≠ 0x2b := by
    intro b hb
    obtain ⟨a, _, ha⟩ := List.mem_flatMap.mp hb
    exact (Percent.ne_of_mem_escape ha).2
  rw [decodePart, plusToSpace_of_ne hplus, Percent.decode_flatMap_escape, Utf8.decodeLossy_encode,
    String.ofList_toList]

theorem pairOf_pieceOf (h : PlainName pair.1) : pairOf (pieceOf pair) = pair := by
  have hname : ∀ b ∈ Utf8.encode pair.1.toList, (b == 0x3d) = false := by
    intro b hb
    exact beq_eq_false_iff_ne.mpr (isPlain_iff.mp (h b hb)).2.2.2
  rw [pairOf, pieceOf, Text.breakAt_append_cons hname (by decide)]
  exact Prod.ext (decodePart_name h) (decodePart_value pair.2)

theorem pairs_write {pairs : List (String × String)} (h : ∀ pair ∈ pairs, PlainName pair.1) :
    Form.pairs (write pairs) = pairs := by
  by_cases hne : pairs = []
  · subst hne
    rfl
  · have hpieces : ∀ piece ∈ pairs.map pieceOf, (0x26 : UInt8) ∉ piece :=
      List.forall_mem_map.mpr fun pair hpair => ampersand_not_mem_pieceOf (h pair hpair)
    have hkeep : ∀ piece ∈ pairs.map pieceOf, (!piece.isEmpty) = true :=
      List.forall_mem_map.mpr fun pair _ => by simp [pieceOf]
    rw [Form.pairs, encode_write, Text.splitBy_intercalate hpieces (by simpa using hne),
      List.filter_eq_self.mpr hkeep, List.map_map]
    exact (List.map_congr_left fun pair hpair => pairOf_pieceOf (h pair hpair)).trans
      (List.map_id pairs)

/-! ## Texts joined with ampersands -/

theorem pairs_append (first second : String) :
    Form.pairs (first ++ "&" ++ second) = Form.pairs first ++ Form.pairs second := by
  have hmark : Utf8.encode "&".toList = [0x26] := by decide
  simp only [Form.pairs, String.toList_append, Utf8.encode_append, hmark, List.append_assoc,
    List.singleton_append]
  rw [Text.splitBy_append_separator (by decide), List.filter_append, List.map_append]

theorem pairs_intercalate (pieces : List String) :
    Form.pairs ("&".intercalate pieces) = pieces.flatMap Form.pairs := by
  induction pieces with
  | nil => rfl
  | cons piece rest ih =>
    cases rest with
    | nil => rw [String.intercalate_singleton, List.flatMap_singleton]
    | cons next rest =>
      rw [String.intercalate_cons_cons, pairs_append, ih]
      rfl

/-! ## A question mark in front -/

theorem decodePart_mark (bytes : List UInt8) :
    decodePart (0x3f :: bytes) = "?" ++ decodePart bytes := by
  have hmark : Utf8.encode ['?'] = [0x3f] := by decide
  have hplus : plusToSpace 0x3f = 0x3f := rfl
  have hlossy := Utf8.decodeLossy_encode_append ['?'] (Percent.decode (bytes.map plusToSpace))
  rw [hmark] at hlossy
  rw [decodePart, decodePart, List.map_cons, hplus, Percent.decode_cons_of_ne (by decide)]
  exact (congrArg String.ofList hlossy).trans String.ofList_append

theorem pairOf_mark (piece : List UInt8) :
    pairOf (0x3f :: piece) = ("?" ++ (pairOf piece).1, (pairOf piece).2) := by
  have hmark : ((0x3f : UInt8) == 0x3d) = false := by decide
  simp only [pairOf, Text.breakAt, hmark, Bool.false_eq_true, if_false, decodePart_mark]

theorem pairs_mark (text : String) :
    ∃ name value later, Form.pairs ("?" ++ text) = ("?" ++ name, value) :: later ∧
      (Form.pairs text = (name, value) :: later ∨ name = "" ∧ Form.pairs text = later) := by
  have hbytes : Utf8.encode ("?" ++ text).toList = 0x3f :: Utf8.encode text.toList := by
    rw [String.toList_append, Utf8.encode_append]
    rfl
  have hmark : ((0x3f : UInt8) == 0x26) = false := by decide
  cases h : Text.splitBy (· == 0x26) (Utf8.encode text.toList) with
  | nil => exact absurd h (Text.splitBy_ne_nil _ _)
  | cons first more =>
    have hpairs : Form.pairs ("?" ++ text) = pairOf (0x3f :: first) ::
        (more.filter fun piece => !piece.isEmpty).map pairOf := by
      rw [Form.pairs, hbytes, Text.splitBy, h]
      simp [hmark]
    refine ⟨_, _, _, hpairs.trans (by rw [pairOf_mark]), ?_⟩
    cases first with
    | nil => exact .inr ⟨rfl, by simp [Form.pairs, h]⟩
    | cons b first => exact .inl (by simp [Form.pairs, h])

end Form
end RowQuery

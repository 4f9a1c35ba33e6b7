import Mathlib.Data.Nat.ModEq
import RowQuery.Proofs.Yaml.Plain
import RowQuery.Yaml.Style

/-!
# Quoted scalars read back

Between double quotes every character stands for itself or is written by an escape that is read as
this character, so a text of one line is read back whole. Values have no line ends between their
quotes; keys may have the separators U+2028 and U+2029, and are read back without those.
-/
namespace RowQuery.Yaml

namespace Quoted

/-! ## Hexadecimal digits -/

theorem digit?_hexDigit {n : Nat} (h : n < 16) : Hexadecimal.digit? (hexDigit n) = some n := by
  have hall : ∀ n < 16, Hexadecimal.digit? (hexDigit n) = some n := by decide
  exact hall n h

theorem value?_hex (width n : Nat) : Hexadecimal.value? (hex width n) = some (n % 16 ^ width) := by
  induction width generalizing n with
  | zero => rw [Nat.pow_zero, Nat.mod_one]; rfl
  | succ width ih =>
    have hdigit := digit?_hexDigit (Nat.mod_lt n (show 0 < 16 by decide))
    have hvalue : 16 * (n / 16 % 16 ^ width) + n % 16 = n % 16 ^ (width + 1) := by
      rw [Nat.pow_succ', Nat.mod_mul]
      omega
    have hread : Hexadecimal.value? (hex width (n / 16) ++ [hexDigit (n % 16)]) =
        (Hexadecimal.value? (hex width (n / 16))).bind fun high =>
          (Hexadecimal.digit? (hexDigit (n % 16))).map (16 * high + ·) := by
      simp [Hexadecimal.value?]
    rw [hex, hread, ih, hdigit, Option.bind_some, Option.map_some, hvalue]

theorem char?_hex {width : Nat} {c : Char} (h : c.toNat < 16 ^ width) (rest : List Char) :
    Hexadecimal.char? width (hex width c.toNat ++ rest) = some (c, rest) := by
  have hlength := length_hex width c.toNat
  have hcode : Hexadecimal.ofCode? c.toNat = some c := by
    have hvalid : c.toNat.isValidChar := c.valid
    rw [Hexadecimal.ofCode?, if_pos hvalid, Char.ofNat_toNat]
  rw [Hexadecimal.char?, List.take_left' hlength, List.drop_left' hlength, hlength]
  simp [value?_hex, Nat.mod_eq_of_lt h, hcode]

/-! ## One character -/

inductive StandsFor (c : Char) : List Char → Prop
  | itself (hspace : c = ' ' ∨ Yaml.isSpace c = false) (hquote : c ≠ '"') (hslash : c ≠ '\\') :
      StandsFor c [c]
  | escaped {letters : List Char} (hne : letters ≠ []) (hbreak : ∀ d ∈ letters, isBreak d = false)
      (hread : ∀ rest, escape (letters ++ rest) = some (c, letters.length)) :
      StandsFor c ('\\' :: letters)

theorem StandsFor.isBreak {c : Char} {written : List Char} (h : StandsFor c written) :
    ∀ d ∈ written, isBreak d = false := by
  cases h with
  | itself hspace hquote hslash =>
    rw [List.forall_mem_singleton]
    rcases hspace with rfl | hspace
    · rfl
    · exact isBreak_of_not_isSpace hspace
  | escaped hne hbreak hread => exact List.forall_mem_cons.mpr ⟨rfl, hbreak⟩

theorem StandsFor.length_pos {c : Char} {written : List Char} (h : StandsFor c written) :
    0 < written.length := by
  cases h <;> exact Nat.succ_pos _

theorem isBreak_of_mem_hex {width n : Nat} {d : Char} (h : d ∈ hex width n) : isBreak d = false := by
  have hdigits : ∀ m < 16, isBreak (hexDigit m) = false := by decide
  induction width generalizing n with
  | zero => cases h
  | succ width ih =>
    rcases List.mem_append.mp h with h | h
    · exact ih h
    · rw [List.mem_singleton.mp h]
      exact hdigits _ (Nat.mod_lt n (by decide))

theorem toNat_lt_of_isControl {c : Char} (h : Plain.isControl c = true) : c.toNat < 0xa0 := by
  simp only [Plain.isControl, Bool.or_eq_true, Bool.and_eq_true, decide_eq_true_eq] at h
  omega

theorem isSpace_of_not_isControl {c : Char} (h : isBreak c = false ∨ c = '\n')
    (hcontrol : ¬Plain.isControl c = true) : c = ' ' ∨ Yaml.isSpace c = false := by
  have hnewline : c ≠ '\n' := by
    rintro rfl
    exact hcontrol rfl
  have htab : c ≠ '\t' := by
    rintro rfl
    exact hcontrol rfl
  by_cases hc : c = ' '
  · exact .inl hc
  · right
    simp [Yaml.isSpace, isBlank, hc, htab, h.resolve_right hnewline]

theorem standsFor_letter {c letter : Char} (hbreak : isBreak letter = false)
    (hread : ∀ rest, escape (letter :: rest) = some (c, 1)) : StandsFor c ['\\', letter] :=
  .escaped (List.cons_ne_nil _ _) (List.forall_mem_singleton.mpr hbreak) hread

theorem standsFor_escapeInKey {c : Char} (h : isBreak c = false ∨ c = '\n') :
    StandsFor c (escapeInKey c) := by
  simp only [escapeInKey, Bool.or_eq_true, decide_eq_true_eq]
  split
  · rename_i hc
    rcases hc with rfl | rfl <;> exact standsFor_letter rfl fun rest => rfl
  · rename_i hmark
    rw [not_or] at hmark
    split
    · rename_i hc
      exact hc ▸ standsFor_letter rfl fun rest => rfl
    · split
      · rename_i hc
        exact hc ▸ standsFor_letter rfl fun rest => rfl
      · split
        · rename_i hc
          exact hc ▸ standsFor_letter rfl fun rest => rfl
        · split
          · rename_i hcontrol
            have hlt : c.toNat < 16 ^ 4 := Nat.lt_trans (toNat_lt_of_isControl hcontrol) (by decide)
            refine .escaped (by simp) (List.forall_mem_cons.mpr ⟨rfl, fun d hd => ?_⟩) fun rest => ?_
            · exact isBreak_of_mem_hex hd
            · simp [escape, char?_hex hlt, length_hex]
          · rename_i hcontrol
            exact .itself (isSpace_of_not_isControl h hcontrol) hmark.2 hmark.1

theorem standsFor_escapeInValue (c : Char) : StandsFor c (escapeInValue c) := by
  have hcode : ∀ {n : Nat}, c.toNat = n → c = Char.ofNat n := by
    rintro n rfl
    exact (Char.ofNat_toNat c).symm
  unfold escapeInValue
  split
  case h_15 n h =>
    rw [hcode h]
    exact .escaped (by simp) (by simp [isBreak]) fun rest => rfl
  case h_16 n hslash hquote _ _ _ _ hnewline _ _ _ _ _ hline hparagraph _ =>
    split
    · rename_i hcontrol
      have hlt : c.toNat < 16 ^ 2 := Nat.lt_trans (toNat_lt_of_isControl hcontrol) (by decide)
      refine .escaped (by simp) (List.forall_mem_cons.mpr ⟨rfl, fun d hd => ?_⟩) fun rest => ?_
      · exact isBreak_of_mem_hex hd
      · simp [escape, char?_hex hlt, length_hex]
    · rename_i hcontrol
      have hbreak : isBreak c = false := by
        have hne : c ≠ '\n' := fun h => hnewline (congrArg Char.toNat h)
        have hother : ¬c.toNat = 0x2028 ∧ ¬c.toNat = 0x2029 := ⟨hline, hparagraph⟩
        simpa [isBreak, hne] using hother
      refine .itself (isSpace_of_not_isControl (.inl hbreak) hcontrol) ?_ ?_
      · exact fun h => hquote (congrArg Char.toNat h)
      · exact fun h => hslash (congrArg Char.toNat h)
  all_goals
    rename_i h
    rw [hcode h]
    exact standsFor_letter rfl fun rest => rfl

end Quoted

/-! ## Whole scalars -/

variable {fuel : Nat} {p : Place} {rest : List Char} {E : Char → List Char}

theorem doubleTail_spaces (n : Nat)
    (hmarker : (⟨p.after (spaces n), '"' :: rest⟩ : Cursor).atMarker = false) :
    doubleTail (fuel + 1) false ⟨p, spaces n ++ '"' :: rest⟩ =
      some (spaces n, ⟨p.after (spaces n ++ ['"']), rest⟩) := by
  have hgap : gapAt ⟨p, spaces n ++ '"' :: rest⟩ = spaces n :=
    gapAt_append (fun _ => isSpace_of_mem_spaces) (stops_cons.mpr rfl) p
  rw [doubleTail]
  simp only [hgap, Cursor.drop_append, hmarker, fold_spaces, Bool.false_eq_true, if_false,
    Cursor.drop_one, Place.after_append]
  rfl

theorem doubleTail_word {c : Char} {written : List Char} (n : Nat) (hc : c ≠ ' ')
    (h : Quoted.StandsFor c written)
    (hmarker : (⟨p.after (spaces n), written ++ rest⟩ : Cursor).atMarker = false) :
    doubleTail (fuel + 1) false ⟨p, spaces n ++ (written ++ rest)⟩ =
      prepend (spaces n ++ [c])
        (doubleTail fuel false ⟨p.after (spaces n ++ written), rest⟩) := by
  have hstops : Stops (written ++ rest) := by
    cases h with
    | itself hspace => exact stops_cons.mpr (hspace.resolve_left hc)
    | escaped => exact stops_cons.mpr rfl
  have hgap : gapAt ⟨p, spaces n ++ (written ++ rest)⟩ = spaces n :=
    gapAt_append (fun _ => isSpace_of_mem_spaces) hstops p
  rw [doubleTail]
  simp only [hgap, Cursor.drop_append, hmarker, fold_spaces, Bool.false_eq_true, if_false,
    Place.after_append]
  cases h with
  | itself hspace hquote hslash =>
    dsimp only [List.singleton_append]
    split
    · contradiction
    · rename_i heq
      exact absurd (List.cons.inj heq).1 hquote
    · rename_i heq
      exact absurd (List.cons.inj heq).1 hslash
    · rename_i heq
      obtain ⟨rfl, rfl⟩ := List.cons.inj heq
      rw [Cursor.drop_one]
      rfl
  | escaped hne hbreak hread =>
    rename_i letters
    -- What stands behind the backslash is no line end, so it is read as an escape.
    have hhead : (letters ++ rest).head?.any isBreak = false := by
      cases letters with
      | nil => exact absurd rfl hne
      | cons d letters => simp [hbreak d List.mem_cons_self]
    have hdrop : (⟨p.after (spaces n), '\\' :: letters ++ rest⟩ : Cursor).drop (letters.length + 1) =
        ⟨(p.after (spaces n)).after ('\\' :: letters), rest⟩ :=
      Cursor.drop_append _ ('\\' :: letters) rest
    rw [List.cons_append]
    simp only [hhead, hread, Bool.false_eq_true, if_false, Option.bind_eq_bind, Option.bind_some]
    rw [← List.cons_append, hdrop]

theorem doubleTail_flatMap {s : List Char} (hE : ∀ c ∈ s, Quoted.StandsFor c (E c))
    (hspace : E ' ' = [' ']) (hcolumn : 0 < p.column)
    (hfuel : (s.flatMap E ++ '"' :: rest).length < fuel) :
    doubleTail fuel false ⟨p, s.flatMap E ++ '"' :: rest⟩ =
      some (s, ⟨p.after (s.flatMap E ++ ['"']), rest⟩) := by
  obtain ⟨fuel, rfl⟩ : ∃ n, fuel = n + 1 := ⟨fuel - 1, by omega⟩
  have hspaces : ∀ n, (spaces n).flatMap E = spaces n := by
    intro n
    rw [spaces, List.flatMap_replicate, hspace]
    simp
  induction s using spaces_induction generalizing p fuel with
  | blank n =>
    rw [hspaces]
    exact doubleTail_spaces n
      (Cursor.atMarker_of_pos (Place.column_pos_after (fun _ => isBreak_of_mem_spaces) hcolumn))
  | word n c s hc ih =>
    have hstands := hE c (by simp)
    have hbreak : ∀ d ∈ spaces n ++ E c, isBreak d = false :=
      List.forall_mem_append.mpr ⟨fun _ => isBreak_of_mem_spaces, hstands.isBreak⟩
    have hwritten := hstands.length_pos
    have hsplit : (spaces n ++ c :: s).flatMap E = (spaces n ++ E c) ++ s.flatMap E := by
      rw [List.flatMap_append, hspaces, List.flatMap_cons, List.append_assoc]
    rw [hsplit] at hfuel ⊢
    simp only [List.length_append, List.length_cons] at hfuel
    obtain ⟨fuel, rfl⟩ : ∃ m, fuel = m + 1 := ⟨fuel - 1, by omega⟩
    have hrest := ih (fun d hd => hE d (by simp [hd]))
      (Place.column_pos_after hbreak hcolumn) fuel
      (by simp only [List.length_append, List.length_cons]; omega)
    have hmarker : (⟨p.after (spaces n), E c ++ (s.flatMap E ++ '"' :: rest)⟩ : Cursor).atMarker =
        false :=
      Cursor.atMarker_of_pos (Place.column_pos_after (fun _ => isBreak_of_mem_spaces) hcolumn)
    have hread : doubleTail (fuel + 1 + 1) false
        ⟨p, spaces n ++ (E c ++ (s.flatMap E ++ '"' :: rest))⟩ = _ :=
      doubleTail_word n hc hstands hmarker
    rw [hrest, prepend_some] at hread
    simpa [Place.after_append] using hread

theorem doubleQuoted_key {s : List Char} (h : ∀ c ∈ s, isBreak c = false ∨ c = '\n')
    (hfuel : (Quoted.key s ++ rest).length ≤ fuel) :
    doubleQuoted fuel ⟨p, Quoted.key s ++ rest⟩ = some (s, ⟨p.after (Quoted.key s), rest⟩) := by
  have hpast : 0 < (p.past '"').column := Nat.succ_pos _
  have hsplit : Quoted.key s ++ rest = '"' :: (s.flatMap Quoted.escapeInKey ++ '"' :: rest) := by
    simp [Quoted.key]
  rw [hsplit] at hfuel ⊢
  exact doubleTail_flatMap (fun c hc => Quoted.standsFor_escapeInKey (h c hc)) rfl hpast hfuel

theorem doubleQuoted_value {s : List Char} (hfuel : (Quoted.value s ++ rest).length ≤ fuel) :
    doubleQuoted fuel ⟨p, Quoted.value s ++ rest⟩ = some (s, ⟨p.after (Quoted.value s), rest⟩) := by
  have hpast : 0 < (p.past '"').column := Nat.succ_pos _
  have hsplit : Quoted.value s ++ rest = '"' :: (s.flatMap Quoted.escapeInValue ++ '"' :: rest) := by
    simp [Quoted.value]
  rw [hsplit] at hfuel ⊢
  exact doubleTail_flatMap (fun c _ => Quoted.standsFor_escapeInValue c) rfl hpast hfuel

theorem singleTail_quote (hrest : rest.head? ≠ some '\'') (hcolumn : 0 < p.column) :
    singleTail (fuel + 1) ⟨p, '\'' :: rest⟩ = some ([], ⟨p.past '\'', rest⟩) := by
  have hgap : gapAt ⟨p, '\'' :: rest⟩ = [] := rfl
  have hmarker : (⟨p, '\'' :: rest⟩ : Cursor).atMarker = false := Cursor.atMarker_of_pos hcolumn
  rw [singleTail, hgap]
  simp only [List.length_nil]
  have hdrop : (⟨p, '\'' :: rest⟩ : Cursor).drop 0 = ⟨p, '\'' :: rest⟩ := rfl
  rw [hdrop, hmarker]
  cases rest with
  | nil => rfl
  | cons d rest =>
    have hd : d ≠ '\'' := by simpa using hrest
    simp only [Bool.false_eq_true, if_false]
    split
    · contradiction
    · rename_i heq
      exact absurd (List.cons.inj (List.cons.inj heq).2).1 hd
    · rfl
    · rename_i hne heq
      exact (hne (List.cons.inj heq).1.symm).elim

theorem singleTail_word {c : Char} (hspace : isSpace c = false) (hquote : c ≠ '\'')
    (hcolumn : 0 < p.column) :
    singleTail (fuel + 1) ⟨p, c :: rest⟩ = prepend [c] (singleTail fuel ⟨p.past c, rest⟩) := by
  have hgap : gapAt ⟨p, [] ++ c :: rest⟩ = [] :=
    gapAt_append (fun _ hd => absurd hd List.not_mem_nil) (stops_cons.mpr hspace) p
  rw [List.nil_append] at hgap
  have hmarker : (⟨p, c :: rest⟩ : Cursor).atMarker = false := Cursor.atMarker_of_pos hcolumn
  have hdrop : (⟨p, c :: rest⟩ : Cursor).drop 0 = ⟨p, c :: rest⟩ := rfl
  rw [singleTail, hgap]
  simp only [List.length_nil, hdrop, hmarker, Bool.false_eq_true, if_false]
  split
  · contradiction
  · rename_i heq
    exact absurd (List.cons.inj heq).1 hquote
  · rename_i heq
    exact absurd (List.cons.inj heq).1 hquote
  · rename_i heq
    obtain ⟨rfl, rfl⟩ := List.cons.inj heq
    rfl

theorem singleQuoted_singleton {c : Char} (hspace : isSpace c = false) (hquote : c ≠ '\'')
    (hrest : rest.head? ≠ some '\'') :
    singleQuoted (fuel + 2) ⟨p, '\'' :: c :: '\'' :: rest⟩ =
      some ([c], ⟨p.after ['\'', c, '\''], rest⟩) := by
  have hpast : 0 < (p.past '\'').column := Nat.succ_pos _
  have hpast' : 0 < ((p.past '\'').past c).column := by
    rw [Place.past_of_not_isBreak (isBreak_of_not_isSpace hspace)]
    exact Nat.succ_pos _
  rw [singleQuoted, Cursor.drop_one, singleTail_word hspace hquote hpast,
    singleTail_quote hrest hpast']
  rfl

end RowQuery.Yaml

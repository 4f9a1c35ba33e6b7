import RowQuery.Proofs.Yaml.Written

/-!
# Characters of a written text

No control character but the line feed is written as it is. The two code points U+FFFE and U+FFFF
are: the writer takes them for letters, and the reader refuses every text that holds one.
-/
namespace RowQuery.Yaml

/-- The two code points below `0x10000` that are no characters and yet not escaped. -/
def isNoncharacter (c : Char) : Bool := c.toNat = 0xfffe || c.toNat = 0xffff

def IsClean (c : Char) : Prop := c = '\n' ∨ Plain.isControl c = false

def IsAscii (c : Char) : Prop := c = '\n' ∨ 0x20 ≤ c.toNat ∧ c.toNat ≤ 0x7e

instance (c : Char) : Decidable (IsAscii c) := inferInstanceAs (Decidable (_ ∨ _ ∧ _))

def AllAscii (s : List Char) : Prop := ∀ c ∈ s, IsAscii c

-- By name, for there is also an instance that goes through all characters.
instance (s : List Char) : Decidable (AllAscii s) := List.decidableBAll _ s

def AllCharacters (s : List Char) : Prop := ∀ c ∈ s, isNoncharacter c = false

instance (s : List Char) : Decidable (AllCharacters s) := List.decidableBAll _ s

variable {s t written : List Char} {c : Char} {n : Nat}

theorem isPrintable_of_isClean (h : IsClean c) : isPrintable c = !isNoncharacter c := by
  rcases h with rfl | h
  · rfl
  · have hvalid : c.toNat < 0xd800 ∨ 0xdfff < c.toNat ∧ c.toNat < 0x110000 := c.valid
    have hcode : ∀ d : Char, c = d ↔ c.toNat = d.toNat := fun d => Char.toNat_inj.symm
    rw [Bool.eq_iff_iff]
    simp only [Plain.isControl, Bool.or_eq_false_iff, Bool.and_eq_false_iff,
      decide_eq_false_iff_not] at h
    simp only [isPrintable, isNoncharacter, hcode, Bool.or_eq_true, Bool.and_eq_true,
      decide_eq_true_eq, Bool.not_eq_true', Bool.or_eq_false_iff, decide_eq_false_iff_not]
    have hnumbers : '\t'.toNat = 9 ∧ '\n'.toNat = 10 ∧ '\r'.toNat = 13 := by decide
    rw [hnumbers.1, hnumbers.2.1, hnumbers.2.2]
    omega

theorem IsAscii.isClean (h : IsAscii c) : IsClean c := by
  refine h.imp_right fun h => ?_
  simp only [Plain.isControl, Bool.or_eq_false_iff, Bool.and_eq_false_iff, decide_eq_false_iff_not]
  omega

theorem IsAscii.isNoncharacter (h : IsAscii c) : isNoncharacter c = false := by
  rcases h with rfl | h
  · rfl
  · simp only [Yaml.isNoncharacter, Bool.or_eq_false_iff, decide_eq_false_iff_not]
    omega

theorem normalBreaks_of_isClean (h : ∀ c ∈ s, IsClean c) : normalBreaks s = s := by
  have hkept : ∀ c, IsClean c → c ≠ '\r' ∧ c.toNat ≠ 0x85 := by
    rintro c (rfl | hc)
    · decide
    · constructor
      · rintro rfl
        cases hc
      · intro hcode
        rw [Plain.isControl, hcode] at hc
        cases hc
  induction s with
  | nil => rfl
  | cons c s ih =>
    rw [List.forall_mem_cons] at h
    obtain ⟨hreturn, hline⟩ := hkept c h.1
    rw [normalBreaks.eq_def]
    split
    · rename_i heq
      exact absurd (List.cons.inj heq).1 hreturn
    · rename_i heq
      obtain ⟨rfl, rfl⟩ := List.cons.inj heq
      simp [hreturn, hline, ih h.2]
    · rename_i heq
      cases heq

/-- What is written holds the noncharacters of its source, and nothing that is not clean. -/
structure Keeps (source written : List Char) : Prop where
  clean : ∀ c ∈ written, IsClean c
  mem_iff : ∀ c, isNoncharacter c = true → (c ∈ written ↔ c ∈ source)

theorem Keeps.append {source more written' : List Char} (h : Keeps source written)
    (h' : Keeps more written') : Keeps (source ++ more) (written ++ written') where
  clean c hc := (List.mem_append.mp hc).elim (h.clean c) (h'.clean c)
  mem_iff c hc := by rw [List.mem_append, List.mem_append, h.mem_iff c hc, h'.mem_iff c hc]

theorem Keeps.flatMap {α : Type} {items : List α} {source written : α → List Char}
    (h : ∀ item ∈ items, Keeps (source item) (written item)) :
    Keeps (items.flatMap source) (items.flatMap written) := by
  induction items with
  | nil => exact ⟨nofun, fun _ _ => Iff.rfl⟩
  | cons item items ih =>
    rw [List.forall_mem_cons] at h
    exact h.1.append (ih h.2)

theorem keeps_ascii (h : AllAscii s) : Keeps [] s where
  clean c hc := (h c hc).isClean
  mem_iff c hc := by
    refine iff_of_false (fun hmem => ?_) List.not_mem_nil
    rw [(h c hmem).isNoncharacter] at hc
    cases hc

theorem keeps_self (h : ∀ c ∈ s, IsClean c) : Keeps s s := ⟨h, fun _ _ => Iff.rfl⟩

/-! ## Quoted texts -/

theorem isAscii_hexDigit : ∀ n < 16, IsAscii (Quoted.hexDigit n) := by decide

theorem isAscii_of_mem_hex {width : Nat} (h : c ∈ Quoted.hex width n) : IsAscii c := by
  induction width generalizing n with
  | zero => cases h
  | succ width ih =>
    rcases List.mem_append.mp h with h | h
    · exact ih h
    · rw [List.mem_singleton.mp h]
      exact isAscii_hexDigit _ (Nat.mod_lt n (by decide))

theorem keeps_escape (hc : isNoncharacter c = false) (h : AllAscii written) :
    Keeps [c] written where
  clean d hd := (h d hd).isClean
  mem_iff d hd := by
    refine iff_of_false (fun hmem => ?_) fun hmem => ?_
    · rw [(h d hmem).isNoncharacter] at hd
      cases hd
    · rw [List.mem_singleton.mp hmem, hc] at hd
      cases hd

theorem isNoncharacter_of_isControl (h : Plain.isControl c = true) : isNoncharacter c = false := by
  have hlt := Quoted.toNat_lt_of_isControl h
  simp only [isNoncharacter, Bool.or_eq_false_iff, decide_eq_false_iff_not]
  omega

theorem keeps_hex {letter : Char} (hletter : IsAscii letter) (width : Nat)
    (hcontrol : Plain.isControl c = true) :
    Keeps [c] (['\\', letter] ++ Quoted.hex width c.toNat) := by
  refine keeps_escape (isNoncharacter_of_isControl hcontrol) fun d hd => ?_
  rcases List.mem_append.mp hd with hd | hd
  · rcases List.mem_cons.mp hd with rfl | hd
    · decide
    · exact List.mem_singleton.mp hd ▸ hletter
  · exact isAscii_of_mem_hex hd

theorem keeps_escapeInKey (c : Char) : Keeps [c] (Quoted.escapeInKey c) := by
  simp only [Quoted.escapeInKey, Bool.or_eq_true, decide_eq_true_eq]
  split
  · rename_i hc
    rcases hc with rfl | rfl <;> exact keeps_escape rfl (by decide)
  · split
    · rename_i hc
      exact hc ▸ keeps_escape rfl (by decide)
    · split
      · rename_i hc
        exact hc ▸ keeps_escape rfl (by decide)
      · split
        · rename_i hc
          exact hc ▸ keeps_escape rfl (by decide)
        · split
          · rename_i hcontrol
            exact keeps_hex (by decide) 4 hcontrol
          · rename_i hcontrol
            exact keeps_self (List.forall_mem_singleton.mpr (.inr (by simpa using hcontrol)))

theorem keeps_escapeInValue (c : Char) : Keeps [c] (Quoted.escapeInValue c) := by
  have hcode : ∀ {n : Nat}, c.toNat = n → c = Char.ofNat n := by
    rintro n rfl
    exact (Char.ofNat_toNat c).symm
  unfold Quoted.escapeInValue
  split
  case h_16 =>
    split
    · rename_i hcontrol
      exact keeps_hex (by decide) 2 hcontrol
    · rename_i hcontrol
      exact keeps_self (List.forall_mem_singleton.mpr (.inr (by simpa using hcontrol)))
  all_goals
    rename_i h
    rw [hcode h]
    exact keeps_escape rfl (by decide)

theorem keeps_quoted {escape : Char → List Char} (h : ∀ c, Keeps [c] (escape c)) (s : List Char) :
    Keeps s ('"' :: s.flatMap escape ++ ['"']) := by
  have hinner := Keeps.flatMap fun c (_ : c ∈ s) => h c
  rw [List.flatMap_singleton'] at hinner
  have hquote : Keeps [] ['"'] := keeps_ascii (by decide)
  simpa using (hquote.append hinner).append hquote

/-! ## Keys and values -/

theorem isClean_of_isKey (h : Plain.isKey s = true) : ∀ c ∈ s, IsClean c := by
  simp only [Plain.isKey, Bool.and_eq_true, Bool.not_eq_true', List.any_eq_false, Bool.or_eq_true,
    decide_eq_true_eq, not_or, Bool.not_eq_true] at h
  exact fun c hc => .inr (h.2 c hc).2

theorem isClean_of_isValue (h : Plain.isValue s = true) : ∀ c ∈ s, IsClean c := by
  simp only [Plain.isValue, Bool.and_eq_true, Bool.not_eq_true', List.any_eq_false, Bool.or_eq_true,
    not_or, Bool.not_eq_true] at h
  exact fun c hc => .inr (h.1.2 c hc).2

theorem isClean_of_joined (h : Plain.isValue (joined s) = true) : ∀ c ∈ s, IsClean c := by
  intro c hc
  by_cases hbreak : c = '\n'
  · exact .inl hbreak
  · exact isClean_of_isValue h c (mem_joined hc hbreak)

theorem keeps_writeKey (s : String) : Keeps s.toList (writeKey s).toList := by
  rw [writeKey, String.toList_ofList]
  split
  · rename_i hkey
    exact keeps_self (isClean_of_isKey hkey)
  · exact keeps_quoted keeps_escapeInKey _

theorem ne_of_isAscii (h : IsAscii c) {d : Char} (hd : isNoncharacter d = true) : d ≠ c := by
  rintro rfl
  rw [h.isNoncharacter] at hd
  cases hd

theorem of_mem_blockText {mark : List Char} {lines : List (List Char)}
    (h : c ∈ blockText n mark lines) :
    c ∈ mark ∨ c = '\n' ∨ c = ' ' ∨ ∃ line ∈ lines, c ∈ line := by
  rw [blockText, List.mem_append, List.mem_flatMap] at h
  rcases h with h | ⟨line, hline, h⟩
  · exact .inl h
  · rw [List.cons_append, List.mem_cons, List.mem_append] at h
    rcases h with rfl | h | h
    · exact .inr (.inl rfl)
    · exact .inr (.inr (.inl (List.eq_of_mem_replicate h)))
    · exact .inr (.inr (.inr ⟨line, hline, h⟩))

theorem mem_blockText_of_mem_line {mark line : List Char} {lines : List (List Char)}
    (hline : line ∈ lines) (h : c ∈ line) : c ∈ blockText n mark lines :=
  List.mem_append_right mark (List.mem_flatMap.mpr ⟨line, hline, List.mem_append_right _ h⟩)

theorem keeps_blockText {mark first : List Char} {lines : List (List Char)} {between : Char}
    (hs : ∀ c ∈ s, IsClean c) (hjoin : first ++ lines.flatMap (between :: ·) ++ t = s)
    (hbetween : IsAscii between) (ht : AllAscii t) (hmark : AllAscii mark) :
    Keeps s (blockText n mark (first :: lines)) := by
  have hlines : ∀ line ∈ first :: lines, ∀ c ∈ line, c ∈ s := by
    intro line hline c hc
    rw [← hjoin]
    exact List.mem_append_left t (mem_join_of_mem_line hline hc)
  constructor
  · intro c hc
    rcases of_mem_blockText hc with hc | rfl | rfl | ⟨line, hline, hc⟩
    · exact (hmark c hc).isClean
    · exact .inl rfl
    · exact .inr rfl
    · exact hs c (hlines line hline c hc)
  · intro c hc
    constructor
    · intro hmem
      rcases of_mem_blockText hmem with hmem | rfl | rfl | ⟨line, hline, hmem⟩
      · exact absurd rfl (ne_of_isAscii (hmark c hmem) hc)
      · cases hc
      · cases hc
      · exact hlines line hline c hmem
    · intro hmem
      rw [← hjoin, List.mem_append, List.mem_append, List.mem_flatMap] at hmem
      rcases hmem with (hmem | ⟨line, hline, hmem⟩) | hmem
      · exact mem_blockText_of_mem_line List.mem_cons_self hmem
      · exact mem_blockText_of_mem_line (List.mem_cons_of_mem first hline)
          ((List.mem_cons.mp hmem).resolve_left (ne_of_isAscii hbetween hc))
      · exact absurd rfl (ne_of_isAscii (ht c hmem) hc)

theorem startsWord_of_isValue (h : Plain.isValue s = true) : StartsWord s := by
  simp only [Plain.isValue, Bool.and_eq_true] at h
  obtain ⟨⟨⟨⟨⟨⟨⟨hbegins, -⟩, -⟩, -⟩, -⟩, -⟩, -⟩, -⟩ := h
  cases s with
  | nil => cases hbegins
  | cons c rest =>
    refine ⟨c, rest, rfl, ?_⟩
    rintro rfl
    cases hbegins

theorem keeps_folded (h : Plain.isValue s = true) :
    Keeps s (blockText n ['>', '-'] (foldLines s)) := by
  obtain ⟨-, first, rest, hlines, hjoin⟩ := foldLines_spec (startsWord_of_isValue h)
  rw [← List.append_nil (first ++ _)] at hjoin
  rw [hlines]
  exact keeps_blockText (isClean_of_isValue h) hjoin (by decide) nofun (by decide)

theorem exists_withoutFinalBreak (s : List Char) :
    ∃ t, withoutFinalBreak s ++ t = s ∧ ∀ c ∈ t, c = '\n' := by
  rw [withoutFinalBreak]
  split
  · rename_i hlast
    exact ⟨['\n'], List.dropLast_append_getLast? _ hlast, by simp⟩
  · exact ⟨[], List.append_nil s, by simp⟩

theorem keeps_literal (h : Plain.isValue (joined s) = true) :
    Keeps s (blockText n (literalMark s) (literalLines s)) := by
  obtain ⟨mark, -, hmark, -⟩ := literal_spec s
  obtain ⟨first, rest, hlines, hjoin⟩ := splitBy_newline (withoutFinalBreak s)
  obtain ⟨t, hend, ht⟩ := exists_withoutFinalBreak s
  have hascii : AllAscii (literalMark s) := by
    rw [literalMark]
    split <;> decide
  rw [← hjoin] at hend
  rw [literalLines, hlines]
  exact keeps_blockText (isClean_of_joined h) hend (by decide) (fun c hc => .inl (ht c hc)) hascii

theorem keeps_writeValue (n : Nat) (s : String) : Keeps s.toList (writeValue n s).toList := by
  rw [writeValue, String.toList_ofList]
  generalize s.toList = s
  cases hstyle : Style.ofValue s with
  | plain => exact keeps_self (isClean_of_isValue (Style.isValue_of_ofValue (.inl hstyle)))
  | singleQuoted =>
    have hs := Style.mem_of_singleQuoted hstyle
    rw [List.mem_cons, List.mem_cons, List.mem_singleton] at hs
    rcases hs with rfl | rfl | rfl <;> exact keeps_escape rfl (by dsimp only; decide)
  | doubleQuoted => exact keeps_quoted keeps_escapeInValue _
  | folded => exact keeps_folded (Style.isValue_of_ofValue (.inr hstyle))
  | literal => exact keeps_literal (Style.isValue_joined hstyle)

end RowQuery.Yaml

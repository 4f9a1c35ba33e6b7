import RowQuery.Proofs.Text.Split
import RowQuery.Proofs.Yaml.Collections

/-!
# Written keys and values

Where a text is written plain, all of it is read but the spaces at its end. In quotes and in a block
it comes back as it is. Only line feeds may be in it as line ends: the writer takes the separators
U+2028 and U+2029 for letters, and escapes them in values alone.
-/
namespace RowQuery.Yaml

def Unbroken (s : List Char) : Prop := ∀ c ∈ s, isBreak c = false ∨ c = '\n'

instance (s : List Char) : Decidable (Unbroken s) := List.decidableBAll _ s

def keyToken (s : List Char) : Token :=
  if Plain.isKey s then .scalar true (String.ofList (Plain.kept s))
  else .scalar false (String.ofList s)

def valueToken (s : List Char) : Token :=
  if Style.ofValue s = .plain then .scalar true (String.ofList (Plain.kept s))
  else .scalar false (String.ofList s)

variable {s : List Char} {c : Char} {least n : Nat}

namespace Plain

theorem isBreak_of_not_isControl (h : isBreak c = false ∨ c = '\n')
    (hcontrol : isControl c = false) : isBreak c = false := by
  refine h.resolve_right ?_
  rintro rfl
  cases hcontrol

theorem isSpace_of_plain (h : isBreak c = false ∨ c = '\n') (hspace : isSpace c = false) :
    Yaml.isSpace c = false := by
  have hother : ∀ d ∈ [' ', '\t', '\n'], c ≠ d := by
    rintro d hd rfl
    simp only [List.mem_cons, List.not_mem_nil, or_false] at hd
    rcases hd with rfl | rfl | rfl <;> cases hspace
  simp [Yaml.isSpace, isBlank, h.resolve_right (hother '\n' (by simp)), hother]

theorem exists_head (h : begins s = true) (hcomma : ',' ∉ s) (hs : Unbroken s) :
    ∃ c rest, s = c :: rest ∧ Yaml.isSpace c = false ∧ c ∉ indicators := by
  cases s with
  | nil => cases h
  | cons c rest =>
    obtain ⟨hspace, hleading⟩ : isSpace c = false ∧ isLeadingIndicator c = false := by
      simpa [begins] using h
    have hknown : indicators.all (fun d => d = ',' || isLeadingIndicator d) = true := rfl
    refine ⟨c, rest, rfl, isSpace_of_plain (hs c List.mem_cons_self) hspace, fun hmem => ?_⟩
    have hc := List.all_eq_true.mp hknown c hmem
    rw [hleading, Bool.or_false, decide_eq_true_eq] at hc
    exact hcomma (hc ▸ List.mem_cons_self)

/-- What begins with no space and no indicator, and is one line, is read as a plain scalar. -/
structure IsScalar (s : List Char) : Prop where
  line : IsLine s
  head : ∃ c rest, s = c :: rest ∧ Yaml.isSpace c = false ∧ c ∉ indicators

theorem isScalar_of_isKey (h : isKey s = true) (hs : Unbroken s) : IsScalar s := by
  simp only [isKey, Bool.and_eq_true, Bool.not_eq_true', List.any_eq_false, Bool.or_eq_true,
    decide_eq_true_eq, not_or, Bool.not_eq_true] at h
  obtain ⟨⟨⟨⟨⟨hbegins, -⟩, -⟩, -⟩, -⟩, hchars⟩ := h
  refine ⟨⟨fun c hc => ?_, fun before after heq => ?_⟩, ?_⟩
  · obtain ⟨⟨⟨-, hcomment⟩, -⟩, hcontrol⟩ := hchars c hc
    refine ⟨isBreak_of_not_isControl (hs c hc) hcontrol, ?_, hcomment⟩
    rintro rfl
    cases hcontrol
  · exact absurd rfl (hchars ':' (by simp [heq])).1.1.1
  · exact exists_head hbegins (fun hc => (hchars ',' hc).1.2 rfl) hs

theorem endsWord_of_hasKeyColon {before after : List Char}
    (h : hasKeyColon (before ++ ':' :: after) = false) (hs : Unbroken after) :
    endsWord after = false := by
  induction before with
  | nil =>
    cases after with
    | nil => cases h
    | cons d after =>
      have hspace : isSpace d = false := (Bool.or_eq_false_iff.mp h).1
      exact isSpace_of_plain (hs d List.mem_cons_self) hspace
  | cons c before ih =>
    refine ih ?_
    cases before <;> exact (Bool.or_eq_false_iff.mp h).2

theorem isScalar_of_isValue (h : isValue s = true) (hs : Unbroken s) : IsScalar s := by
  simp only [isValue, Bool.and_eq_true, Bool.not_eq_true', List.any_eq_false, Bool.or_eq_true,
    not_or, Bool.not_eq_true] at h
  obtain ⟨⟨⟨⟨⟨⟨⟨hbegins, -⟩, -⟩, -⟩, -⟩, -⟩, hchars⟩, hcolon⟩ := h
  refine ⟨⟨fun c hc => ?_, fun before after heq => ?_⟩, ?_⟩
  · obtain ⟨hmark, hcontrol⟩ := hchars c hc
    refine ⟨isBreak_of_not_isControl (hs c hc) hcontrol, ?_, ?_⟩
    · rintro rfl
      cases hcontrol
    · rintro rfl
      cases hmark
  · rw [heq] at hcolon
    exact endsWord_of_hasKeyColon hcolon fun d hd => hs d (by simp [heq, hd])
  · exact exists_head hbegins (fun hc => by cases (hchars ',' hc).1) hs

end Plain

theorem Style.isValue_of_ofValue (h : ofValue s = .plain ∨ ofValue s = .folded) :
    Plain.isValue s = true := by
  rw [← Bool.not_eq_false]
  intro hvalue
  revert h
  rw [ofValue, hvalue]
  split
  · simp
  · split
    · split <;> simp
    · simp

theorem Style.isValue_joined (h : ofValue s = .literal) : Plain.isValue (joined s) = true := by
  rw [← Bool.not_eq_false]
  intro hvalue
  revert h
  rw [ofValue, hvalue]
  split
  · simp
  · split
    · simp
    · split
      · simp
      · split <;> simp

theorem Style.mem_of_singleQuoted (h : ofValue s = .singleQuoted) : s ∈ [['-'], ['#'], ['.']] := by
  by_cases hs : [['-'], ['#'], ['.']].contains s = true
  · exact List.contains_iff_mem.mp hs
  · revert h
    rw [ofValue, if_neg hs]
    split
    · split <;> simp
    · split
      · simp
      · split <;> simp

theorem Style.exists_of_singleQuoted (h : ofValue s = .singleQuoted) :
    ∃ c, s = [c] ∧ isSpace c = false ∧ c ≠ '\'' := by
  have hs := mem_of_singleQuoted h
  rw [List.mem_cons, List.mem_cons, List.mem_singleton] at hs
  rcases hs with rfl | rfl | rfl <;> exact ⟨_, rfl, rfl, by decide⟩

/-! ## Lines of a block -/

theorem withoutFinalBreaks_append (s : List Char) :
    ∃ t, s = withoutFinalBreaks s ++ t ∧ ∀ c ∈ t, c = '\n' := by
  refine ⟨s.rtakeWhile (· == '\n'), List.rdropWhile_append_rtakeWhile.symm, fun c hc => ?_⟩
  simpa using List.mem_rtakeWhile_imp hc

theorem mem_joined (hc : c ∈ s) (hbreak : c ≠ '\n') : c ∈ joined s := by
  obtain ⟨t, heq, ht⟩ := withoutFinalBreaks_append s
  rw [heq] at hc
  have hmem := (List.mem_append.mp hc).resolve_right fun h => hbreak (ht c h)
  exact List.mem_map.mpr ⟨c, hmem, if_neg hbreak⟩

theorem unbroken_joined (hs : Unbroken s) : Unbroken (joined s) := by
  intro c hc
  obtain ⟨t, heq, -⟩ := withoutFinalBreaks_append s
  obtain ⟨d, hd, rfl⟩ := List.mem_map.mp hc
  have hd : d ∈ s := heq ▸ List.mem_append_left t hd
  split
  · exact .inl rfl
  · exact hs d hd

theorem exists_head_of_joined (h : Plain.IsScalar (joined s)) :
    ∃ c rest, s = c :: rest ∧ isSpace c = false := by
  obtain ⟨t, heq, -⟩ := withoutFinalBreaks_append s
  obtain ⟨c, rest, hjoined, hspace, -⟩ := h.head
  cases hkept : withoutFinalBreaks s with
  | nil =>
    rw [joined, hkept] at hjoined
    cases hjoined
  | cons d kept =>
    rw [joined, hkept, List.map_cons] at hjoined
    have hd := (List.cons.inj hjoined).1
    rw [hkept] at heq
    by_cases hbreak : d = '\n'
    · rw [if_pos hbreak] at hd
      rw [← hd] at hspace
      cases hspace
    · rw [if_neg hbreak] at hd
      exact ⟨d, kept ++ t, heq, hd ▸ hspace⟩

theorem isBlockLine_of_mem_literalLines {line : List Char} (h : Plain.IsScalar (joined s))
    (hs : Unbroken s) (hline : line ∈ literalLines s) : IsBlockLine line := by
  intro c hc
  obtain ⟨hmem, hbreak⟩ := Text.mem_of_mem_splitBy hline hc
  have hbreak : c ≠ '\n' := by simpa using hbreak
  have hmem : c ∈ s := by
    rw [withoutFinalBreak] at hmem
    split at hmem
    · exact (List.dropLast_sublist s).mem hmem
    · exact hmem
  exact ⟨(hs c hmem).resolve_right hbreak, (h.line.chars c (mem_joined hmem hbreak)).2.1⟩

namespace Lexer

theorem names_writeKey {c : Nat} (hc : 0 < c) {s : String} (hs : Unbroken s.toList) :
    Names c (writeKey s).toList (keyToken s.toList) := by
  rw [writeKey, keyToken, String.toList_ofList]
  split
  · rename_i hkey
    obtain ⟨hline, d, rest, heq, hspace, hd⟩ := Plain.isScalar_of_isKey hkey hs
    rw [heq] at hline ⊢
    exact names_plain hline hspace hd fun h => absurd h (Nat.ne_of_gt hc)
  · exact names_quoted hc hs

theorem behind_folded (h : Plain.IsScalar s) (hn : least ≤ n) :
    Behind least (' ' :: blockText n ['>', '-'] (foldLines s) ++ ['\n'])
      [.scalar false (String.ofList s)] := by
  obtain ⟨c, rest, heq, hspace, -⟩ := h.head
  have hword : StartsWord s := by
    refine ⟨c, rest, heq, ?_⟩
    rintro rfl
    cases hspace
  obtain ⟨hwords, first, lines, hfold, hjoin⟩ := foldLines_spec hword
  rw [hfold] at hwords ⊢
  have hlines : ∀ line ∈ first :: lines, IsBlockLine line := by
    intro line hline d hd
    have hmem : d ∈ s := hjoin ▸ mem_join_of_mem_line hline hd
    exact ⟨(h.line.chars d hmem).1, (h.line.chars d hmem).2.1⟩
  have hne : ∀ line ∈ first :: lines, line ≠ [] := by
    rintro line hline rfl
    obtain ⟨d, more, hnil, -⟩ := hwords [] hline
    cases hnil
  have hstops : ∀ line ∈ first :: lines, Stops line := by
    intro line hline
    obtain ⟨d, more, rfl, hd⟩ := hwords line hline
    obtain ⟨hbreak, htab⟩ := hlines (d :: more) hline d List.mem_cons_self
    exact stops_cons.mpr (by simp [isSpace, isBlank, hd, htab, hbreak])
  have hblank : ∀ line ∈ lines, line.head?.any isBlank = false := by
    intro line hline
    have hstop := hstops line (List.mem_cons_of_mem first hline)
    cases line with
    | nil => rfl
    | cons d more => exact (Bool.or_eq_false_iff.mp (stops_cons.mp hstop)).1
  have hheader : header? ('>' = '>') ['-'] = some ⟨true, .strip, none⟩ := rfl
  have hread := behind_blockText (.inr rfl) (List.forall_mem_singleton.mpr rfl) hheader rfl
    (hstops first List.mem_cons_self) (hne first List.mem_cons_self) hlines (fun _ => hblank) hn
  rwa [joined_folded fun line hline => hne line (List.mem_cons_of_mem first hline), hjoin] at hread

theorem behind_literal (h : Plain.IsScalar (joined s)) (hs : Unbroken s) (hn : least ≤ n) :
    Behind least (' ' :: blockText n (literalMark s) (literalLines s) ++ ['\n'])
      [.scalar false (String.ofList s)] := by
  obtain ⟨c, rest, heq, hspace⟩ := exists_head_of_joined h
  have hbreak : c ≠ '\n' := by
    rintro rfl
    cases hspace
  obtain ⟨mark, header, hmark, honeLine, hheader, hnone, hfolded, line, lines, hlines, hjoin⟩ :=
    literal_spec s
  obtain ⟨first, more, hfirst⟩ := literalLines_cons hbreak rest
  rw [← heq, hlines] at hfirst
  obtain ⟨rfl, rfl⟩ := List.cons.inj hfirst
  have hread := behind_blockText (.inl rfl) honeLine hheader hnone (stops_cons.mpr hspace)
    (List.cons_ne_nil c first)
    (fun line hline => isBlockLine_of_mem_literalLines h hs (hlines ▸ hline))
    (fun hf => by rw [hfolded] at hf; cases hf) hn
  rwa [hjoin, ← hmark, ← hlines] at hread

theorem behind_writeValue {s : String}
    (hs : Style.ofValue s.toList ≠ .doubleQuoted → Unbroken s.toList) (hn : least ≤ n) :
    Behind least (' ' :: (writeValue n s).toList ++ ['\n']) [valueToken s.toList] := by
  rw [writeValue, valueToken, String.toList_ofList]
  cases hstyle : Style.ofValue s.toList with
  | plain =>
    obtain ⟨hline, c, rest, heq, hspace, hc⟩ := Plain.isScalar_of_isValue
      (Style.isValue_of_ofValue (.inl hstyle)) (hs (by simp [hstyle]))
    rw [heq] at hline
    simpa [heq] using behind_plain hline hspace hc
  | singleQuoted =>
    obtain ⟨c, heq, hspace, hquote⟩ := Style.exists_of_singleQuoted hstyle
    rw [heq]
    exact behind_singleQuoted hspace hquote
  | doubleQuoted => exact behind_doubleQuoted _
  | folded =>
    exact behind_folded (Plain.isScalar_of_isValue
      (Style.isValue_of_ofValue (.inr hstyle)) (hs (by simp [hstyle]))) hn
  | literal =>
    have hs := hs (by simp [hstyle])
    exact behind_literal
      (Plain.isScalar_of_isValue (Style.isValue_joined hstyle) (unbroken_joined hs)) hs hn

end Lexer

end RowQuery.Yaml

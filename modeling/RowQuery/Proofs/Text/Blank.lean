import Mathlib.Data.List.DropRight
import Mathlib.Data.List.Induction
import RowQuery.Proofs.Text.Split
import RowQuery.Text.Blank

/-!
# Trimmed texts and words

Trimming takes the blanks off both ends of a text and leaves the rest alone. The words of a text are
the runs of other characters: everything about them follows from cutting at one blank. Both are said
without the functions, too. A letter in lower case is a blank exactly if the letter is one.
-/
namespace RowQuery.Text

variable {s : List Char}

theorem rdropWhile_append {p : Char → Bool} {s : List Char} {last : Char}
    (hlast : s.getLast? = some last) (hkept : p last = false) (rest : List Char) :
    (s ++ rest).rdropWhile p = s ++ rest.rdropWhile p := by
  induction rest using List.reverseRecOn with
  | nil =>
    have hself : s.rdropWhile p = s := by
      rw [List.rdropWhile_eq_self_iff]
      intro hne
      rw [List.getLast?_eq_some_getLast hne, Option.some.injEq] at hlast
      simp [hlast, hkept]
    rw [List.append_nil, hself, List.rdropWhile_nil, List.append_nil]
  | append_singleton rest c ih =>
    rw [← List.append_assoc, List.rdropWhile_concat, List.rdropWhile_concat]
    split
    · exact ih
    · rw [List.append_assoc]

def Trimmed (s : List Char) : Prop :=
  (∀ c ∈ s.head?, isBlank c = false) ∧ ∀ c ∈ s.getLast?, isBlank c = false

instance (s : List Char) : Decidable (Trimmed s) :=
  decidable_of_iff (s.head?.all (!isBlank ·) ∧ s.getLast?.all (!isBlank ·))
    (by simp [Trimmed, Option.all_eq_true])

def Strips (s t : List Char) : Prop :=
  ∃ front back, s = front ++ t ++ back ∧ (∀ c ∈ front, isBlank c = true) ∧
    (∀ c ∈ back, isBlank c = true) ∧ Trimmed t

theorem trim_eq_rdropWhile (s : List Char) :
    trim s = (s.dropWhile isBlank).rdropWhile isBlank := rfl

theorem trim_sublist (s : List Char) : (trim s).Sublist s := by
  have hstart := List.rdropWhile_prefix isBlank (s.dropWhile isBlank)
  exact hstart.sublist.trans (List.dropWhile_suffix isBlank).sublist

theorem mem_of_mem_trim {c : Char} (h : c ∈ trim s) : c ∈ s :=
  (trim_sublist s).subset h

theorem trimmed_trim (s : List Char) : Trimmed (trim s) := by
  rw [trim_eq_rdropWhile]
  constructor
  · intro c hc
    obtain ⟨rest, hrest⟩ := List.rdropWhile_prefix isBlank (s.dropWhile isBlank)
    have hhead : (s.dropWhile isBlank).head? = some c := by
      rw [← hrest, List.head?_append, Option.mem_def.mp hc, Option.some_or]
    have h := List.head?_dropWhile_not isBlank s
    rwa [hhead] at h
  · intro c hc
    obtain ⟨hne, rfl⟩ := List.mem_getLast?_eq_getLast hc
    simpa using List.rdropWhile_last_not isBlank _ hne

theorem trim_of_trimmed (h : Trimmed s) : trim s = s := by
  obtain ⟨hhead, hlast⟩ := h
  have hdrop : s.dropWhile isBlank = s := by
    cases s with
    | nil => rfl
    | cons c rest => exact List.dropWhile_cons_of_neg (by simp [hhead c rfl])
  rw [trim_eq_rdropWhile, hdrop, List.rdropWhile_eq_self_iff]
  intro hne
  simp [hlast _ (List.getLast?_eq_some_getLast hne)]

theorem mem_of_mem_words {word : List Char} (h : word ∈ words s) {c : Char}
    (hc : c ∈ word) : c ∈ s ∧ isBlank c = false :=
  mem_of_mem_splitBy (List.mem_of_mem_filter h) hc

theorem sublist_of_mem_words {word : List Char} (h : word ∈ words s) : word.Sublist s :=
  (List.sublist_flatten_of_mem (List.mem_of_mem_filter h)).trans (flatten_splitBy_sublist isBlank s)

theorem ne_nil_of_mem_words {word : List Char} (h : word ∈ words s) : word ≠ [] := by
  simpa using List.of_mem_filter h

theorem strips_iff {t : List Char} : Strips s t ↔ trim s = t := by
  constructor
  · rintro ⟨front, back, rfl, hfront, hback, htrimmed⟩
    rw [trim_eq_rdropWhile, List.append_assoc, List.dropWhile_append_of_pos hfront]
    cases t with
    | nil =>
      rw [List.nil_append, List.dropWhile_eq_nil_iff.mpr hback, List.rdropWhile_nil]
    | cons c t =>
      have hhead : isBlank c = false := htrimmed.1 c rfl
      have hlast := htrimmed.2 _ (List.getLast?_eq_some_getLast (List.cons_ne_nil c t))
      rw [List.cons_append, List.dropWhile_cons_of_neg (by simp [hhead]), ← List.cons_append,
        rdropWhile_append (List.getLast?_eq_some_getLast (List.cons_ne_nil c t)) hlast,
        List.rdropWhile_eq_nil_iff.mpr hback, List.append_nil]
  · rintro rfl
    refine ⟨s.takeWhile isBlank, (s.dropWhile isBlank).rtakeWhile isBlank, ?_,
      fun c hc => List.mem_takeWhile_imp hc, fun c hc => List.mem_rtakeWhile_imp hc, trimmed_trim s⟩
    rw [trim_eq_rdropWhile, List.append_assoc, List.rdropWhile_append_rtakeWhile,
      List.takeWhile_append_dropWhile]

theorem trim_append {blanks : List Char} (h : ∀ c ∈ blanks, isBlank c = true) (s : List Char) :
    trim (blanks ++ s) = trim s := by
  rw [trim_eq_rdropWhile, List.dropWhile_append_of_pos h, trim_eq_rdropWhile]

/-! ## Words -/

theorem words_append_cons {c : Char} (hc : isBlank c = true) (s rest : List Char) :
    words (s ++ c :: rest) = words s ++ words rest := by
  rw [words, splitBy_append_separator hc, List.filter_append]
  rfl

theorem words_cons {c : Char} (hc : isBlank c = true) (s : List Char) : words (c :: s) = words s :=
  words_append_cons hc [] s

theorem words_append {blanks : List Char} (h : ∀ c ∈ blanks, isBlank c = true) (s : List Char) :
    words (blanks ++ s) = words s := by
  induction blanks with
  | nil => rfl
  | cons c blanks ih =>
    rw [List.cons_append, words_cons (h c List.mem_cons_self),
      ih fun d hd => h d (List.mem_cons_of_mem c hd)]

theorem words_of_forall {word : List Char} (h : ∀ c ∈ word, isBlank c = false) (hne : word ≠ []) :
    words word = [word] := by
  rw [words, splitBy_of_forall h]
  simp [hne]

theorem words_pair {first second : List Char} (hfirst : ∀ c ∈ first, isBlank c = false)
    (hsecond : ∀ c ∈ second, isBlank c = false) (hne : first ≠ []) (hne' : second ≠ []) :
    words (first ++ ' ' :: second) = [first, second] := by
  rw [words_append_cons (by decide), words_of_forall hfirst hne, words_of_forall hsecond hne']
  rfl

/-- A text consists of these words, with blanks between them and maybe at its ends. -/
inductive HasWords : List Char → List (List Char) → Prop
  | blank {s : List Char} (h : ∀ c ∈ s, isBlank c = true) : HasWords s []
  | word {blanks word rest : List Char} {later : List (List Char)}
      (hblanks : ∀ c ∈ blanks, isBlank c = true) (hword : ∀ c ∈ word, isBlank c = false)
      (hne : word ≠ []) (hends : ∀ c ∈ rest.head?, isBlank c = true) (hlater : HasWords rest later) :
      HasWords (blanks ++ word ++ rest) (word :: later)

theorem HasWords.words_eq {found : List (List Char)} (h : HasWords s found) : words s = found := by
  induction h with
  | @blank s h =>
    have hs := words_append h []
    rwa [List.append_nil] at hs
  | @word blanks word rest later hblanks hword hne hends _ ih =>
    rw [List.append_assoc, words_append hblanks]
    cases rest with
    | nil =>
      rw [← ih, List.append_nil, words_of_forall hword hne]
      rfl
    | cons c rest =>
      have hc : isBlank c = true := hends c rfl
      rw [words_append_cons hc, words_of_forall hword hne, ← ih, words_cons hc,
        List.singleton_append]

theorem exists_hasWords (s : List Char) : ∃ found, HasWords s found := by
  -- Each word is cut off with the blanks in front of it, so the induction is on the length.
  induction hn : s.length using Nat.strong_induction_on generalizing s with
  | _ n ih =>
    subst hn
    have hblanks : ∀ c ∈ s.takeWhile isBlank, isBlank c = true :=
      fun c hc => List.mem_takeWhile_imp hc
    have hs : s.takeWhile isBlank ++ s.dropWhile isBlank = s := List.takeWhile_append_dropWhile
    have hhead := List.head?_dropWhile_not isBlank s
    generalize s.takeWhile isBlank = blanks at hs hblanks
    generalize s.dropWhile isBlank = tail at hs hhead
    subst hs
    cases tail with
    | nil => exact ⟨[], .blank (by simpa using hblanks)⟩
    | cons c tail =>
      have hc : isBlank c = false := hhead
      have hsplit : tail.takeWhile (!isBlank ·) ++ tail.dropWhile (!isBlank ·) = tail :=
        List.takeWhile_append_dropWhile
      have hword : ∀ d ∈ c :: tail.takeWhile (!isBlank ·), isBlank d = false :=
        List.forall_mem_cons.mpr ⟨hc, fun d hd => by simpa using List.mem_takeWhile_imp hd⟩
      have hends : ∀ d ∈ (tail.dropWhile (!isBlank ·)).head?, isBlank d = true := by
        intro d hd
        have hstop := List.head?_dropWhile_not (!isBlank ·) tail
        rw [Option.mem_def.mp hd] at hstop
        simpa using hstop
      generalize tail.takeWhile (!isBlank ·) = word at hsplit hword
      generalize tail.dropWhile (!isBlank ·) = rest at hsplit hends
      subst hsplit
      obtain ⟨later, hlater⟩ := ih rest.length (by simp; omega) rest rfl
      refine ⟨(c :: word) :: later, ?_⟩
      have hfound := HasWords.word hblanks hword (List.cons_ne_nil c word) hends hlater
      rwa [List.append_assoc, List.cons_append] at hfound

theorem hasWords_iff {found : List (List Char)} : HasWords s found ↔ words s = found := by
  constructor
  · exact HasWords.words_eq
  · rintro rfl
    obtain ⟨found, h⟩ := exists_hasWords s
    rwa [h.words_eq]

/-! ## Lower case -/

theorem toNat_toLower (c : Char) :
    c.toLower.toNat = if 0x41 ≤ c.toNat ∧ c.toNat ≤ 0x5a then c.toNat + 0x20 else c.toNat := by
  have hrange : (c.val ≥ 'A'.val ∧ c.val ≤ 'Z'.val) ↔ 0x41 ≤ c.toNat ∧ c.toNat ≤ 0x5a := by
    simp only [ge_iff_le, UInt32.le_iff_toNat_le]
    exact Iff.rfl
  unfold Char.toLower
  split
  · rename_i h
    have h' := hrange.mp h
    rw [if_pos h']
    have hsum : (c.val + ('a'.val - 'A'.val)).toNat = c.val.toNat + 0x20 := by
      rw [UInt32.toNat_add]
      have : c.val.toNat ≤ 0x5a := h'.2
      have hdiff : ('a'.val - 'A'.val).toNat = 0x20 := by decide
      omega
    exact hsum
  · rename_i h
    rw [if_neg fun h' => h (hrange.mpr h')]

theorem isBlank_toLower (c : Char) : isBlank c.toLower = isBlank c := by
  rw [Bool.eq_iff_iff]
  simp only [isBlank, toNat_toLower, Bool.or_eq_true, Bool.and_eq_true, decide_eq_true_eq,
    beq_iff_eq]
  split <;> omega

theorem toLower_eq_iff {mark : Char} (hmark : mark.toNat < 0x41 ∨ 0x7a < mark.toNat ∨
    (0x5a < mark.toNat ∧ mark.toNat < 0x61)) (c : Char) : c.toLower = mark ↔ c = mark := by
  rw [← Char.toNat_inj, ← Char.toNat_inj, toNat_toLower]
  split <;> omega

theorem toLower_eq_iff_of_letter {small capital : Char} (hsmall : small.toNat = capital.toNat + 0x20)
    (hcapital : 0x41 ≤ capital.toNat ∧ capital.toNat ≤ 0x5a) (c : Char) :
    c.toLower = small ↔ c = small ∨ c = capital := by
  rw [← Char.toNat_inj, ← Char.toNat_inj, ← Char.toNat_inj, toNat_toLower]
  split <;> omega

end RowQuery.Text

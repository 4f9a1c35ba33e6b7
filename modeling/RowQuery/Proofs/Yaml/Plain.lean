import Mathlib.Data.List.DropRight
import RowQuery.Proofs.Yaml.Cursor
import RowQuery.Yaml.Plain

/-!
# Plain scalars read back

In block context a plain scalar of one line is read up to the blanks at its end.
-/
namespace RowQuery.Yaml

/-- A line that a plain scalar goes through: no line end, tab or comment mark is in it, and no colon
before a space or at its end. -/
structure Plain.IsLine (s : List Char) : Prop where
  chars : ∀ c ∈ s, isBreak c = false ∧ c ≠ '\t' ∧ c ≠ '#'
  colons : ∀ before after, s = before ++ ':' :: after → endsWord after = false

variable {least fuel : Nat} {p : Place} {rest s tail : List Char} {c : Char}

theorem Plain.IsLine.of_append (h : IsLine (s ++ tail)) : IsLine tail where
  chars c hc := h.chars c (List.mem_append_right s hc)
  colons before after heq := h.colons (s ++ before) after (by rw [heq, List.append_assoc])

theorem Plain.IsLine.endsWord_append (h : IsLine (s ++ ':' :: rest)) (tail : List Char) :
    endsWord (rest ++ tail) = false := by
  have hends := h.colons s rest rfl
  cases rest with
  | nil => cases hends
  | cons d rest => exact hends

theorem getLast?_ne_of_append {α : Type} {a : α} (before : List α) {after : List α}
    (h : (before ++ after).getLast? ≠ some a) : after.getLast? ≠ some a := by
  intro hlast
  apply h
  rw [List.getLast?_append, hlast, Option.some_or]

theorem prepend_some (cs more : List Char) (here : Cursor) :
    prepend cs (some (more, here)) = some (cs ++ more, here) := rfl

theorem tabIntrudes_of_forall {least : Nat} {leading : Bool} (h : ∀ c ∈ s, c ≠ '\t') (p : Place) :
    tabIntrudes least p leading s = false := by
  induction s generalizing p leading with
  | nil => rfl
  | cons c s ih =>
    rw [List.forall_mem_cons] at h
    simp [tabIntrudes, h.1, ih h.2]

theorem plainTail_word (n : Nat) (hspace : isSpace c = false) (hcomment : c ≠ '#')
    (hcolon : c = ':' → endsWord rest = false)
    (hmarker : (⟨p.after (spaces n), c :: rest⟩ : Cursor).atMarker = false) :
    plainTail false least (fuel + 1) ⟨p, spaces n ++ c :: rest⟩ =
      prepend (spaces n ++ [c])
        (plainTail false least fuel ⟨p.after (spaces n ++ [c]), rest⟩) := by
  have hgap : gapAt ⟨p, spaces n ++ c :: rest⟩ = spaces n :=
    gapAt_append (fun _ => isSpace_of_mem_spaces) (stops_cons.mpr hspace) p
  have hdrop := Cursor.drop_append p (spaces n) (c :: rest)
  have htabs : tabIntrudes least p false (spaces n) = false :=
    tabIntrudes_of_forall (fun c hc => by simp [mem_spaces hc]) p
  have hbreak : (spaces n).any isBreak = false :=
    List.any_eq_false.mpr fun c hc => by simp [isBreak_of_mem_spaces hc]
  have hend : (c = ':' && endsWord rest) = false := by
    by_cases h : c = ':'
    · simp [h, hcolon h]
    · simp [h]
  rw [plainTail]
  simp only [hgap, hdrop, htabs, hmarker, hbreak, hend, hcomment, fold_spaces, Bool.false_eq_true,
    if_false, decide_false, Bool.and_false, Bool.or_false, Bool.false_and, Cursor.drop_one,
    Place.after_append]
  rfl

/-- What ends a plain scalar: the end of the text, a line end before a line that does not reach the
least column, or a colon that stands alone. -/
def EndsPlain (least : Nat) (p : Place) (tail : List Char) : Prop :=
  ∀ fuel, plainTail false least (fuel + 1) ⟨p, tail⟩ = some ([], ⟨p, tail⟩)

theorem endsPlain_colon (n : Nat) (h : endsWord rest = true) (p : Place) :
    EndsPlain least p (spaces n ++ ':' :: rest) := by
  intro fuel
  have hgap : gapAt ⟨p, spaces n ++ ':' :: rest⟩ = spaces n :=
    gapAt_append (fun _ => isSpace_of_mem_spaces) (stops_cons.mpr rfl) p
  have htabs : tabIntrudes least p false (spaces n) = false :=
    tabIntrudes_of_forall (fun c hc => by simp [mem_spaces hc]) p
  rw [plainTail]
  simp [hgap, Cursor.drop_append, htabs, h]

theorem endsPlain_newline (n : Nat) {k : Nat} (hk : k < least) (hrest : Stops rest) (p : Place) :
    EndsPlain least p (spaces n ++ '\n' :: (spaces k ++ rest)) := by
  intro fuel
  have hsplit : spaces n ++ '\n' :: (spaces k ++ rest) = (spaces n ++ '\n' :: spaces k) ++ rest := by
    simp
  have hmem : ∀ c ∈ spaces n ++ '\n' :: spaces k, c = ' ' ∨ c = '\n' := by
    intro c hc
    rcases List.mem_append.mp hc with hc | hc
    · exact .inl (mem_spaces hc)
    · rcases List.mem_cons.mp hc with hc | hc
      · exact .inr hc
      · exact .inl (mem_spaces hc)
  have hgap : gapAt ⟨p, (spaces n ++ '\n' :: spaces k) ++ rest⟩ = spaces n ++ '\n' :: spaces k := by
    refine gapAt_append (fun c hc => ?_) hrest p
    rcases hmem c hc with rfl | rfl <;> rfl
  have htabs : tabIntrudes least p false (spaces n ++ '\n' :: spaces k) = false := by
    refine tabIntrudes_of_forall (fun c hc => ?_) p
    rcases hmem c hc with rfl | rfl <;> decide
  have hbreak : (spaces n ++ '\n' :: spaces k).any isBreak = true := by
    simp [isBreak]
  have hcolumn : (p.after (spaces n ++ '\n' :: spaces k)).column = k := by
    rw [Place.after_append, Place.column_after_newline fun _ => isBreak_of_mem_spaces,
      length_spaces]
  rw [hsplit, plainTail]
  simp only [hgap, Cursor.drop_append, htabs, hbreak, Cursor.column, hcolumn, hk]
  cases rest with
  | nil => rfl
  | cons c rest => simp

theorem plainTail_append (hline : Plain.IsLine s) (hlast : s.getLast? ≠ some ' ')
    (hends : EndsPlain least (p.after s) tail) (hcolumn : 0 < p.column)
    (hfuel : (s ++ tail).length < fuel) :
    plainTail false least fuel ⟨p, s ++ tail⟩ = some (s, ⟨p.after s, tail⟩) := by
  obtain ⟨fuel, rfl⟩ : ∃ n, fuel = n + 1 := ⟨fuel - 1, by omega⟩
  induction s using spaces_induction generalizing p fuel with
  | blank n =>
    cases n with
    | zero => exact hends fuel
    | succ n =>
      -- A line of spaces alone would end with one.
      refine absurd ?_ hlast
      rw [spaces, List.getLast?_replicate, if_neg (Nat.succ_ne_zero n)]
  | word n c s hc ih =>
    obtain ⟨hbreak, htab, hcomment⟩ := hline.chars c (by simp)
    have hspace : isSpace c = false := by simp [isSpace, isBlank, hc, htab, hbreak]
    have hsplit : spaces n ++ c :: s = (spaces n ++ [c]) ++ s := by simp
    have hcolon : c = ':' → endsWord (s ++ tail) = false := by
      rintro rfl
      exact hline.endsWord_append tail
    have hcolumns : ∀ d ∈ spaces n ++ [c], isBreak d = false :=
      List.forall_mem_append.mpr ⟨fun _ => isBreak_of_mem_spaces, List.forall_mem_singleton.mpr hbreak⟩
    have hmarker : (⟨p.after (spaces n), c :: (s ++ tail)⟩ : Cursor).atMarker = false :=
      Cursor.atMarker_of_pos (Place.column_pos_after (fun _ => isBreak_of_mem_spaces) hcolumn)
    have hpast := Place.column_pos_after hcolumns hcolumn
    rw [hsplit, Place.after_append] at hends
    simp only [List.length_append, List.length_cons] at hfuel
    obtain ⟨fuel, rfl⟩ : ∃ m, fuel = m + 1 := ⟨fuel - 1, by omega⟩
    rw [hsplit] at hline hlast
    have hrest := ih hline.of_append (getLast?_ne_of_append _ hlast) hends hpast fuel
      (by rw [List.length_append]; omega)
    rw [List.append_assoc, List.cons_append, plainTail_word n hspace hcomment hcolon hmarker, hrest,
      prepend_some, hsplit, Place.after_append p (spaces n ++ [c]) s]

theorem plainTail_append_of_head (hline : Plain.IsLine (c :: s)) (hspace : isSpace c = false)
    (hlast : (c :: s).getLast? ≠ some ' ') (hends : EndsPlain least (p.after (c :: s)) tail)
    (hmarker : (⟨p, c :: (s ++ tail)⟩ : Cursor).atMarker = false)
    (hfuel : (c :: s ++ tail).length < fuel) :
    plainTail false least fuel ⟨p, c :: (s ++ tail)⟩ =
      some (c :: s, ⟨p.after (c :: s), tail⟩) := by
  obtain ⟨fuel, rfl⟩ : ∃ n, fuel = n + 1 := ⟨fuel - 1, by omega⟩
  have hline' : Plain.IsLine s := hline.of_append (s := [c])
  have hcolon : c = ':' → endsWord (s ++ tail) = false := by
    rintro rfl
    exact Plain.IsLine.endsWord_append (s := []) hline tail
  have hlast' : s.getLast? ≠ some ' ' := getLast?_ne_of_append [c] hlast
  have hpast : 0 < (p.after (spaces 0 ++ [c])).column := by
    rw [spaces, List.replicate_zero, List.nil_append, Place.column_after]
    · exact Nat.succ_pos _
    · exact List.forall_mem_singleton.mpr (isBreak_of_not_isSpace hspace)
  have hrest := plainTail_append hline' hlast' hends hpast
    (show (s ++ tail).length < fuel by simpa using hfuel)
  have hword : plainTail false least (fuel + 1) ⟨p, spaces 0 ++ c :: (s ++ tail)⟩ = _ :=
    plainTail_word 0 hspace (hline.chars c List.mem_cons_self).2.2 hcolon hmarker
  rw [show (⟨p.after (spaces 0 ++ [c]), s ++ tail⟩ : Cursor) = ⟨p.past c, s ++ tail⟩ from rfl,
    hrest, prepend_some] at hword
  exact hword

/-! ## Whole scalars -/

def Plain.kept (s : List Char) : List Char := s.rdropWhile (· == ' ')

theorem Plain.exists_kept_append (s : List Char) : ∃ n, s = kept s ++ spaces n := by
  refine ⟨(s.rtakeWhile (· == ' ')).length, ?_⟩
  have hspaces : s.rtakeWhile (· == ' ') = spaces (s.rtakeWhile (· == ' ')).length := by
    refine List.eq_replicate_iff.mpr ⟨rfl, fun c hc => ?_⟩
    simpa using List.mem_rtakeWhile_imp hc
  rw [← hspaces, kept, List.rdropWhile_append_rtakeWhile]

theorem Plain.getLast?_kept (s : List Char) : (kept s).getLast? ≠ some ' ' := by
  intro h
  obtain ⟨hne, heq⟩ := List.mem_getLast?_eq_getLast h
  have hlast : ¬((kept s).getLast hne == ' ') = true := List.rdropWhile_last_not _ s hne
  rw [← heq] at hlast
  exact hlast rfl

theorem Plain.kept_of_getLast? (h : s.getLast? ≠ some ' ') : kept s = s := by
  rw [kept, List.rdropWhile_eq_self_iff]
  intro hne hspace
  rw [List.getLast?_eq_some_getLast hne, beq_iff_eq.mp hspace] at h
  exact h rfl

theorem Plain.IsLine.kept (h : IsLine s) : IsLine (kept s) := by
  obtain ⟨n, heq⟩ := exists_kept_append s
  refine ⟨fun c hc => h.chars c (heq ▸ List.mem_append_left _ hc), fun before after hsplit => ?_⟩
  have hends := h.colons before (after ++ spaces n) (by rw [heq, hsplit]; simp)
  cases after with
  | nil =>
    cases n <;> cases hends
  | cons d after => exact hends

theorem Plain.exists_kept_cons (hspace : Yaml.isSpace c = false) (s : List Char) :
    ∃ s', kept (c :: s) = c :: s' := by
  obtain ⟨n, heq⟩ := exists_kept_append (c :: s)
  cases hkept : kept (c :: s) with
  | nil =>
    rw [hkept, List.nil_append] at heq
    have hmem : c ∈ spaces n := heq ▸ List.mem_cons_self
    rw [isSpace_of_mem_spaces hmem] at hspace
    cases hspace
  | cons d s' =>
    rw [hkept, List.cons_append] at heq
    exact ⟨s', by rw [(List.cons.inj heq).1]⟩

theorem plainTail_kept (hline : Plain.IsLine (c :: s)) (hspace : isSpace c = false)
    (hends : ∀ n p, EndsPlain least p (spaces n ++ tail))
    (hmarker : (⟨p, c :: (s ++ tail)⟩ : Cursor).atMarker = false)
    (hfuel : (c :: s ++ tail).length < fuel) :
    ∃ n, c :: s = Plain.kept (c :: s) ++ spaces n ∧
      plainTail false least fuel ⟨p, c :: s ++ tail⟩ = some (Plain.kept (c :: s),
        ⟨p.after (Plain.kept (c :: s)), spaces n ++ tail⟩) := by
  obtain ⟨n, heq⟩ := Plain.exists_kept_append (c :: s)
  obtain ⟨s', hkept⟩ := Plain.exists_kept_cons hspace s
  have hline' := hline.kept
  have hlast := Plain.getLast?_kept (c :: s)
  refine ⟨n, heq, ?_⟩
  rw [hkept] at heq hline' hlast ⊢
  have hs : s = s' ++ spaces n := (List.cons.inj heq).2
  have hsplit : c :: s ++ tail = c :: (s' ++ (spaces n ++ tail)) := by simp [hs]
  have htail : s ++ tail = s' ++ (spaces n ++ tail) := by simp [hs]
  rw [hsplit] at hfuel ⊢
  rw [htail] at hmarker
  exact plainTail_append_of_head hline' hspace hlast (hends n _) hmarker hfuel

theorem plain_colon (hline : Plain.IsLine (c :: s)) (hspace : isSpace c = false)
    (hrest : endsWord rest = true)
    (hmarker : (⟨p, c :: (s ++ ':' :: rest)⟩ : Cursor).atMarker = false)
    (hfuel : (c :: s ++ ':' :: rest).length < fuel) :
    plain fuel false least ⟨p, c :: s ++ ':' :: rest⟩ =
      some ((Plain.kept (c :: s), false), ⟨p.after (c :: s), ':' :: rest⟩) := by
  obtain ⟨n, heq, hread⟩ := plainTail_kept hline hspace
    (fun n p => endsPlain_colon n hrest p) hmarker hfuel
  have hgap : ∀ p, gapAt ⟨p, spaces n ++ ':' :: rest⟩ = spaces n :=
    gapAt_append (fun _ => isSpace_of_mem_spaces) (stops_cons.mpr rfl)
  have hbreak : (spaces n).any isBreak = false :=
    List.any_eq_false.mpr fun c hc => by simp [isBreak_of_mem_spaces hc]
  rw [plain, hread]
  simp only [Option.bind_eq_bind, Option.bind_some, hgap, hbreak, Cursor.drop_append,
    ← Place.after_append]
  rw [← heq]

theorem plain_newline {k : Nat} (hline : Plain.IsLine (c :: s)) (hspace : isSpace c = false)
    (hk : k < least) (hrest : Stops rest)
    (hmarker : (⟨p, c :: (s ++ '\n' :: (spaces k ++ rest))⟩ : Cursor).atMarker = false)
    (hfuel : (c :: s ++ '\n' :: (spaces k ++ rest)).length < fuel) :
    plain fuel false least ⟨p, c :: s ++ '\n' :: (spaces k ++ rest)⟩ =
      some ((Plain.kept (c :: s), true), ⟨p.after (c :: s ++ '\n' :: spaces k), rest⟩) := by
  obtain ⟨n, heq, hread⟩ := plainTail_kept hline hspace
    (fun n p => endsPlain_newline n hk hrest p) hmarker hfuel
  have hsplit : spaces n ++ '\n' :: (spaces k ++ rest) = (spaces n ++ '\n' :: spaces k) ++ rest := by
    simp
  have hgap : ∀ p, gapAt ⟨p, (spaces n ++ '\n' :: spaces k) ++ rest⟩ =
      spaces n ++ '\n' :: spaces k := by
    refine fun p => gapAt_append (fun d hd => ?_) hrest p
    rcases List.mem_append.mp hd with hd | hd
    · exact isSpace_of_mem_spaces hd
    · rcases List.mem_cons.mp hd with rfl | hd
      · rfl
      · exact isSpace_of_mem_spaces hd
  have hbreak : (spaces n ++ '\n' :: spaces k).any isBreak = true := by simp [isBreak]
  rw [plain, hread]
  simp only [Option.bind_eq_bind, Option.bind_some, hsplit, hgap, hbreak, Cursor.drop_append,
    ← Place.after_append]
  rw [← List.append_assoc, ← heq]

end RowQuery.Yaml

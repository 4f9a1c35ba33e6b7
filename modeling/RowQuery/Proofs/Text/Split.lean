import RowQuery.Text.Split

/-!
# Pieces of a text

Cutting at separators is the inverse of joining with them: no piece has a separator, and pieces
without separators are found again. The first separator alone parts a text in two.
-/
namespace RowQuery.Text

variable {α : Type} {p : α → Bool} {s piece : List α}

theorem splitBy_eq_splitOnP (p : α → Bool) (s : List α) : splitBy p s = s.splitOnP p := by
  induction s with
  | nil => rfl
  | cons a rest ih =>
    rw [splitBy, ih, List.splitOnP_cons_eq_if_modifyHead]
    cases h : rest.splitOnP p with
    | nil => exact absurd h (List.splitOnP_ne_nil p rest)
    | cons piece pieces => rfl

theorem splitBy_of_forall (h : ∀ a ∈ s, p a = false) : splitBy p s = [s] := by
  rw [splitBy_eq_splitOnP, List.splitOnP_eq_singleton h]

theorem splitBy_append_separator {separator : α} (hsep : p separator = true) (s rest : List α) :
    splitBy p (s ++ separator :: rest) = splitBy p s ++ splitBy p rest := by
  rw [splitBy_eq_splitOnP, splitBy_eq_splitOnP, splitBy_eq_splitOnP,
    List.splitOnP_append_cons s rest hsep]

theorem splitBy_append_cons (h : ∀ a ∈ s, p a = false) {separator : α} (hsep : p separator = true)
    (rest : List α) : splitBy p (s ++ separator :: rest) = s :: splitBy p rest := by
  rw [splitBy_append_separator hsep, splitBy_of_forall h, List.singleton_append]

theorem splitBy_intercalate [BEq α] [LawfulBEq α] {separator : α} {pieces : List (List α)}
    (h : ∀ piece ∈ pieces, separator ∉ piece) (hne : pieces ≠ []) :
    splitBy (· == separator) ([separator].intercalate pieces) = pieces := by
  rw [splitBy_eq_splitOnP, ← List.splitOn_eq_splitOnP, List.splitOn_intercalate separator h hne]

theorem intercalate_splitBy [BEq α] [LawfulBEq α] (separator : α) (s : List α) :
    [separator].intercalate (splitBy (· == separator) s) = s := by
  rw [splitBy_eq_splitOnP, ← List.splitOn_eq_splitOnP, List.intercalate_splitOn]

theorem intercalate_append_cons (separator start piece : List α) (rest : List (List α)) :
    separator.intercalate ((start ++ piece) :: rest) =
      start ++ separator.intercalate (piece :: rest) := by
  cases rest with
  | nil => rw [List.intercalate_singleton, List.intercalate_singleton]
  | cons next rest => simp only [List.intercalate_cons_cons, List.append_assoc]

theorem intercalate_append (separator start piece : List α) (rest : List (List α)) :
    (separator ++ start).intercalate (piece :: rest) =
      separator.intercalate (piece :: rest.map (start ++ ·)) := by
  induction rest generalizing piece with
  | nil => rw [List.map_nil, List.intercalate_singleton, List.intercalate_singleton]
  | cons next rest ih =>
    rw [List.intercalate_cons_cons, ih, List.map_cons, List.intercalate_cons_cons,
      intercalate_append_cons]
    simp only [List.append_assoc]

theorem flatten_splitBy_sublist (p : α → Bool) (s : List α) : (splitBy p s).flatten.Sublist s := by
  induction s with
  | nil => exact List.Sublist.refl []
  | cons a rest ih =>
    rw [splitBy]
    cases h : splitBy p rest with
    | nil => exact absurd h (splitBy_ne_nil p rest)
    | cons piece pieces =>
      rw [h] at ih
      by_cases ha : p a = true
      · simpa [ha] using ih.cons a
      · simpa [ha] using ih.cons_cons a

theorem mem_of_mem_splitBy (h : piece ∈ splitBy p s) {a : α} (ha : a ∈ piece) :
    a ∈ s ∧ p a = false := by
  induction s generalizing piece with
  | nil =>
    rw [splitBy, List.mem_singleton] at h
    subst h
    contradiction
  | cons b rest ih =>
    rw [splitBy] at h
    cases hrest : splitBy p rest with
    | nil => exact absurd hrest (splitBy_ne_nil p rest)
    | cons first pieces =>
      rw [hrest] at h ih
      by_cases hb : p b
      · simp only [hb, if_true] at h
        rcases List.mem_cons.mp h with rfl | h
        · contradiction
        · exact ⟨List.mem_cons_of_mem b (ih h ha).1, (ih h ha).2⟩
      · simp only [hb, if_false, Bool.false_eq_true] at h
        rcases List.mem_cons.mp h with rfl | h
        · rcases List.mem_cons.mp ha with rfl | ha
          · exact ⟨List.mem_cons_self, by simpa using hb⟩
          · have hfirst := ih List.mem_cons_self ha
            exact ⟨List.mem_cons_of_mem b hfirst.1, hfirst.2⟩
        · have hlater := ih (List.mem_cons_of_mem first h) ha
          exact ⟨List.mem_cons_of_mem b hlater.1, hlater.2⟩

theorem breakAt_append_cons (h : ∀ a ∈ s, p a = false) {separator : α} (hsep : p separator = true)
    (rest : List α) : breakAt p (s ++ separator :: rest) = (s, some rest) := by
  induction s with
  | nil => simp [breakAt, hsep]
  | cons a s ih =>
    have ha : p a = false := h a List.mem_cons_self
    have hs := ih fun b hb => h b (List.mem_cons_of_mem a hb)
    simp [breakAt, ha, hs]

end RowQuery.Text

import Mathlib.Data.List.TakeWhile
import RowQuery.Yaml.Scalar

/-!
# Moving over a YAML text

Over characters of one line a cursor keeps its line and counts columns. A line end begins a line, and
no cursor goes back to one. A gap is what stands before the next character of a scalar.
-/
namespace RowQuery.Yaml

/-! ## Spaces before words -/

def spaces (n : Nat) : List Char := List.replicate n ' '

theorem mem_spaces {n : Nat} {c : Char} (h : c ∈ spaces n) : c = ' ' := List.eq_of_mem_replicate h

theorem length_spaces (n : Nat) : (spaces n).length = n := List.length_replicate

theorem spaces_induction {P : List Char → Prop} (blank : ∀ n, P (spaces n))
    (word : ∀ n c s, c ≠ ' ' → P s → P (spaces n ++ c :: s)) (s : List Char) : P s := by
  induction hn : s.length using Nat.strong_induction_on generalizing s with
  | _ n ih =>
    have hspaces : s.takeWhile (· == ' ') = spaces (s.takeWhile (· == ' ')).length := by
      refine List.eq_replicate_iff.mpr ⟨rfl, fun c hc => ?_⟩
      simpa using List.mem_takeWhile_imp hc
    have hsplit := List.takeWhile_append_dropWhile (p := (· == ' ')) (l := s)
    cases hrest : s.dropWhile (· == ' ') with
    | nil =>
      rw [hrest, List.append_nil, hspaces] at hsplit
      exact hsplit ▸ blank _
    | cons c rest =>
      have hc : c ≠ ' ' := by
        have hhead := List.head?_dropWhile_not (· == ' ') s
        rw [hrest] at hhead
        simpa using hhead
      rw [hrest, hspaces] at hsplit
      rw [← hsplit]
      refine word _ c rest hc (ih rest.length ?_ rest rfl)
      rw [← hn, ← hsplit, List.length_append, List.length_cons]
      omega

/-! ## Places -/

namespace Place

variable {p : Place} {s : List Char}

def after (p : Place) (s : List Char) : Place := s.foldl past p

theorem after_nil (p : Place) : p.after [] = p := rfl

theorem after_cons (p : Place) (c : Char) (s : List Char) : p.after (c :: s) = (p.past c).after s := rfl

theorem after_append (p : Place) (s t : List Char) : p.after (s ++ t) = (p.after s).after t :=
  List.foldl_append

theorem past_of_not_isBreak {c : Char} (h : isBreak c = false) (p : Place) :
    p.past c = ⟨p.line, p.column + 1, p.bytes + c.utf8Size⟩ := by
  simp [past, h]

theorem column_after (h : ∀ c ∈ s, isBreak c = false) (p : Place) :
    (p.after s).column = p.column + s.length := by
  induction s generalizing p with
  | nil => rfl
  | cons c s ih =>
    rw [List.forall_mem_cons] at h
    rw [after_cons, ih h.2, past_of_not_isBreak h.1, List.length_cons, Nat.add_right_comm,
      Nat.add_assoc]

theorem column_pos_after (h : ∀ c ∈ s, isBreak c = false) (hp : 0 < p.column) :
    0 < (p.after s).column := by
  rw [column_after h]
  omega

theorem line_after (h : ∀ c ∈ s, isBreak c = false) (p : Place) : (p.after s).line = p.line := by
  induction s generalizing p with
  | nil => rfl
  | cons c s ih =>
    rw [List.forall_mem_cons] at h
    rw [after_cons, ih h.2, past_of_not_isBreak h.1]

theorem bytes_after (p : Place) (s : List Char) :
    (p.after s).bytes = p.bytes + (String.ofList s).utf8ByteSize := by
  induction s generalizing p with
  | nil => rfl
  | cons c s ih =>
    have hpast : (p.past c).bytes = p.bytes + c.utf8Size := by
      rw [past]
      split <;> rfl
    rw [after_cons, ih, hpast, String.ofList_cons, String.utf8ByteSize_append]
    simp [Nat.add_assoc]

theorem column_after_newline (h : ∀ c ∈ s, isBreak c = false) (p : Place) :
    (p.after ('\n' :: s)).column = s.length := by
  rw [after_cons, column_after h]
  simp [past, isBreak]

end Place

namespace Cursor

variable {p : Place} {s rest : List Char}

theorem drop_append (p : Place) (s rest : List Char) :
    (⟨p, s ++ rest⟩ : Cursor).drop s.length = ⟨p.after s, rest⟩ := by
  rw [drop, List.take_left, List.drop_left]
  rfl

theorem drop_one (p : Place) (c : Char) (rest : List Char) :
    (⟨p, c :: rest⟩ : Cursor).drop 1 = ⟨p.past c, rest⟩ := rfl

theorem atMarker_of_pos {here : Cursor} (h : 0 < here.column) : here.atMarker = false := by
  have hne : here.column ≠ 0 := Nat.ne_of_gt h
  simp [atMarker, hne]

theorem atMarker_of_head {c : Char} (h : c ≠ '-') (h' : c ≠ '.') (p : Place) (rest : List Char) :
    (⟨p, c :: rest⟩ : Cursor).atMarker = false := by
  simp [atMarker, startsWord, List.isPrefixOf, beq_eq_false_iff_ne.mpr (Ne.symm h),
    beq_eq_false_iff_ne.mpr (Ne.symm h')]

end Cursor

/-! ## Gaps -/

def Stops (rest : List Char) : Prop := ∀ c ∈ rest.head?, isSpace c = false

theorem stops_cons {c : Char} {rest : List Char} : Stops (c :: rest) ↔ isSpace c = false := by
  simp [Stops]

theorem isSpace_of_mem_spaces {n : Nat} {c : Char} (h : c ∈ spaces n) : isSpace c = true := by
  rw [mem_spaces h]
  rfl

theorem isBreak_of_mem_spaces {n : Nat} {c : Char} (h : c ∈ spaces n) : isBreak c = false := by
  rw [mem_spaces h]
  rfl

theorem isBreak_of_not_isSpace {c : Char} (h : isSpace c = false) : isBreak c = false :=
  (Bool.or_eq_false_iff.mp h).2

theorem takeWhile_append_of_stop {q : Char → Bool} {gap rest : List Char} (h : ∀ c ∈ gap, q c = true)
    (hrest : ∀ c ∈ rest.head?, q c = false) : (gap ++ rest).takeWhile q = gap := by
  rw [List.takeWhile_append_of_pos h]
  cases rest with
  | nil => simp
  | cons c rest => rw [List.takeWhile_cons_of_neg (by simp [hrest c rfl]), List.append_nil]

theorem gapAt_append {gap rest : List Char} (h : ∀ c ∈ gap, isSpace c = true) (hrest : Stops rest)
    (p : Place) : gapAt ⟨p, gap ++ rest⟩ = gap :=
  takeWhile_append_of_stop h hrest

theorem fold_of_forall_not_isBreak {gap : List Char} (h : ∀ c ∈ gap, isBreak c = false) :
    fold gap = gap := by
  have hfilter : gap.filter isBreak = [] := List.filter_eq_nil_iff.mpr fun c hc => by simp [h c hc]
  rw [fold, hfilter]

theorem fold_spaces (n : Nat) : fold (spaces n) = spaces n :=
  fold_of_forall_not_isBreak fun _ => isBreak_of_mem_spaces

end RowQuery.Yaml

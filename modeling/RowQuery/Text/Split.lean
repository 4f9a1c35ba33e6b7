/-!
# Cutting a sequence at separators

`splitBy p` cuts a list at every element that satisfies `p`. Separators are dropped and every piece
is kept, the empty ones too, so a list with `n` separators has `n + 1` pieces.
-/
namespace RowQuery.Text

variable {α : Type}

def splitBy (p : α → Bool) : List α → List (List α)
  | [] => [[]]
  | a :: rest =>
    match splitBy p rest with
    | [] => []
    | piece :: pieces => if p a then [] :: piece :: pieces else (a :: piece) :: pieces

theorem splitBy_ne_nil (p : α → Bool) (s : List α) : splitBy p s ≠ [] := by
  induction s with
  | nil => simp [splitBy]
  | cons a rest ih =>
    simp only [splitBy]
    split
    · contradiction
    · split <;> simp

def breakAt (p : α → Bool) : List α → List α × Option (List α)
  | [] => ([], none)
  | a :: rest =>
    if p a then ([], some rest)
    else
      let (before, after) := breakAt p rest
      (a :: before, after)

end RowQuery.Text

import RowQuery.Memory.Sort

/-!
# Sorting a short list

The two halves of a short list are sorted by insertion, four elements at once in the beginning if
the list is not very short. Then they are merged from both ends, and each end takes as many elements
as the left half has. If the comparison contradicts itself, the ends can meet at an element that
both have taken, and there is no answer.
-/
namespace RowQuery.Sort

variable {α : Type}

def inOrder (compare : α → α → Ordering) (x y : α) : α × α :=
  if compare y x = .lt then (y, x) else (x, y)

def sortFour (compare : α → α → Ordering) (v₀ v₁ v₂ v₃ : α) : List α :=
  let a := (inOrder compare v₀ v₁).1
  let b := (inOrder compare v₀ v₁).2
  let c := (inOrder compare v₂ v₃).1
  let d := (inOrder compare v₂ v₃).2
  let least := (inOrder compare a c).1
  let greatest := (inOrder compare b d).2
  -- The second of the four when both pairs agree on their places.
  let left := if compare c a = .lt then a else if compare d b = .lt then c else b
  let right := if compare d b = .lt then d else if compare c a = .lt then b else c
  [least, (inOrder compare left right).1, (inOrder compare left right).2, greatest]

def insertAll (compare : α → α → Ordering) (sorted rest : List α) : List α :=
  (rest.foldl (fun sorted x => place compare x sorted) sorted.reverse).reverse

def sortHalf (compare : α → α → Ordering) (four : Bool) (half : List α) : List α :=
  match four, half with
  | true, v₀ :: v₁ :: v₂ :: v₃ :: rest =>
    insertAll compare (sortFour compare v₀ v₁ v₂ v₃) rest
  | _, half => sort compare half

structure Merging (α : Type) where
  taken : List α
  left : List α
  right : List α

namespace Merging

def after (x : α) (m : Merging α) : Merging α := { m with taken := x :: m.taken }

def reverse (m : Merging α) : Merging α := ⟨m.taken.reverse, m.right.reverse, m.left.reverse⟩

end Merging

def takeFront (compare : α → α → Ordering) : Nat → List α → List α → Merging α
  | count + 1, x :: left, y :: right =>
    if compare y x = .lt then (takeFront compare count (x :: left) right).after y
    else (takeFront compare count left (y :: right)).after x
  | _, left, right => ⟨[], left, right⟩

def takeBack (compare : α → α → Ordering) (count : Nat) (left right : List α) : Merging α :=
  (takeFront (fun x y => compare y x) count right.reverse left.reverse).reverse

/-- What lies between the two ends of a list that were taken, given what is left by each of them.
There is no such thing if the ends overlap. -/
def between (size : Nat) (rest restBack : List α) : Option (List α) :=
  if rest.length + restBack.length < size then none
  else some (rest.take (rest.length + restBack.length - size))

def mergeEnds (compare : α → α → Ordering) (left right : List α) : Option (List α) := do
  let front := takeFront compare left.length left right
  let back := takeBack compare left.length left right
  let middleLeft ← between left.length front.left back.left
  let middleRight ← between right.length front.right back.right
  some (front.taken ++ middleLeft ++ middleRight ++ back.taken)

def smallSort (compare : α → α → Ordering) (source : List α) : Option (List α) :=
  if source.length < 2 then some source
  else
    let four := decide (8 ≤ source.length)
    mergeEnds compare (sortHalf compare four (source.take (source.length / 2)))
      (sortHalf compare four (source.drop (source.length / 2)))

end RowQuery.Sort

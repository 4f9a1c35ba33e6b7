/-!
# Sorting by insertion

Elements are put in one after the other, each behind the last element that it does not precede. The
sorted part is kept with its end in front, where the next element is compared first. Of a list of
any length this makes an arrangement, but only up to 20 elements are sorted this way alone. Longer
lists are merged from sorted parts, which may fail if the comparison contradicts itself.
-/
namespace RowQuery.Sort

variable {α : Type}

/-- Puts an element into a sorted list that is given from its end. -/
def place (compare : α → α → Ordering) (x : α) : List α → List α
  | [] => [x]
  | y :: before =>
    if compare x y = .lt then y :: place compare x before else x :: y :: before

theorem place_perm (compare : α → α → Ordering) (x : α) (sorted : List α) :
    (place compare x sorted).Perm (x :: sorted) := by
  induction sorted with
  | nil => exact .refl _
  | cons y before ih =>
    simp only [place]
    split
    · exact (ih.cons y).trans (.swap x y before)
    · exact .refl _

def reversed (compare : α → α → Ordering) (source : List α) : List α :=
  source.foldl (fun sorted x => place compare x sorted) []

def sort (compare : α → α → Ordering) (source : List α) : List α :=
  (reversed compare source).reverse

theorem foldl_place_perm (compare : α → α → Ordering) (source sorted : List α) :
    (source.foldl (fun sorted x => place compare x sorted) sorted).Perm (source ++ sorted) := by
  induction source generalizing sorted with
  | nil => exact .refl _
  | cons x rest ih =>
    refine (ih _).trans ?_
    refine (List.Perm.append_left rest (place_perm compare x sorted)).trans ?_
    exact List.perm_middle

theorem sort_perm (compare : α → α → Ordering) (source : List α) :
    (sort compare source).Perm source := by
  refine (List.reverse_perm _).trans ?_
  simpa [reversed] using foldl_place_perm compare source []

end RowQuery.Sort

/-!
# Tables by runs of code points

Where neighbouring code points have values of their own, a table keeps the first of them and the
list of the values, in ascending order of the first. Where they share one value, or have values in
step with them, it keeps the first, the last and one value.
-/
namespace RowQuery.Text

variable {α : Type}

abbrev Runs (α : Type) := List (Nat × List α)

def Runs.get? : Runs α → Nat → Option α
  | [], _ => none
  | (first, values) :: rest, n =>
    if n < first then none else (values[n - first]?).or (get? rest n)

abbrev Spans (α : Type) := List (Nat × Nat × α)

def Spans.find? : Spans α → Nat → Option (Nat × α)
  | [], _ => none
  | (first, last, value) :: rest, n =>
    if n < first then none else if n ≤ last then some (first, value) else find? rest n

end RowQuery.Text

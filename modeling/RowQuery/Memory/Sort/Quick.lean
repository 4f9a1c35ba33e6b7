import RowQuery.Memory.Sort.Short

/-!
# Sorting around pivots

The elements that precede a pivot come before all others, and either part is sorted in the same way
until it is short. If nothing precedes the pivot, the elements that are alike are in place as they
are, and what the pivot precedes is left to sort. After too many pivots another sort takes over.
-/
namespace RowQuery.Sort

variable {α : Type}

def precedesAt (compare : α → α → Ordering) (source : List α) (i j : Nat) : Bool :=
  match source[i]?, source[j]? with
  | some x, some y => compare x y = .lt
  | _, _ => false

def median (precedes : Nat → Nat → Bool) (i j k : Nat) : Nat :=
  if precedes i j = precedes i k then
    if precedes j k = precedes i j then j else k
  else i

def medianOf (precedes : Nat → Nat → Bool) (size i j k : Nat) : Nat :=
  if size < 8 then median precedes i j k
  else
    let part := size / 8
    median precedes (medianOf precedes part i (i + 4 * part) (i + 7 * part))
      (medianOf precedes part j (j + 4 * part) (j + 7 * part))
      (medianOf precedes part k (k + 4 * part) (k + 7 * part))
termination_by size

def pivotAt (compare : α → α → Ordering) (source : List α) : Nat :=
  let part := source.length / 8
  medianOf (precedesAt compare source) part 0 (4 * part) (7 * part)

structure Pivoted (α : Type) where
  before : List α
  pivot : α
  after : List α

namespace Pivoted

def ofList? (compare : α → α → Ordering) (source : List α) : Option (Pivoted α) :=
  match source.drop (pivotAt compare source) with
  | [] => none
  | pivot :: after => some ⟨source.take (pivotAt compare source), pivot, after⟩

def apart (p : Pivoted α) (test : α → Bool) : List α := (p.before ++ p.after).filter test

/-- The pivot, in its place among the elements that a test does not select. -/
def kept (p : Pivoted α) (test : α → Bool) : List α :=
  p.before.filter (fun x => !test x) ++ p.pivot :: p.after.filter fun x => !test x

variable (compare : α → α → Ordering) (p : Pivoted α)

def lower : List α := p.apart fun x => compare x p.pivot = .lt

def atLeast : List α := p.kept fun x => compare x p.pivot = .lt

def upper : List α := p.apart fun x => compare p.pivot x = .lt

def atMost : List α := p.kept fun x => compare p.pivot x = .lt

def divides (ancestor : Option α) : Bool :=
  ancestor.all (fun a => compare a p.pivot = .lt) && !(p.lower compare).isEmpty

end Pivoted

/-- The elements of the list do not precede the ancestor, the pivot left of them. -/
def quicksort (compare : α → α → Ordering) (fallback : List α → Option (List α)) :
    Nat → Option α → List α → Option (List α)
  | 0, _, source => if source.length ≤ 32 then smallSort compare source else fallback source
  | limit + 1, ancestor, source =>
    if source.length ≤ 32 then smallSort compare source
    else do
      let p ← Pivoted.ofList? compare source
      if p.divides compare ancestor then
        let rest ← quicksort compare fallback limit (some p.pivot) (p.atLeast compare)
        let lower ← quicksort compare fallback limit ancestor (p.lower compare)
        some (lower ++ rest)
      else
        let upper ← quicksort compare fallback limit none (p.upper compare)
        some (p.atMost compare ++ upper)

end RowQuery.Sort

import RowQuery.Memory.Sort.Quick

/-!
# Sorting by runs

A list is cut into runs. A long stretch that is in order already is a run, and one that descends is
reversed; other runs have a fixed length and are sorted right away in a list that is not very long,
else as late as possible. Runs are merged in a tree that is nearly balanced: the midpoints of two
neighbours say how deep the node between them lies. Only short lists are sorted by insertion alone.

The sizes are those of rows, of which 56 have room in the buffer that every sort has.
-/
namespace RowQuery.Sort

variable {α : Type}

def runLength (continues : α → α → Bool) (last : α) : List α → Nat
  | [] => 0
  | x :: rest => if continues last x then runLength continues x rest + 1 else 0

structure Run (α : Type) where
  items : List α
  sorted : Bool

def orderedFront (compare : α → α → Ordering) : List α → List α
  | x :: y :: rest =>
    if compare y x = .lt then
      ((x :: y :: rest).take (runLength (fun x y => compare y x = .lt) y rest + 2)).reverse
    else (x :: y :: rest).take (runLength (fun x y => compare y x ≠ .lt) y rest + 2)
  | source => source

def nextRun (compare : α → α → Ordering) (good : Nat) (eager : Bool) (source : List α) :
    Option (Run α) :=
  if good ≤ (orderedFront compare source).length then some ⟨orderedFront compare source, true⟩
  else if eager then (smallSort compare (source.take 32)).map fun items => ⟨items, true⟩
  else some ⟨source.take good, false⟩

def runs (compare : α → α → Ordering) (good : Nat) (eager : Bool) :
    Nat → List α → Option (List (Run α))
  | 0, _ => some []
  | _, [] => some []
  | count + 1, source => do
    let run ← nextRun compare good eager source
    let rest ← runs compare good eager count (source.drop run.items.length)
    some (run :: rest)

def merge (compare : α → α → Ordering) (left right : List α) : List α :=
  if left.length ≤ right.length then
    let front := takeFront compare (left.length + right.length) left right
    front.taken ++ front.left ++ front.right
  else
    let back := takeBack compare (left.length + right.length) left right
    back.left ++ back.right ++ back.taken

def Run.settled (sort : List α → Option (List α)) (run : Run α) : Option (List α) :=
  if run.sorted then some run.items else sort run.items

/-- Two runs as one. Runs that are not sorted stay so together as long as the buffer can hold
them. -/
def Run.join (compare : α → α → Ordering) (sort : List α → Option (List α)) (room : Nat)
    (left right : Run α) : Option (Run α) :=
  if left.items.length + right.items.length ≤ room ∧ left.sorted = false ∧ right.sorted = false then
    some ⟨left.items ++ right.items, false⟩
  else do
    let first ← left.settled sort
    let last ← right.settled sort
    some ⟨merge compare first last, true⟩

/-- How deep in the tree the node between two neighbours lies. -/
def depthAt (scale start middle stop : Nat) : Nat :=
  let bits := scale * (start + middle) ^^^ scale * (middle + stop)
  if bits = 0 then 64 else 63 - bits.log2

def collapse (join : Run α → Run α → Option (Run α)) (depth : Nat) :
    List (Run α × Nat) → Run α → Option (List (Run α × Nat) × Run α)
  | [], run => some ([], run)
  | (left, leftDepth) :: before, run =>
    if depth ≤ leftDepth then do collapse join depth before (← join left run)
    else some ((left, leftDepth) :: before, run)

/-- Joins all runs into one, given the runs before the last one seen, and where that one ends. -/
def joinRuns (join : Run α → Run α → Option (Run α)) (scale : Nat) :
    List (Run α × Nat) → Run α → Nat → List (Run α) → Option (Run α)
  | before, last, _, [] => (collapse join 0 before last).map Prod.snd
  | before, last, stop, run :: rest => do
    let depth := depthAt scale (stop - last.items.length) stop (stop + run.items.length)
    let joined ← collapse join depth before last
    joinRuns join scale ((joined.2, depth) :: joined.1) run (stop + run.items.length) rest

def goodLength (n : Nat) : Nat :=
  if n ≤ 4096 then min (n - n / 2) 64
  else
    let shift := (1 + n.log2) / 2
    (1 <<< shift + n >>> shift) / 2

/-- Sorts by runs. An eager sort has no other runs than sorted ones. -/
def sortRuns (compare : α → α → Ordering) (eager : Bool) (sort : List α → Option (List α))
    (room : Nat) (source : List α) : Option (List α) := do
  match ← runs compare (goodLength source.length) eager source.length source with
  | [] => some source
  | first :: rest =>
    let scale := (Nat.pow 2 62 + source.length - 1) / source.length
    let run ← joinRuns (Run.join compare sort room) scale [] first first.items.length rest
    run.settled sort

def roomFor (n : Nat) : Nat := max 56 (max (n - n / 2) (min n 111111))

/-- A stable sort, unless the comparison is no preorder on the elements: then the order is any, or
there is no answer. -/
def sort? (compare : α → α → Ordering) (source : List α) : Option (List α) :=
  if source.length ≤ 20 then some (sort compare source)
  else
    let room := roomFor source.length
    let quick := fun part : List α =>
      quicksort compare (sortRuns compare true (smallSort compare) room) (2 * part.length.log2) none
        part
    sortRuns compare (source.length ≤ 64) quick room source

end RowQuery.Sort

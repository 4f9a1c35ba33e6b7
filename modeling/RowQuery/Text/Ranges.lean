/-!
# Sets of code points as ascending ranges

A Unicode property is kept as the list of its closed ranges in ascending order, so a look-up may
stop at the first range that begins past the code point.
-/
namespace RowQuery.Text

abbrev Ranges := List (Nat × Nat)

def Ranges.contains : Ranges → Nat → Bool
  | [], _ => false
  | (first, last) :: rest, n =>
    if n < first then false else if n ≤ last then true else contains rest n

end RowQuery.Text

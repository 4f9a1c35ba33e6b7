import RowQuery.Number.Binary64

/-!
# The shortest decimal that reads back

Every decimal inside the interval of reals that round to a binary number reads back as that number;
the ends of the interval belong to it when the magnitude is even. For one digit, two digits, and so
on, the two decimals of that length next to the number are tried, and the first length with a hit
wins. Of two hits the nearer is taken, of two equally near the even one.
-/
namespace RowQuery.Shortest

structure Digits where
  digits : Nat
  exponent : Int
deriving DecidableEq, Repr

/-- The interval of a magnitude in quarters of its own last unit, with the number at its middle:
low end, number, high end, the units of one quarter, and whether the ends belong to it. -/
def interval (magnitude : Nat) : Nat × Nat × Nat × Nat × Bool :=
  let (significand, scale) := Binary64.parts magnitude
  let below := if significand = Nat.pow 2 52 && 0 < scale then 1 else 2
  (4 * significand - below, 4 * significand, 4 * significand + 2, Nat.pow 2 scale,
    significand % 2 == 0)

def floorLog10 (num den : Nat) : Int :=
  let guess : Int := (((Nat.log2 num : Int) - Nat.log2 den) * 1233) / 4096
  let reaches (e : Int) : Bool :=
    if 0 ≤ e then den * Nat.pow 10 e.toNat ≤ num else den ≤ num * Nat.pow 10 e.natAbs
  if reaches (guess + 1) then guess + 1
  else if reaches guess then guess
  else guess - 1

def onGrid (magnitude : Nat) (exponent : Int) : Option Nat :=
  let (low, mid, high, quarter, closed) := interval magnitude
  let den := 4 * Binary64.unit
  -- Ends, number and grid as multiples of `1 / den` times the step of the grid.
  let up := if 0 ≤ exponent then 1 else Nat.pow 10 exponent.natAbs
  let step := if 0 ≤ exponent then den * Nat.pow 10 exponent.toNat else den
  let place (x : Nat) : Nat := x * quarter * up
  let q := place mid / step
  let hits (d : Nat) : Bool :=
    if closed then place low ≤ d * step && d * step ≤ place high
    else place low < d * step && d * step < place high
  let r := place mid % step
  match hits q, hits (q + 1) with
  | true, true =>
    if 2 * r < step || (2 * r == step && q % 2 == 0) then some q else some (q + 1)
  | true, false => some q
  | false, true => some (q + 1)
  | false, false => none

def search (magnitude : Nat) (exponent : Int) : Nat → Digits
  | 0 => ⟨(onGrid magnitude exponent).getD 0, exponent⟩
  | more + 1 =>
    match onGrid magnitude exponent with
    | some digits => ⟨digits, exponent⟩
    | none => search magnitude (exponent - 1) more

/-- The digits of a positive magnitude; seventeen always suffice. -/
def ofMagnitude (magnitude : Nat) : Digits :=
  search magnitude (floorLog10 (Binary64.units magnitude) Binary64.unit) 17

end RowQuery.Shortest

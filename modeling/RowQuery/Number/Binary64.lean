/-!
# Finite binary floating-point numbers of 64 bits

A number is a sign and a magnitude. Magnitudes count the non-negative finite numbers in ascending
order: 0 is zero, 1 the least positive number, and every step of `2 ^ 52` begins a new power of two.
Products, quotients and integers are rounded to the nearest number, a tie to the even magnitude, by
exact arithmetic on natural numbers.
-/
namespace RowQuery

structure Binary64 where
  negative : Bool
  magnitude : Nat
  finite : magnitude < 2047 * Nat.pow 2 52 := by decide
deriving DecidableEq, Repr

namespace Binary64

def parts (magnitude : Nat) : Nat × Nat :=
  if magnitude < Nat.pow 2 53 then (magnitude, 0)
  else (Nat.pow 2 52 + magnitude % Nat.pow 2 52, magnitude / Nat.pow 2 52 - 1)

/-- The number as a multiple of the least positive number, which is `2 ^ -1074`. -/
def units (magnitude : Nat) : Nat :=
  let (significand, scale) := parts magnitude
  significand * Nat.pow 2 scale

def unit : Nat := Nat.pow 2 1074

def roundHalfEven (num den : Nat) : Nat :=
  let q := num / den
  let r := num % den
  if den < 2 * r || (2 * r == den && q % 2 == 1) then q + 1 else q

/-- The magnitude nearest to `num / den` units; `limit` stands for everything too large. -/
def nearestUnits (num den : Nat) : Nat :=
  let q := num / den
  if q < Nat.pow 2 53 then roundHalfEven num den
  else
    let scale := Nat.log2 q - 52
    scale * Nat.pow 2 52 + roundHalfEven num (den * Nat.pow 2 scale)

def limit : Nat := 2047 * Nat.pow 2 52

def nearest (n : Nat) : Nat := nearestUnits (n * unit) 1

def times (x y : Nat) : Nat := nearestUnits (units x * units y) unit

def dividedBy (x y : Nat) : Nat := nearestUnits (units x * unit) (units y)

def ofMagnitude? (negative : Bool) (magnitude : Nat) : Option Binary64 :=
  if h : magnitude < 2047 * Nat.pow 2 52 then some ⟨negative, magnitude, h⟩ else none

def position (negative : Bool) (magnitude : Nat) : Int :=
  if negative then -(magnitude : Int) - 1 else magnitude

/-- The number that a narrower format of 32 bits would keep; none where that format is exceeded. -/
def narrow? (x : Binary64) : Option Binary64 :=
  let u := units x.magnitude
  -- The least positive number of the narrow format is `2 ^ -149`, and it has 24 significant bits.
  let scale := max (1074 - 149) (Nat.log2 u - 23)
  let rounded := roundHalfEven u (Nat.pow 2 scale) * Nat.pow 2 scale
  if rounded < Nat.pow 2 128 * unit then ofMagnitude? x.negative (nearestUnits rounded 1) else none

end Binary64
end RowQuery

import RowQuery.Number.Decimal

/-!
# Decimal literals

A literal has a sign, digits with a point anywhere before, among or behind them, and an exponent;
sign, point and exponent may be left out. `isFinite` tells whether the nearest binary number of 64
bits is finite, by comparing with the midpoint past the largest one.
-/
namespace RowQuery

structure Literal where
  digits : List Char
  exponent : Int
deriving DecidableEq, Repr

namespace Literal

def unsigned : List Char → List Char
  | '+' :: rest => rest
  | '-' :: rest => rest
  | s => s

def power? : List Char → Option Int
  | [] => some 0
  | mark :: rest =>
    let digits := unsigned rest
    if (mark = 'e' || mark = 'E') && !digits.isEmpty && digits.all Decimal.isDigit then
      let n : Int := Decimal.value digits
      some (if rest.head? = some '-' then -n else n)
    else none

def read? (s : List Char) : Option Literal :=
  let s := unsigned s
  let integral := s.takeWhile Decimal.isDigit
  let (fraction, rest) := match s.dropWhile Decimal.isDigit with
    | '.' :: rest => (rest.takeWhile Decimal.isDigit, rest.dropWhile Decimal.isDigit)
    | rest => ([], rest)
  let digits := integral ++ fraction
  if digits.isEmpty then none
  else (power? rest).map fun power => ⟨digits, power - fraction.length⟩

def overflow : Nat := Nat.pow 2 1024 - Nat.pow 2 970

def isFinite (l : Literal) : Bool :=
  let digits := l.digits.dropWhile (· == '0')
  let size := digits.length + l.exponent
  if digits.isEmpty || size ≤ 308 then true
  else if 309 < size then false
  else if 0 ≤ l.exponent then Decimal.value digits * Nat.pow 10 l.exponent.toNat < overflow
  else Decimal.value digits < overflow * Nat.pow 10 l.exponent.natAbs

end Literal

def Decimal.natural? (digits : List Char) : Option Nat :=
  if digits.isEmpty || !digits.all isDigit then none else some (value digits)

end RowQuery

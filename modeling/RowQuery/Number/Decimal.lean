import RowQuery.Number.Binary64

/-!
# Decimal digits

`value` reads a run of decimal digits. `scaled?` turns a significand below `2 ^ 64` and a power of
ten into a binary number: the significand is rounded first, then multiplied or divided once by the
power of ten, itself rounded; powers past 308 take a division by `10 ^ 308` for each step.
-/
namespace RowQuery.Decimal

def digit (c : Char) : Nat := c.toNat - 0x30

def isDigit (c : Char) : Bool := '0' ≤ c && c ≤ '9'

def value (digits : List Char) : Nat := digits.foldl (fun n c => 10 * n + digit c) 0

def ofDigits? (digits : List Char) : Option UInt64 :=
  if digits.isEmpty || !digits.all isDigit then none
  else
    let n := value digits
    if h : n < UInt64.size then some (UInt64.ofNatLT n h) else none

/-- Takes digits up to the first that would bring the significand to `2 ^ 64`. -/
def accumulate (significand : Nat) : List Char → Nat × List Char
  | [] => (significand, [])
  | c :: rest =>
    let next := 10 * significand + digit c
    if next < UInt64.size then accumulate next rest else (significand, c :: rest)

def powerOfTen (n : Nat) : Nat := Binary64.nearest (Nat.pow 10 n)

def scale? (x : Nat) (exponent : Int) : Option Nat :=
  if 0 ≤ exponent then
    if exponent ≤ 308 then
      let y := Binary64.times x (powerOfTen exponent.toNat)
      if y < Binary64.limit then some y else none
    else if x = 0 then some 0 else none
  else if -308 ≤ exponent then some (Binary64.dividedBy x (powerOfTen exponent.natAbs))
  else if x = 0 then some 0
  else scale? (Binary64.dividedBy x (powerOfTen 308)) (exponent + 308)
termination_by exponent.natAbs
decreasing_by omega

def scaled? (negative : Bool) (significand : Nat) (exponent : Int) : Option Binary64 := do
  Binary64.ofMagnitude? negative (← scale? (Binary64.nearest significand) exponent)

/-- The number written by integral digits, fractional digits and a power of ten. Digits after the
first that no longer fits into 64 bits count only by their place. -/
def read? (negative : Bool) (integral fraction : List Char) (exponent : Int) : Option Binary64 :=
  let (head, dropped) := accumulate 0 integral
  let (significand, unread) := accumulate head fraction
  let taken := fraction.length - unread.length
  scaled? negative significand ((dropped.length : Int) - taken + exponent)

end RowQuery.Decimal

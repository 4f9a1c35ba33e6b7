/-!
# Hexadecimal digits

`value?` reads a run of digits of either case, and `char?` the character with that code point; the
surrogates and what lies past the last code point are no characters.
-/
namespace RowQuery.Hexadecimal

def digit? (c : Char) : Option Nat :=
  if '0' ≤ c && c ≤ '9' then some (c.toNat - 0x30)
  else if 'a' ≤ c && c ≤ 'f' then some (c.toNat - 0x57)
  else if 'A' ≤ c && c ≤ 'F' then some (c.toNat - 0x37)
  else none

def value? (digits : List Char) : Option Nat :=
  digits.foldlM (fun n c => (digit? c).map (16 * n + ·)) 0

def ofCode? (n : Nat) : Option Char := if n.isValidChar then some (Char.ofNat n) else none

def char? (width : Nat) (s : List Char) : Option (Char × List Char) := do
  let digits := s.take width
  if digits.length < width then none
  else some (← ofCode? (← value? digits), s.drop width)

end RowQuery.Hexadecimal

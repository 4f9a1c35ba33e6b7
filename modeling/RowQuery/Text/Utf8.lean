/-!
# UTF-8 with repair

`encode` gives the bytes of a text. `decodeLossy` reads bytes back and puts U+FFFD for each maximal
ill-formed part: the longest start of a character that cannot go on, or a byte that starts none.
-/
namespace RowQuery.Utf8

def encode (s : List Char) : List UInt8 := s.flatMap String.utf8EncodeChar

def replacement : Char := Char.ofNat 0xfffd

def isTail (b : UInt8) : Bool := 0x80 ≤ b && b ≤ 0xbf

def isSecond (a b : UInt8) : Bool :=
  if a == 0xe0 then 0xa0 ≤ b && b ≤ 0xbf
  else if a == 0xed then 0x80 ≤ b && b ≤ 0x9f
  else if a == 0xf0 then 0x90 ≤ b && b ≤ 0xbf
  else if a == 0xf4 then 0x80 ≤ b && b ≤ 0x8f
  else isTail b

def lead (a : UInt8) : Option (Nat × Nat) :=
  if a < 0x80 then some (a.toNat, 0)
  else if 0xc2 ≤ a && a ≤ 0xdf then some (a.toNat - 0xc0, 1)
  else if 0xe0 ≤ a && a ≤ 0xef then some (a.toNat - 0xe0, 2)
  else if 0xf0 ≤ a && a ≤ 0xf4 then some (a.toNat - 0xf0, 3)
  else none

def extend (n : Nat) (b : UInt8) : Nat := n * 64 + (b.toNat - 0x80)

def decodeOne (a : UInt8) (rest : List UInt8) : Char × Nat :=
  match lead a, rest with
  | none, _ => (replacement, 0)
  | some (n, 0), _ => (Char.ofNat n, 0)
  | some _, [] => (replacement, 0)
  | some (n, k + 1), b :: rest =>
    if !isSecond a b then (replacement, 0)
    else
      let tail := (rest.take k).takeWhile isTail
      if tail.length = k then (Char.ofNat (tail.foldl extend (extend n b)), k + 1)
      else (replacement, tail.length + 1)

def decodeAfter : Nat → List UInt8 → List Char
  | _, [] => []
  | skip + 1, _ :: rest => decodeAfter skip rest
  | 0, a :: rest =>
    let (c, skip) := decodeOne a rest
    c :: decodeAfter skip rest

def decodeLossy (bytes : List UInt8) : List Char := decodeAfter 0 bytes

end RowQuery.Utf8

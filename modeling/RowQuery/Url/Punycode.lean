/-!
# Punycode

Characters past U+007F written with letters and digits: the plain characters stand in front of the
last hyphen, and each number behind it tells the distance to the next character and its place. A
number is written from its lowest digit on, with thresholds that follow a moving bias.
-/
namespace RowQuery.Punycode

def digit? (c : Char) : Option Nat :=
  if 'a' ≤ c && c ≤ 'z' then some (c.toNat - 0x61)
  else if '0' ≤ c && c ≤ '9' then some (c.toNat - 0x30 + 26)
  else none

def threshold (position bias : Nat) : Nat := min 26 (max 1 (position - bias))

/-- The bias for a distance: it is divided by 35 until it is small, 36 for each division. -/
def scale (delta bias : Nat) : Nat :=
  if 455 < delta then scale (delta / 35) (bias + 36) else bias + 36 * delta / (delta + 38)
termination_by delta
decreasing_by omega

def adapt (delta count : Nat) (isFirst : Bool) : Nat :=
  let delta := if isFirst then delta / 700 else delta / 2
  scale (delta + delta / count) 0

def number? (bias position weight value : Nat) : List Char → Option (Nat × List Char)
  | [] => none
  | c :: rest =>
    (digit? c).bind fun digit =>
      let t := threshold position bias
      let value := value + digit * weight
      if digit < t then some (value, rest)
      else number? bias (position + 36) (weight * (36 - t)) value rest

def insertAll (bias code index : Nat) (text : List Char) : Nat → List Char → Option (List Char)
  | 0, _ => none
  | _, [] => some text
  | fuel + 1, digits => do
    let (delta, rest) ← number? bias 36 1 0 digits
    let count := text.length + 1
    let place := index + delta
    let code := code + place / count
    if code.isValidChar then
      let slot := place % count
      let text := text.take slot ++ Char.ofNat code :: text.drop slot
      insertAll (adapt delta count (index = 0)) code (slot + 1) text fuel rest
    else none

/-- The plain characters and the digits; a hyphen at the front is no mark between them. -/
def parts (s : List Char) : List Char × List Char :=
  let digits := (s.reverse.takeWhile (· != '-')).reverse
  let plain := (s.take (s.length - digits.length)).dropLast
  if plain.isEmpty then ([], s) else (plain, digits)

def decode? (s : List Char) : Option (List Char) :=
  let (plain, digits) := parts s
  insertAll 72 0x80 0 plain (digits.length + 1) digits

end RowQuery.Punycode

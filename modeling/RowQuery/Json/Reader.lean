import RowQuery.Json.Shape
import RowQuery.Json.Value
import RowQuery.Number.Decimal
import RowQuery.Number.Hexadecimal

/-!
# Reading JSON text

A text is one value with nothing but blanks around it. Arrays and objects nest at most 127 deep.
Strings hold no character below U+0020 and no escaped half of a surrogate pair; numbers have no
leading zeros, and a number too large for a finite binary number is refused. `read` keeps every
member of an object as written, and `readValue` merges the members of equal keys.

`readAs` drops the members that a shape does not use. Their values are only checked against the
grammar: they may nest to any depth, and their numbers and escapes may stand for nothing.
-/
namespace RowQuery.Json

abbrev Reader (α : Type) := List Char → Option (α × List Char)

def isSpace (c : Char) : Bool := c = ' ' || c = '\n' || c = '\t' || c = '\r'

def skipSpace (s : List Char) : List Char := s.dropWhile isSpace

def literal (word : String) (value : Json) : Reader Json := fun s =>
  let word := word.toList
  if word.isPrefixOf s then some (value, s.drop word.length) else none

def hex4 : Reader Nat
  | a :: b :: c :: d :: rest => do
    let a ← Hexadecimal.digit? a
    let b ← Hexadecimal.digit? b
    let c ← Hexadecimal.digit? c
    let d ← Hexadecimal.digit? d
    some (((a * 16 + b) * 16 + c) * 16 + d, rest)
  | _ => none

def unicodeEscape : Reader Char := fun s => do
  let (first, rest) ← hex4 s
  if 0xdc00 ≤ first && first ≤ 0xdfff then none
  else if 0xd800 ≤ first && first ≤ 0xdbff then
    match rest with
    | '\\' :: 'u' :: rest =>
      let (second, rest) ← hex4 rest
      if 0xdc00 ≤ second && second ≤ 0xdfff then
        some (Char.ofNat (0x10000 + (first - 0xd800) * 0x400 + (second - 0xdc00)), rest)
      else none
    | _ => none
  else some (Char.ofNat first, rest)

def escape : Reader Char
  | '"' :: rest => some ('"', rest)
  | '\\' :: rest => some ('\\', rest)
  | '/' :: rest => some ('/', rest)
  | 'b' :: rest => some (Char.ofNat 0x8, rest)
  | 'f' :: rest => some (Char.ofNat 0xc, rest)
  | 'n' :: rest => some ('\n', rest)
  | 'r' :: rest => some ('\r', rest)
  | 't' :: rest => some ('\t', rest)
  | 'u' :: rest => unicodeEscape rest
  | _ => none

def stringTail : Nat → Reader (List Char)
  | 0, _ => none
  | _, [] => none
  | fuel + 1, c :: rest =>
    if c = '"' then some ([], rest)
    else if c = '\\' then do
      let (decoded, rest) ← escape rest
      let (tail, rest) ← stringTail fuel rest
      some (decoded :: tail, rest)
    else if c.toNat < 0x20 then none
    else do
      let (tail, rest) ← stringTail fuel rest
      some (c :: tail, rest)

def text : Reader String
  | '"' :: rest => do
    let (cs, rest) ← stringTail rest.length.succ rest
    some (String.ofList cs, rest)
  | _ => none

def span (s : List Char) : List Char × List Char :=
  (s.takeWhile Decimal.isDigit, s.dropWhile Decimal.isDigit)

def integral : Reader (List Char) := fun s =>
  match span s with
  | ([], _) => none
  | (['0'], rest) => some (['0'], rest)
  | ('0' :: _, _) => none
  | (digits, rest) => some (digits, rest)

def fraction : Reader (Option (List Char))
  | '.' :: rest =>
    match span rest with
    | ([], _) => none
    | (digits, rest) => some (some digits, rest)
  | s => some (none, s)

def exponentDigits (negative : Bool) : Reader (Option Int) := fun s =>
  match span s with
  | ([], _) => none
  | (digits, rest) =>
    let n : Int := Decimal.value digits
    some (some (if negative then -n else n), rest)

def exponent : Reader (Option Int)
  | c :: rest =>
    if c = 'e' || c = 'E' then
      match rest with
      | '+' :: rest => exponentDigits false rest
      | '-' :: rest => exponentDigits true rest
      | rest => exponentDigits false rest
    else some (none, c :: rest)
  | [] => some (none, [])

/-- A literal without point and exponent is an integer if it fits, and minus zero is not one. -/
def numberOf (negative : Bool) (digits : List Char) (fraction : Option (List Char))
    (exponent : Option Int) : Option Number :=
  let float := (Decimal.read? negative digits (fraction.getD []) (exponent.getD 0)).map .float
  if fraction.isSome || exponent.isSome then float
  else
    let n : Int := Decimal.value digits
    if negative then if n = 0 then float else ((Integer.ofInt? (-n)).map .int).or float
    else ((Integer.ofInt? n).map .int).or float

structure NumberParts where
  integral : List Char
  fraction : Option (List Char)
  exponent : Option Int

def numberParts : Reader NumberParts := fun s => do
  let (integral, s) ← integral s
  let (fraction, s) ← fraction s
  let (exponent, s) ← exponent s
  some (⟨integral, fraction, exponent⟩, s)

def unsignedNumber (negative : Bool) : Reader Json := fun s => do
  let (parts, s) ← numberParts s
  let n ← numberOf negative parts.integral parts.fraction parts.exponent
  some (number n, s)

def scalar : Reader Json
  | 'n' :: rest => literal "null" null ('n' :: rest)
  | 't' :: rest => literal "true" (bool true) ('t' :: rest)
  | 'f' :: rest => literal "false" (bool false) ('f' :: rest)
  | '"' :: rest => (text ('"' :: rest)).map fun (s, rest) => (string s, rest)
  | '-' :: rest => unsignedNumber true rest
  | s => unsignedNumber false s

/-! ## Values that are not used -/

def areHex (digits : List Char) : Bool := digits.all fun c => (Hexadecimal.digit? c).isSome

def looseTail : Reader Unit
  | '"' :: rest => some ((), rest)
  | '\\' :: 'u' :: a :: b :: c :: d :: rest => if areHex [a, b, c, d] then looseTail rest else none
  | '\\' :: c :: rest => if "\"\\/bfnrt".toList.contains c then looseTail rest else none
  | c :: rest => if c.toNat < 0x20 then none else looseTail rest
  | [] => none

def looseText : Reader Unit
  | '"' :: rest => looseTail rest
  | _ => none

def looseScalar : Reader Unit
  | '"' :: rest => looseText ('"' :: rest)
  | '-' :: rest => (numberParts rest).map fun (_, rest) => ((), rest)
  | 'n' :: rest => (scalar ('n' :: rest)).map fun (_, rest) => ((), rest)
  | 't' :: rest => (scalar ('t' :: rest)).map fun (_, rest) => ((), rest)
  | 'f' :: rest => (scalar ('f' :: rest)).map fun (_, rest) => ((), rest)
  | s => (numberParts s).map fun (_, rest) => ((), rest)

inductive Expected
  | value
  | key
  | entryOrClose
  | commaOrClose
deriving DecidableEq

def Expected.entry (close : Char) : Expected := if close = '\x7d' then key else value

/-- Passes over the rest of a value; `closers` are the ends of the collections that are open. -/
def pass : Nat → Expected → (closers : List Char) → Reader Unit
  | 0, _, _, _ => none
  | fuel + 1, .value, closers, s =>
    match skipSpace s with
    | '[' :: rest => pass fuel .entryOrClose (']' :: closers) rest
    | '\x7b' :: rest => pass fuel .entryOrClose ('\x7d' :: closers) rest
    | s => do
      let (_, rest) ← looseScalar s
      pass fuel .commaOrClose closers rest
  | fuel + 1, .key, closers, s => do
    let (_, rest) ← looseText (skipSpace s)
    match skipSpace rest with
    | ':' :: rest => pass fuel .value closers rest
    | _ => none
  | _ + 1, _, [], s => some ((), s)
  | fuel + 1, expected, close :: closers, s =>
    match skipSpace s with
    | c :: rest =>
      if c = close then pass fuel .commaOrClose closers rest
      else if expected = .entryOrClose then pass fuel (.entry close) (close :: closers) (c :: rest)
      else if c = ',' then pass fuel (.entry close) (close :: closers) rest
      else none
    | [] => none

/-- Passes over a value. Every character takes at most two steps. -/
def skipValue : Reader Unit := fun s => pass (2 * s.length + 2) .value [] s

/-! ## Arrays and objects -/

def items {α : Type} (item : Nat → Reader α) (close : Char) : Nat → (position : Nat) →
    Reader (List α)
  | 0, _, _ => none
  | fuel + 1, position, s => do
    let (value, s) ← item position (skipSpace s)
    match skipSpace s with
    | c :: rest =>
      if c = close then some ([value], rest)
      else if c = ',' then
        let (values, rest) ← items item close fuel (position + 1) rest
        some (value :: values, rest)
      else none
    | [] => none

def listOf {α : Type} (item : Nat → Reader α) (close : Char) : Reader (List α) := fun s =>
  match skipSpace s with
  | c :: rest => if c = close then some ([], rest) else items item close s.length 0 s
  | [] => none

/-- A member, or none if the shape does not use it. -/
def member (shape : Shape) (value : Shape → Reader Json) : Reader (Option (String × Json)) :=
  fun s => do
    let (key, s) ← text s
    match skipSpace s with
    | ':' :: rest =>
      match shape.member? key with
      | some shape =>
        let (v, rest) ← value shape (skipSpace rest)
        some (some (key, v), rest)
      | none =>
        let (_, rest) ← skipValue rest
        some (none, rest)
    | _ => none

def value : Nat → Shape → Reader Json
  | 0, _, s => scalar s
  | levels + 1, shape, '[' :: rest =>
    (listOf (fun i => value levels (shape.item i)) ']' rest).map fun (vs, s) => (array vs, s)
  | levels + 1, shape, '\x7b' :: rest =>
    (listOf (fun _ => member shape (value levels)) '\x7d' rest).map
      fun (ms, s) => (object (ms.filterMap id), s)
  | _ + 1, _, s => scalar s

def maxLevels : Nat := 127

def readAs (shape : Shape) (s : String) : Option Json := do
  let (v, rest) ← value maxLevels shape (skipSpace s.toList)
  if skipSpace rest = [] then some v else none

def read (s : String) : Option Json := readAs .whole s

def readValue (s : String) : Option Json := (read s).map merged

end RowQuery.Json

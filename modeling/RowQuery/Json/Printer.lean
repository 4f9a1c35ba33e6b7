import RowQuery.Json.Value
import RowQuery.Number.Shortest

/-!
# JSON text, compact and indented

Strings escape the quote, the backslash and the characters below U+0020, five of them by a letter
and the others as `\u00xx`; everything else is written as it is. A binary number is written
with its shortest digits: in positions from `0.00001` up to sixteen integral digits, always with a
point, and outside that range with an exponent that carries its sign.
-/
namespace RowQuery

namespace Shortest

def zeros (n : Nat) : List Char := List.replicate n '0'

def scientific (magnitude : Nat) : List Char × Int :=
  let d := ofMagnitude magnitude
  let text := Nat.toDigits 10 d.digits
  ((text.reverse.dropWhile (· == '0')).reverse, d.exponent + text.length - 1)

def positional (digits : List Char) (power : Int) : List Char :=
  if power < 0 then ['0', '.'] ++ zeros (power.natAbs - 1) ++ digits
  else
    let width := power.toNat + 1
    if digits.length ≤ width then digits ++ zeros (width - digits.length) ++ ['.', '0']
    else digits.take width ++ ['.'] ++ digits.drop width

def exponential (digits : List Char) (power : Int) : List Char :=
  let sign := if power < 0 then '-' else '+'
  let fraction := if digits.length ≤ 1 then [] else '.' :: digits.drop 1
  digits.take 1 ++ fraction ++ ['e', sign] ++ Nat.toDigits 10 power.natAbs

def render (x : Binary64) : List Char :=
  let sign := if x.negative then ['-'] else []
  if x.magnitude = 0 then sign ++ ['0', '.', '0']
  else
    let (digits, power) := scientific x.magnitude
    sign ++ (if -5 ≤ power && power ≤ 15 then positional digits power else exponential digits power)

end Shortest

namespace Json

def escapeChar (c : Char) : List Char :=
  if c = '"' then ['\\', '"']
  else if c = '\\' then ['\\', '\\']
  else if c.toNat = 0x8 then ['\\', 'b']
  else if c.toNat = 0xc then ['\\', 'f']
  else if c = '\n' then ['\\', 'n']
  else if c = '\r' then ['\\', 'r']
  else if c = '\t' then ['\\', 't']
  else if c.toNat < 0x20 then
    ['\\', 'u', '0', '0'] ++ Nat.toDigits 16 (c.toNat / 16) ++ Nat.toDigits 16 (c.toNat % 16)
  else [c]

def quoted (s : String) : String :=
  String.ofList ('"' :: s.toList.flatMap escapeChar ++ ['"'])

def numberText : Number → String
  | .int n => toString n.value
  | .float x => String.ofList (Shortest.render x)

mutual
def compact : Json → String
  | null => "null"
  | bool b => if b then "true" else "false"
  | number n => numberText n
  | string s => quoted s
  | array items => "[" ++ compactItems items ++ "]"
  | object members => "\x7b" ++ compactMembers members ++ "\x7d"

def compactItems : List Json → String
  | [] => ""
  | [item] => compact item
  | item :: rest => compact item ++ "," ++ compactItems rest

def compactMembers : List (String × Json) → String
  | [] => ""
  | [(key, value)] => quoted key ++ ":" ++ compact value
  | (key, value) :: rest => quoted key ++ ":" ++ compact value ++ "," ++ compactMembers rest
end

def newline (depth : Nat) : String := "\n" ++ String.ofList (List.replicate (2 * depth) ' ')

mutual
/-- Two spaces for each level; an empty array or object stays on its line. -/
def pretty (depth : Nat) : Json → String
  | array [] => "[]"
  | array items => "[" ++ prettyItems (depth + 1) items ++ newline depth ++ "]"
  | object [] => "\x7b\x7d"
  | object members => "\x7b" ++ prettyMembers (depth + 1) members ++ newline depth ++ "\x7d"
  | other => compact other

def prettyItems (depth : Nat) : List Json → String
  | [] => ""
  | [item] => newline depth ++ pretty depth item
  | item :: rest => newline depth ++ pretty depth item ++ "," ++ prettyItems depth rest

def prettyMembers (depth : Nat) : List (String × Json) → String
  | [] => ""
  | [(key, value)] => newline depth ++ quoted key ++ ": " ++ pretty depth value
  | (key, value) :: rest =>
    newline depth ++ quoted key ++ ": " ++ pretty depth value ++ "," ++ prettyMembers depth rest
end

end Json
end RowQuery

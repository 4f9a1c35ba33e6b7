/-!
# Places in a YAML text

The structure of a YAML text hangs on lines and columns, so a cursor keeps both beside the text that
is left. Line ends of every kind are one line feed by then, but for the two separators U+2028 and
U+2029, which also end a line and stay what they are.
-/
namespace RowQuery.Yaml

def isBreak (c : Char) : Bool := c = '\n' || c.toNat = 0x2028 || c.toNat = 0x2029

def isBlank (c : Char) : Bool := c = ' ' || c = '\t'

def isSpace (c : Char) : Bool := isBlank c || isBreak c

/-- Whether an indicator that stood before this text stood alone. -/
def endsWord : List Char → Bool
  | [] => true
  | c :: _ => isSpace c

def isPrintable (c : Char) : Bool :=
  let n := c.toNat
  c = '\t' || c = '\n' || c = '\r' || (0x20 ≤ n && n ≤ 0x7e) || n = 0x85 ||
    (0xa0 ≤ n && n ≤ 0xfffd) || 0x10000 ≤ n

def isByteOrderMark (c : Char) : Bool := c.toNat = 0xfeff

def normalBreaks : List Char → List Char
  | '\r' :: '\n' :: rest => '\n' :: normalBreaks rest
  | c :: rest => (if c = '\r' || c.toNat = 0x85 then '\n' else c) :: normalBreaks rest
  | [] => []

structure Place where
  line : Nat := 0
  column : Nat := 0
  bytes : Nat := 0
deriving DecidableEq, Repr

def Place.past (p : Place) (c : Char) : Place :=
  if isBreak c then ⟨p.line + 1, 0, p.bytes + c.utf8Size⟩
  else ⟨p.line, p.column + 1, p.bytes + c.utf8Size⟩

structure Cursor where
  place : Place := {}
  rest : List Char
deriving DecidableEq, Repr

abbrev Reader (α : Type) := Cursor → Option (α × Cursor)

namespace Cursor

def column (here : Cursor) : Nat := here.place.column

def isEnd (here : Cursor) : Bool := here.rest.isEmpty

def drop (n : Nat) (here : Cursor) : Cursor :=
  ⟨(here.rest.take n).foldl Place.past here.place, here.rest.drop n⟩

def span (p : Char → Bool) (here : Cursor) : List Char × Cursor :=
  let found := here.rest.takeWhile p
  (found, here.drop found.length)

def skipBlanks (here : Cursor) : Cursor := (here.span isBlank).2

def startsWith (here : Cursor) (c : Char) : Bool := here.rest.head? = some c

def startsWord (here : Cursor) (word : String) : Bool :=
  word.toList.isPrefixOf here.rest && endsWord (here.rest.drop word.length)

def atMarker (here : Cursor) : Bool :=
  here.column = 0 && (here.startsWord "---" || here.startsWord "...")

end Cursor
end RowQuery.Yaml

import RowQuery.Yaml.Scalar
import RowQuery.Yaml.Token.Name

/-!
# Reading the tokens of a YAML text

The reader keeps the columns of the block collections that are open, and for the block and every
open flow collection the last place where a key might have begun. A colon makes a key of what stands
since that place, if that is on the same line and at most 1024 bytes before; the tokens for it are
then put in where it began. Where a block entry stands in the column of its collection such a key
is required, and one that its colon does not reach is an error.

A block collection may begin, and a dash, a question mark or a colon may stand, only where a new
entry may: at the front of a line, behind another such mark, or behind a flow collection's opening
bracket or comma.
-/
namespace RowQuery.Yaml

structure KeyStart where
  position : Nat
  place : Place
  required : Bool
deriving DecidableEq, Repr

structure Lexer where
  here : Cursor
  found : Array Token := #[]
  /-- The columns of the open block collections, the innermost first. -/
  columns : List Nat := []
  keyStart : Option KeyStart := none
  /-- The same for what is around each open flow collection, the innermost first. -/
  outerStarts : List (Option KeyStart) := []
  entryAllowed : Bool := true
deriving Repr

namespace Lexer

def inFlow (s : Lexer) : Bool := !s.outerStarts.isEmpty

def least (s : Lexer) : Nat := s.columns.head?.elim 0 (· + 1)

/-! ## Between tokens -/

/-- Goes past blanks, comments and line ends. In block context a tab is no blank where an entry may
begin, and a line end lets one begin. -/
def skipFrom (flow allowed comment : Bool) (place : Place) : List Char → Bool × Cursor
  | [] => (allowed, ⟨place, []⟩)
  | c :: rest =>
    if isBreak c then skipFrom flow (allowed || !flow) false (place.past c) rest
    else if comment || c = '#' then skipFrom flow allowed true (place.past c) rest
    else if c = ' ' || (c = '\t' && (flow || !allowed)) ||
        (place.column = 0 && isByteOrderMark c) then
      skipFrom flow allowed false (place.past c) rest
    else (allowed, ⟨place, c :: rest⟩)

def skip (s : Lexer) : Lexer :=
  let (allowed, here) := skipFrom s.inFlow s.entryAllowed false s.here.place s.here.rest
  { s with here, entryAllowed := allowed }

def maxKeyBytes : Nat := 1024

def KeyStart.isStale (here : Place) (k : KeyStart) : Bool :=
  k.place.line < here.line || k.place.bytes + maxKeyBytes < here.bytes

def refresh? (here : Place) : Option KeyStart → Option (Option KeyStart)
  | none => some none
  | some k => if KeyStart.isStale here k then if k.required then none else some none else some (some k)

def forgetStale (s : Lexer) : Option Lexer := do
  let keyStart ← refresh? s.here.place s.keyStart
  let outerStarts ← s.outerStarts.mapM (refresh? s.here.place)
  some { s with keyStart, outerStarts }

def closeTo (least : Nat) (s : Lexer) : Lexer :=
  if s.inFlow then s
  else
    let closed := s.columns.takeWhile (least ≤ ·)
    { s with
      columns := s.columns.drop closed.length
      found := s.found ++ closed.map fun _ => Token.blockEnd }

/-! ## Keys -/

def dropKeyStart (s : Lexer) : Option Lexer :=
  if s.keyStart.any KeyStart.required then none else some { s with keyStart := none }

def markKeyStart (s : Lexer) : Option Lexer :=
  if s.entryAllowed then do
    let required := !s.inFlow && s.columns.head? = some s.here.column
    let s ← s.dropKeyStart
    some { s with keyStart := some ⟨s.found.size, s.here.place, required⟩ }
  else some s

/-- Opens a block collection in a column that is deeper than those that are open; its token comes
after the first `position` tokens. -/
def openAt (column position : Nat) (token : Token) (s : Lexer) : Lexer :=
  if s.inFlow || column < s.least then s
  else
    { s with
      columns := column :: s.columns
      found := s.found.insertIdxIfInBounds position token }

def push (length : Nat) (token : Token) (s : Lexer) : Lexer :=
  { s with here := s.here.drop length, found := s.found.push token }

def pushRead (entryAllowed : Bool) (s : Lexer) : Option (Token × Cursor) → Option Lexer :=
  Option.map fun (token, here) => { s with here, found := s.found.push token, entryAllowed }

/-! ## Marks -/

def entryMark (token collection : Token) (s : Lexer) : Option Lexer := do
  if !s.inFlow && !s.entryAllowed then none
  else
    let s ← (s.openAt s.here.column s.found.size collection).dropKeyStart
    some { s.push 1 token with entryAllowed := token = .entry || !s.inFlow }

def colon (s : Lexer) : Option Lexer :=
  match s.keyStart with
  | some k =>
    let s := { s with found := s.found.insertIdxIfInBounds k.position .key }
    let s := s.openAt k.place.column k.position .mappingStart
    some { s.push 1 .value with keyStart := none, entryAllowed := false }
  | none =>
    if s.inFlow then some { s.push 1 .value with entryAllowed := false }
    else if s.entryAllowed then
      some ((s.openAt s.here.column s.found.size .mappingStart).push 1 .value)
    else none

def flowStart (token : Token) (s : Lexer) : Option Lexer := do
  let s ← s.markKeyStart
  some { s.push 1 token with
    keyStart := none, outerStarts := s.keyStart :: s.outerStarts, entryAllowed := true }

def flowEnd (token : Token) (s : Lexer) : Option Lexer := do
  let s ← s.dropKeyStart
  let s := { s.push 1 token with entryAllowed := false }
  match s.outerStarts with
  | keyStart :: outerStarts => some { s with keyStart, outerStarts }
  | [] => some s

def comma (s : Lexer) : Option Lexer := do
  some { (← s.dropKeyStart).push 1 .comma with entryAllowed := true }

def documentMark (read : Reader Token) (s : Lexer) : Option Lexer := do
  let s ← (s.closeTo 0).dropKeyStart
  s.pushRead false (read s.here)

def marker (token : Token) : Reader Token := fun here => some (token, here.drop 3)

/-! ## Nodes -/

def property (read : Reader Token) (s : Lexer) : Option Lexer := do
  let s ← s.markKeyStart
  s.pushRead false (read s.here)

def scalarToken (isPlain : Bool) : List Char × Cursor → Token × Cursor
  | (text, next) => (.scalar isPlain (String.ofList text), next)

def quotedScalar (read : Reader (List Char)) (s : Lexer) : Option Lexer :=
  s.property fun here => (read here).map (scalarToken false)

def blockScalar (fuel : Nat) (s : Lexer) : Option Lexer := do
  let s ← s.dropKeyStart
  s.pushRead true ((block fuel s.least s.here).map (scalarToken false))

def plainScalar (fuel : Nat) (s : Lexer) : Option Lexer := do
  let s ← s.markKeyStart
  let ((text, lineEnds), next) ← plain fuel s.inFlow s.least s.here
  s.pushRead lineEnds (some (scalarToken true (text, next)))

/-- The next token, at a character that is no blank; `fuel` is more than the characters left. -/
def next (fuel : Nat) (s : Lexer) : Option Lexer :=
  match s.here.rest with
  | [] => none
  | c :: rest =>
    let alone := s.inFlow || endsWord rest
    if s.here.column = 0 && c = '%' then s.documentMark directive
    else if s.here.atMarker then
      s.documentMark (marker (if c = '-' then .documentStart else .documentEnd))
    else if c = '[' then s.flowStart .flowSequenceStart
    else if c = '\x7b' then s.flowStart .flowMappingStart
    else if c = ']' then s.flowEnd .flowSequenceEnd
    else if c = '\x7d' then s.flowEnd .flowMappingEnd
    else if c = ',' then s.comma
    else if c = '-' && endsWord rest then s.entryMark .entry .sequenceStart
    else if c = '?' && alone then s.entryMark .key .mappingStart
    else if c = ':' && alone then s.colon
    else if c = '*' then
      s.property fun mark => (anchorName mark).map fun (name, next) => (.reference name, next)
    else if c = '&' then
      s.property fun mark => (anchorName mark).map fun (name, next) => (.anchor name, next)
    else if c = '!' then s.property (tag s.inFlow)
    else if (c = '|' || c = '>') && !s.inFlow then s.blockScalar fuel
    else if c = '\'' then s.quotedScalar (singleQuoted fuel)
    else if c = '"' then s.quotedScalar (doubleQuoted fuel)
    else if startsPlain s.inFlow s.here.rest then s.plainScalar fuel
    else none

def run : Nat → Lexer → Option (List Token)
  | 0, _ => none
  | fuel + 1, s => do
    let s ← s.skip.forgetStale
    if s.here.isEnd then (s.closeTo 0).dropKeyStart.map fun s => s.found.toList
    else run fuel (← (s.closeTo (s.here.column + 1)).next (fuel + 1))

end Lexer

/-- The tokens of a text whose line ends are normal. Every token takes a character. -/
def tokens? (text : List Char) : Option (List Token) :=
  Lexer.run (text.length + 1) { here := { rest := text } }

end RowQuery.Yaml

import RowQuery.Number.Hexadecimal
import RowQuery.Yaml.Cursor

/-!
# Scalars in YAML text

A scalar is plain, in single or double quotes, or a block. A plain or quoted scalar may run over
several lines: one line end between two parts stands for a space, and of more the first is dropped.
The readers take fuel, which must be more than the number of characters that are left.
-/
namespace RowQuery.Yaml

def prepend (cs : List Char) (read : Option (List Char × Cursor)) : Option (List Char × Cursor) :=
  read.map fun (more, after) => (cs ++ more, after)

def fold (gap : List Char) : List Char :=
  match gap.filter isBreak with
  | [] => gap
  | [b] => if b = '\n' then [' '] else [b]
  | b :: more => if b = '\n' then more else b :: more

def gapAt (here : Cursor) : List Char := here.rest.takeWhile isSpace

/-! ## Quoted scalars -/

def singleTail : Nat → Reader (List Char)
  | 0, _ => none
  | fuel + 1, here =>
    let gap := gapAt here
    let here := here.drop gap.length
    if here.atMarker then none
    else
      match here.rest with
      | [] => none
      | '\'' :: '\'' :: _ => prepend (fold gap ++ ['\'']) (singleTail fuel (here.drop 2))
      | '\'' :: _ => some (fold gap, here.drop 1)
      | c :: _ => prepend (fold gap ++ [c]) (singleTail fuel (here.drop 1))

def singleQuoted (fuel : Nat) : Reader (List Char) := fun here => singleTail fuel (here.drop 1)

def escape : List Char → Option (Char × Nat)
  | [] => none
  | c :: rest =>
    match c with
    | '0' => some (Char.ofNat 0x0, 1)
    | 'a' => some (Char.ofNat 0x7, 1)
    | 'b' => some (Char.ofNat 0x8, 1)
    | 't' | '\t' => some ('\t', 1)
    | 'n' => some ('\n', 1)
    | 'v' => some (Char.ofNat 0xb, 1)
    | 'f' => some (Char.ofNat 0xc, 1)
    | 'r' => some ('\r', 1)
    | 'e' => some (Char.ofNat 0x1b, 1)
    | ' ' | '"' | '/' | '\\' => some (c, 1)
    | 'N' => some (Char.ofNat 0x85, 1)
    | '_' => some (Char.ofNat 0xa0, 1)
    | 'L' => some (Char.ofNat 0x2028, 1)
    | 'P' => some (Char.ofNat 0x2029, 1)
    | 'x' => (Hexadecimal.char? 2 rest).map fun (c, _) => (c, 3)
    | 'u' => (Hexadecimal.char? 4 rest).map fun (c, _) => (c, 5)
    | 'U' => (Hexadecimal.char? 8 rest).map fun (c, _) => (c, 9)
    | _ => none

/-- After an escaped line end only the line ends of the gap count, and all of them. -/
def doubleTail : Nat → (escapedBreak : Bool) → Reader (List Char)
  | 0, _, _ => none
  | fuel + 1, escapedBreak, here =>
    let gap := gapAt here
    let folded := if escapedBreak then gap.filter isBreak else fold gap
    let here := here.drop gap.length
    if here.atMarker then none
    else
      match here.rest with
      | [] => none
      | '"' :: _ => some (folded, here.drop 1)
      | '\\' :: rest =>
        if rest.head?.any isBreak then prepend folded (doubleTail fuel true (here.drop 2))
        else do
          let (c, length) ← escape rest
          prepend (folded ++ [c]) (doubleTail fuel false (here.drop (length + 1)))
      | c :: _ => prepend (folded ++ [c]) (doubleTail fuel false (here.drop 1))

def doubleQuoted (fuel : Nat) : Reader (List Char) := fun here =>
  doubleTail fuel false (here.drop 1)

/-! ## Plain scalars -/

def indicators : List Char := "-?:,[]\x7b\x7d#&*!|>'\"%@\x60".toList

def flowIndicators : List Char := ",[]\x7b\x7d".toList

def startsPlain (flow : Bool) : List Char → Bool
  | [] => false
  | c :: rest =>
    !isSpace c &&
      (!indicators.contains c ||
        ((c = '-' || (!flow && (c = '?' || c = ':'))) && !endsWord rest))

def tabIntrudes (least : Nat) (place : Place) : Bool → List Char → Bool
  | _, [] => false
  | leading, c :: rest =>
    (leading && c = '\t' && place.column < least) ||
      tabIntrudes least (place.past c) (leading || isBreak c) rest

def plainTail (flow : Bool) (least : Nat) : Nat → Reader (List Char)
  | 0, _ => none
  | fuel + 1, here =>
    let gap := gapAt here
    let next := here.drop gap.length
    if tabIntrudes least here.place false gap then none
    else
      match next.rest with
      | [] => some ([], here)
      | c :: rest =>
        if (!gap.isEmpty && c = '#') || next.atMarker ||
            (gap.any isBreak && !flow && next.column < least) then some ([], here)
        else if flow && c = ':' && rest.head?.any ("?,[]\x7b\x7d".toList.contains ·) then none
        else if (c = ':' && endsWord rest) || (flow && flowIndicators.contains c) then
          some ([], here)
        else prepend (fold gap ++ [c]) (plainTail flow least fuel (next.drop 1))

/-- A plain scalar, and whether a line ends behind it; the gap after it is passed too. -/
def plain (fuel : Nat) (flow : Bool) (least : Nat) : Reader (List Char × Bool) := fun here => do
  let (text, next) ← plainTail flow least fuel here
  let gap := gapAt next
  some ((text, gap.any isBreak), next.drop gap.length)

/-! ## Block scalars -/

inductive Chomping
  | strip
  | clip
  | keep
deriving DecidableEq, Repr

structure Header where
  folded : Bool
  chomping : Chomping := .clip
  indentation : Option Nat := none
deriving DecidableEq, Repr

def Header.indicator? (h : Header) (c : Char) : Option Header :=
  if c = '+' && h.chomping = .clip then some { h with chomping := .keep }
  else if c = '-' && h.chomping = .clip then some { h with chomping := .strip }
  else if '1' ≤ c && c ≤ '9' && h.indentation.isNone then
    some { h with indentation := some (c.toNat - 0x30) }
  else none

def header? (folded : Bool) (line : List Char) : Option Header := do
  let word := line.takeWhile fun c => !isBlank c && c != '#'
  let tail := (line.drop word.length).dropWhile isBlank
  if tail.isEmpty || tail.head? = some '#' then word.foldlM Header.indicator? { folded } else none

/-- The line ends before the next line with content, and the widest indentation of those lines. -/
def emptyLines (least : Option Nat) : Nat → (widest : Nat) → Cursor →
    Option (List Char × Nat × Cursor)
  | 0, _, _ => none
  | fuel + 1, widest, here =>
    let spaces := here.rest.takeWhile (· == ' ')
    let width := least.elim spaces.length fun n => min n spaces.length
    let next := here.drop width
    let widest := max widest width
    match next.rest with
    | [] => some ([], widest, next)
    | c :: _ =>
      if c = '\t' && least.all (next.column < ·) then none
      else if isBreak c then
        (emptyLines least fuel widest (next.drop 1)).map fun (breaks, found) => (c :: breaks, found)
      else some ([], widest, next)

def blockTail (h : Header) (indentation : Nat) : Nat → (afterBlank : Bool) →
    (ending trailing : List Char) → Reader (List Char)
  | 0, _, _, _, _ => none
  | fuel + 1, afterBlank, ending, trailing, here =>
    if here.isEnd || here.column ≠ indentation then
      some ((if h.chomping = .strip then [] else ending) ++
        (if h.chomping = .keep then trailing else []), here)
    else do
      let blank := here.rest.head?.any isBlank
      let joint :=
        if h.folded && ending = ['\n'] && !afterBlank && !blank then
          if trailing.isEmpty then [' '] else []
        else ending
      let line := here.rest.takeWhile fun c => !isBreak c
      let next := here.drop line.length
      let ending := next.rest.take 1
      let (breaks, _, next) ← emptyLines (some indentation) fuel 0 (next.drop 1)
      prepend (joint ++ trailing ++ line) (blockTail h indentation fuel blank ending breaks next)

def block (fuel least : Nat) : Reader (List Char) := fun here => do
  let line := here.rest.takeWhile fun c => !isBreak c
  let h ← header? (here.startsWith '>') (line.drop 1)
  let next := here.drop (line.length + 1)
  match h.indentation with
  | some n =>
    let indentation := least - 1 + n
    let (breaks, _, next) ← emptyLines (some indentation) fuel 0 next
    blockTail h indentation fuel false [] breaks next
  | none =>
    let (breaks, widest, next) ← emptyLines none fuel 0 next
    blockTail h (max widest (max least 1)) fuel false [] breaks next

end RowQuery.Yaml

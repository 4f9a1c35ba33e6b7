import RowQuery.Text.Split
import RowQuery.Yaml.Quoted

/-!
# Writing texts in YAML

A key is plain or in double quotes. A value of one line is plain where it can be, and stands folded
on lines of its own if it has more than 80 bytes; a value of several lines is a literal block where
it would be plain as one line. A block has a mark that tells how many line ends it has at its end,
and every line of it, the empty ones too, has the block's indentation.
-/
namespace RowQuery.Yaml

inductive Style
  | plain
  | singleQuoted
  | doubleQuoted
  | folded
  | literal
deriving DecidableEq, Repr

def maxPlainBytes : Nat := 80

def maxColumns : Nat := 80

def withoutFinalBreaks (s : List Char) : List Char :=
  (s.reverse.dropWhile (· == '\n')).reverse

def joined (s : List Char) : List Char :=
  (withoutFinalBreaks s).map fun c => if c = '\n' then ' ' else c

def Style.ofValue (s : List Char) : Style :=
  if [['-'], ['#'], ['.']].contains s then .singleQuoted
  else if s.contains '\n' then if Plain.isValue (joined s) then .literal else .doubleQuoted
  else if !Plain.isValue s then .doubleQuoted
  else if (String.ofList s).utf8ByteSize ≤ maxPlainBytes then .plain
  else .folded

/-! ## Blocks -/

def canBreak (c : Char) (rest : List Char) : Bool := c = ' ' && rest.head?.any (· != ' ')

/-- Cuts a line where it runs past the last column, at the latest space before that has no space
behind it. `line` holds what stands before that space, and `tail` what was read after it, both from
the end on. Columns count from the character that ran past. -/
def foldFrom (line : Option (List Char)) (tail : List Char) (column : Nat) :
    List Char → List (List Char)
  | [] => [(tail ++ line.elim [] (' ' :: ·)).reverse]
  | c :: rest =>
    let breaks := canBreak c rest
    let line := if breaks then some (tail ++ line.elim [] (' ' :: ·)) else line
    let tail := if breaks then [] else c :: tail
    if column < maxColumns then foldFrom line tail (column + 1) rest
    else
      match line with
      | some line => line.reverse :: foldFrom none tail 0 rest
      | none => foldFrom none tail (column + 1) rest

def foldLines (s : List Char) : List (List Char) := foldFrom none [] 0 s

def literalMark (s : List Char) : List Char :=
  match s.length - (withoutFinalBreaks s).length with
  | 0 => ['|', '-']
  | 1 => ['|']
  | _ => ['|', '+']

def withoutFinalBreak (s : List Char) : List Char :=
  if s.getLast? = some '\n' then s.dropLast else s

def literalLines (s : List Char) : List (List Char) := Text.splitBy (· == '\n') (withoutFinalBreak s)

def blockText (indentation : Nat) (mark : List Char) (lines : List (List Char)) : List Char :=
  mark ++ lines.flatMap fun line => '\n' :: List.replicate indentation ' ' ++ line

/-! ## Keys and values -/

def writeKey (s : String) : String :=
  let s := s.toList
  String.ofList (if Plain.isKey s then s else Quoted.key s)

def writeValue (indentation : Nat) (s : String) : String :=
  let s := s.toList
  String.ofList <| match Style.ofValue s with
    | .plain => s
    | .singleQuoted => '\'' :: s ++ ['\'']
    | .doubleQuoted => Quoted.value s
    | .folded => blockText indentation ['>', '-'] (foldLines s)
    | .literal => blockText indentation (literalMark s) (literalLines s)

end RowQuery.Yaml

import RowQuery.Number.Hexadecimal
import RowQuery.Number.Literal
import RowQuery.Settings.Tree
import RowQuery.Text.Blank

/-!
# Settings from environment variables

A variable counts if its name begins with `ODATA_ADAPT__`, in either case. What follows, in lower
case, is a path: two underscores or a point separate its keys, and a name with an empty key is
ignored. A value is read as a boolean, an integer, a number with a point, a quoted text, a list in
brackets or a dictionary in braces. A value that is none of these, or goes on after one, is a text.
-/
namespace RowQuery.Environment

/-! ## Names -/

def namePrefix : List Char := "odata_adapt__".toList

def pointed : List Char → List Char
  | '_' :: '_' :: rest => '.' :: pointed rest
  | c :: rest => c :: pointed rest
  | [] => []

def path? (name : String) : Option (List String) :=
  let name := (Text.trim name.toList).map Char.toLower
  if namePrefix.isPrefixOf name then
    let keys := Text.splitBy (· == '.') (Text.trim (pointed (name.drop namePrefix.length)))
    if keys.any List.isEmpty then none else some (keys.map String.ofList)
  else none

/-! ## Values -/

abbrev Reader (α : Type) := List Char → Option (α × List Char)

def isSpace (c : Char) : Bool :=
  c = ' ' || c = '\t' || c = '\n' || c = '\r' || c = Char.ofNat 0xc

def skipSpace (s : List Char) : List Char := s.dropWhile isSpace

def isSeparator (c : Char) : Bool := [',', '\x7b', '\x7d', '[', ']'].contains c

def isKeyChar (c : Char) : Bool := c.isAlphanum || c = '_' || c = '-'

def escape : Reader Char
  | '"' :: rest => some ('"', rest)
  | '\\' :: rest => some ('\\', rest)
  | 'b' :: rest => some (Char.ofNat 0x8, rest)
  | 'f' :: rest => some (Char.ofNat 0xc, rest)
  | 'n' :: rest => some ('\n', rest)
  | 'r' :: rest => some ('\r', rest)
  | 't' :: rest => some ('\t', rest)
  | 'u' :: rest => Hexadecimal.char? 4 rest
  | 'U' :: rest => Hexadecimal.char? 8 rest
  | _ => none

def isLegal (c : Char) : Bool := c = '\t' || (0x20 ≤ c.toNat && c.toNat ≠ 0x7f)

def quotedTail : Nat → Reader (List Char)
  | 0, _ => none
  | _, [] => none
  | fuel + 1, c :: rest =>
    if c = '"' then some ([], rest)
    else if c = '\\' then do
      let (decoded, rest) ← escape rest
      let (tail, rest) ← quotedTail fuel rest
      some (decoded :: tail, rest)
    else if isLegal c then do
      let (tail, rest) ← quotedTail fuel rest
      some (c :: tail, rest)
    else none

def quoted (s : List Char) : Option (String × List Char) :=
  (quotedTail s.length.succ s).map fun (cs, rest) => (String.ofList cs, rest)

def unsignedInt? : List Char → Option Int
  | '+' :: digits => natural digits
  | digits => natural digits
where
  natural (digits : List Char) : Option Int :=
    (Decimal.natural? digits).bind fun n => if n < UInt64.size then some (n : Int) else none

def negativeInt? : List Char → Option Int
  | '-' :: digits =>
    (Decimal.natural? digits).bind fun n => if n ≤ 0x8000000000000000 then some (-(n : Int)) else none
  | _ => none

def wordValue (word : List Char) : Tree :=
  if word.contains '.' && (Literal.read? word).isSome then .fraction
  else
    match (unsignedInt? word).or (negativeInt? word) with
    | some n => .int n
    | none => .text (String.ofList word)

def word (s : List Char) : Tree × List Char :=
  let (word, rest) := s.span fun c => !isSeparator c
  (wordValue (Text.trim word), rest)

def items {α : Type} (item : Reader α) (close : Char) : Nat → Reader (List α)
  | 0, _ => none
  | fuel + 1, s =>
    if s.head? = some close then some ([], s.drop 1)
    else do
      let (value, s) ← item s
      match s with
      | c :: rest =>
        if c = ',' then
          let (values, rest) ← items item close fuel rest
          some (value :: values, rest)
        else if c = close then some ([value], rest)
        else none
      | [] => none

def key : Reader String
  | '"' :: rest => quoted rest
  | s =>
    match s.span isKeyChar with
    | ([], _) => none
    | (key, rest) => some (String.ofList key, rest)

def entry (value : Reader Tree) : Reader (String × Tree) := fun s => do
  let (key, s) ← key (skipSpace s)
  match skipSpace s with
  | '=' :: rest =>
    let (v, rest) ← value rest
    some ((key, v), rest)
  | _ => none

def spaced {α : Type} (inner : Reader α) : Reader α := fun s =>
  (inner (skipSpace s)).map fun (a, rest) => (a, skipSpace rest)

def value : Nat → Reader Tree
  | 0, _ => none
  | levels + 1, s =>
    if "true".toList.isPrefixOf s then some (.bool true, s.drop 4)
    else if "false".toList.isPrefixOf s then some (.bool false, s.drop 5)
    else
      match s with
      | '[' :: rest =>
        (items (spaced (value levels)) ']' s.length rest).map fun (vs, rest) => (.list vs, rest)
      | '\x7b' :: rest =>
        (items (entry (spaced (value levels))) '\x7d' s.length rest).map fun (es, rest) =>
          (.dict (mergeMembers es), rest)
      | '"' :: rest => (quoted rest).map fun (text, rest) => (.text text, rest)
      | '\'' :: c :: '\'' :: rest => some (.text c.toString, rest)
      | '\'' :: _ => none
      | _ => some (word s)

def read (s : String) : Tree :=
  match spaced (value (s.length + 1)) s.toList with
  | some (v, []) => v
  | _ => .text s

def trees (environment : List (String × String)) : List Tree :=
  environment.filterMap fun (name, value) => (path? name).map fun path => .nest path (read value)

def tree (environment : List (String × String)) : Tree := Tree.mergeAll (trees environment)

end RowQuery.Environment

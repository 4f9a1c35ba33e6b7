import RowQuery.Number.Literal
import RowQuery.Settings.Tree
import RowQuery.Yaml.Document

/-!
# Settings from a YAML document

Only a plain scalar can be anything but a text: nothing, a boolean, an integer of at most 128 bits
or a finite number, and a text if it is none of these. Digits that begin with a zero are a text. A
standard tag fixes the kind of a scalar. A local tag makes of any node a dictionary with the tag's
name as its only key. A key is the text of its scalar, and of equal keys the last counts. An empty
document is an empty dictionary.

Collections nest at most 128 deep, and aliases are followed at most a hundred times for every node.
-/
namespace RowQuery.Yaml

def standardTag (kind : String) : String := standardPrefix ++ kind

def localName? (tag : String) : Option String :=
  match tag.toList with
  | '!' :: name => some (String.ofList name)
  | _ => none

def isNull (s : String) : Bool := ["null", "Null", "NULL", "~"].contains s

def bool? (s : String) : Option Bool :=
  if ["true", "True", "TRUE"].contains s then some true
  else if ["false", "False", "FALSE"].contains s then some false
  else none

/-! ## Numbers -/

def valueIn? (base : Nat) (digits : List Char) : Option Nat :=
  if digits.isEmpty then none
  else
    digits.foldlM (fun n c =>
      (Hexadecimal.digit? c).bind fun d => if d < base then some (base * n + d) else none) 0

/-- The digits of an integer with or without a mark of its base; none for a mere run of digits that
begins with a zero. -/
def natural? : List Char → Option Nat
  | '0' :: 'x' :: digits => valueIn? 16 digits
  | '0' :: 'o' :: digits => valueIn? 8 digits
  | '0' :: 'b' :: digits => valueIn? 2 digits
  | '0' :: _ :: _ => none
  | digits => valueIn? 10 digits

def int? (s : List Char) : Option Int :=
  match s with
  | '-' :: digits =>
    (natural? digits).bind fun n => if n ≤ Nat.pow 2 127 then some (-(n : Int)) else none
  | '+' :: digits => unsigned digits
  | digits => unsigned digits
where
  unsigned (digits : List Char) : Option Int :=
    (natural? digits).bind fun n => if n < Nat.pow 2 128 then some (n : Int) else none

def isZeroLed (s : List Char) : Bool :=
  match Literal.unsigned s with
  | '0' :: c :: rest => (c :: rest).all Decimal.isDigit
  | _ => false

def isSpecial (s : List Char) : Bool :=
  [".inf", ".Inf", ".INF", "+.inf", "+.Inf", "+.INF", "-.inf", "-.Inf", "-.INF", ".nan", ".NaN",
    ".NAN"].contains (String.ofList s)

def isFraction (s : List Char) : Bool := isSpecial s || (Literal.read? s).any Literal.isFinite

/-! ## Scalars and collections -/

def plainTree (s : String) : Tree :=
  if s.isEmpty || isNull s then .empty
  else
    match bool? s, int? s.toList with
    | some b, _ => .bool b
    | none, some n => .int n
    | none, none =>
      if !isZeroLed s.toList && isFraction s.toList then .fraction else .text s

def taggedTree? (tag s : String) : Option Tree :=
  if tag = standardTag "bool" then (bool? s).map .bool
  else if tag = standardTag "int" then (int? s.toList).map .int
  else if tag = standardTag "float" then if isFraction s.toList then some .fraction else none
  else if tag = standardTag "null" then if isNull s then some .empty else none
  else some (.text s)

def scalarTree? (tag : Option String) (isPlain : Bool) (s : String) : Option Tree :=
  match tag with
  | some tag => taggedTree? tag s
  | none => some (if isPlain then plainTree s else .text s)

/-- A node is read with a count of the aliases that may still be followed. -/
abbrev Following (α : Type) := StateT Nat Option α

def follow (anchored : Anchored) : Node Nat → Following (Node Nat)
  | .reference n => do
    match ← get, anchored.reverse.lookup n with
    | left + 1, some node =>
      set left
      pure node
    | _, _ => failure
  | node => pure node

def keyText (anchored : Anchored) (key : Node Nat) : Following String := do
  match ← follow anchored key with
  | .scalar _ _ text => pure text
  | _ => failure

def entriesTree (anchored : Anchored) (inner : Node Nat → Following Tree)
    (entries : List (Node Nat × Node Nat)) : Following Tree := do
  let entries ← entries.mapM fun (key, value) => do
    let key ← keyText anchored key
    pure (key, ← inner value)
  pure (.dict (mergeMembers entries))

/-- A node without regard to its local tag; collections need a reader of what is in them. -/
def untagged (anchored : Anchored) (inner : Option (Node Nat → Following Tree))
    (tag : Option String) : Node Nat → Following Tree
  | .scalar _ isPlain text => StateT.lift (scalarTree? tag isPlain text)
  | .sequence _ items => do
    let inner ← StateT.lift inner
    pure (.list (← items.mapM inner))
  | .mapping _ entries => do
    let inner ← StateT.lift inner
    entriesTree anchored inner entries
  | .reference _ => failure

def treeWith (anchored : Anchored) (inner : Option (Node Nat → Following Tree))
    (node : Node Nat) : Following Tree := do
  let node ← follow anchored node
  let tag := node.properties.tag
  match tag.bind localName? with
  | some name => pure (.dict [(name, ← untagged anchored inner none node)])
  | none => untagged anchored inner tag node

def treeOf (anchored : Anchored) : Nat → Node Nat → Following Tree
  | 0 => treeWith anchored none
  | levels + 1 => treeWith anchored (some (treeOf anchored levels))

def maxDepth : Nat := 128

def aliasesPerNode : Nat := 100

def Document.dictionary? (d : Document) : Option Tree :=
  match d.root with
  | .mapping _ entries =>
    (entriesTree d.anchored (treeOf d.anchored (maxDepth - 1)) entries).run'
      (aliasesPerNode * d.root.size)
  | .scalar _ isPlain text => if isPlain && text.isEmpty then some (.dict []) else none
  | _ => none

end RowQuery.Yaml

namespace RowQuery.Tree

def ofYaml? (text : String) : Option Tree :=
  (Yaml.document? text).bind Yaml.Document.dictionary?

end RowQuery.Tree

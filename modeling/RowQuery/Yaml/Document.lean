import RowQuery.Yaml.Anchor
import RowQuery.Yaml.Node.Parser
import RowQuery.Yaml.Token.Lexer

/-!
# Documents

A text holds one document, or none at all. Three dashes may come before it, after lines with the
version and the handles of tags, and three points behind it.
-/
namespace RowQuery.Yaml

structure Document where
  root : Node Nat
  anchored : Anchored := []

/-- Nodes nest at most so deep, the scalars included. -/
def maxLevels : Nat := 129

def standardPrefix : String := "tag:yaml.org,2002:"

def standardHandles : Handles := [("!", "!"), ("!!", standardPrefix)]

/-- The handles of the directives before a document; at most one of them is a version. -/
def directives : (versioned : Bool) → TokenReader Handles
  | versioned, .version major minor :: rest =>
    if versioned || major ≠ 1 || (minor ≠ 1 && minor ≠ 2) then none else directives true rest
  | versioned, .handle name expansion :: rest => do
    let (handles, rest) ← directives versioned rest
    if (handles.lookup name).isSome then none else some ((name, expansion) :: handles, rest)
  | _, tokens => some ([], tokens)

def endsDocument : Token → Bool
  | .version .. | .handle .. | .documentStart | .documentEnd => true
  | _ => false

def rootNode (handles : Handles) : TokenReader (Node String) :=
  Node.ofTokens (handles ++ standardHandles) maxLevels Node.inBlock

def root : TokenReader (Node String) := fun tokens => do
  match tokens.head? with
  | some (.version ..) | some (.handle ..) | some .documentStart =>
    let (handles, tokens) ← directives false tokens
    match tokens with
    | .documentStart :: rest =>
      if rest.head?.all endsDocument then some (.missing, rest) else rootNode handles rest
    | _ => none
  | none => some (.missing, [])
  | _ => rootNode [] tokens

def document? (text : String) : Option Document := do
  if !text.toList.all isPrintable then none
  else
    let (root, rest) ← root (← tokens? (normalBreaks text.toList))
    if rest.all (· = .documentEnd) then
      let (root, anchored, _) ← root.number? []
      some { root, anchored }
    else none

end RowQuery.Yaml

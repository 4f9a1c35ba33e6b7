import RowQuery.Yaml.Node
import RowQuery.Yaml.Token

/-!
# Nodes from tokens

A node is an alias, or a scalar or a collection with its properties before it; properties alone make
an empty plain scalar, and so does an entry, a key or a value with nothing behind its mark. A block
sequence as key or value of a block mapping may do without tokens for its start and end. In a flow
sequence an entry with a key is a mapping of that one entry.
-/
namespace RowQuery.Yaml

abbrev Handles := List (String × String)

abbrev TokenReader (α : Type) := List Token → Option (α × List Token)

/-- What may stand at a place: a block collection, and a block sequence without start and end. -/
structure Room where
  block : Bool
  bareSequence : Bool
deriving DecidableEq, Repr

namespace Node

abbrev Inner := Room → TokenReader (Node String)

def inBlock : Room := ⟨true, false⟩

def inMapping : Room := ⟨true, true⟩

def inFlow : Room := ⟨false, false⟩

def orMissing (ends : List Token) (read : TokenReader (Node String)) : TokenReader (Node String) :=
  fun tokens => if tokens.head?.any ends.contains then some (missing, tokens) else read tokens

def valueOrMissing (ends : List Token) (read : TokenReader (Node String)) :
    TokenReader (Node String)
  | .value :: rest => orMissing ends read rest
  | tokens => some (missing, tokens)

/-! ## Block collections -/

def blockItems (inner : Inner) : Nat → TokenReader (List (Node String))
  | 0, _ => none
  | fuel + 1, .entry :: rest => do
    let (item, rest) ← orMissing [.entry, .blockEnd] (inner inBlock) rest
    let (items, rest) ← blockItems inner fuel rest
    some (item :: items, rest)
  | _ + 1, .blockEnd :: rest => some ([], rest)
  | _ + 1, _ => none

def bareItems (inner : Inner) : Nat → TokenReader (List (Node String))
  | 0, _ => none
  | fuel + 1, .entry :: rest => do
    let (item, rest) ← orMissing [.entry, .key, .value, .blockEnd] (inner inBlock) rest
    let (items, rest) ← bareItems inner fuel rest
    some (item :: items, rest)
  | _ + 1, tokens => some ([], tokens)

def blockEntries (inner : Inner) : Nat → TokenReader (List (Node String × Node String))
  | 0, _ => none
  | fuel + 1, .key :: rest => do
    let ends : List Token := [.key, .value, .blockEnd]
    let (key, rest) ← orMissing ends (inner inMapping) rest
    let (value, rest) ← valueOrMissing ends (inner inMapping) rest
    let (entries, rest) ← blockEntries inner fuel rest
    some ((key, value) :: entries, rest)
  | _ + 1, .blockEnd :: rest => some ([], rest)
  | _ + 1, _ => none

/-! ## Flow collections -/

def nextEntry (isFirst : Bool) : List Token → Option (List Token)
  | .comma :: rest => some (if isFirst then .comma :: rest else rest)
  | tokens => if isFirst then some tokens else none

/-- The entry behind a key mark in a flow sequence. A missing key takes the token after its mark
with it. -/
def pair (inner : Inner) : TokenReader (Node String) := fun tokens => do
  let ends : List Token := [.comma, .flowSequenceEnd]
  let (key, rest) ←
    if tokens.head?.any (Token.value :: ends).contains then some (missing, tokens.drop 1)
    else inner inFlow tokens
  let (value, rest) ← valueOrMissing ends (inner inFlow) rest
  some (.mapping {} [(key, value)], rest)

def flowItems (inner : Inner) : Nat → (isFirst : Bool) → TokenReader (List (Node String))
  | 0, _, _ => none
  | _ + 1, _, .flowSequenceEnd :: rest => some ([], rest)
  | fuel + 1, isFirst, tokens => do
    match ← nextEntry isFirst tokens with
    | .flowSequenceEnd :: rest => some ([], rest)
    | tokens =>
      let (item, rest) ← match tokens with
        | .key :: rest => pair inner rest
        | tokens => inner inFlow tokens
      let (items, rest) ← flowItems inner fuel false rest
      some (item :: items, rest)

def flowEntries (inner : Inner) :
    Nat → (isFirst : Bool) → TokenReader (List (Node String × Node String))
  | 0, _, _ => none
  | _ + 1, _, .flowMappingEnd :: rest => some ([], rest)
  | fuel + 1, isFirst, tokens => do
    let ends : List Token := [.comma, .flowMappingEnd]
    match ← nextEntry isFirst tokens with
    | .flowMappingEnd :: rest => some ([], rest)
    | .key :: rest =>
      let (key, rest) ← orMissing (.value :: ends) (inner inFlow) rest
      let (value, rest) ← valueOrMissing ends (inner inFlow) rest
      let (entries, rest) ← flowEntries inner fuel false rest
      some ((key, value) :: entries, rest)
    | tokens =>
      let (key, rest) ← inner inFlow tokens
      let (entries, rest) ← flowEntries inner fuel false rest
      some ((key, missing) :: entries, rest)

/-! ## Nodes -/

def fullTag? (handles : Handles) (handle suffix : String) : Option String :=
  if handle.isEmpty then some suffix else (handles.lookup handle).map (· ++ suffix)

/-- At most one anchor and one tag, in either order. -/
def propertiesOf (handles : Handles) : TokenReader Properties
  | .anchor name :: .tag handle suffix :: rest | .tag handle suffix :: .anchor name :: rest => do
    some ({ anchor := name, tag := ← fullTag? handles handle suffix }, rest)
  | .anchor name :: rest => some ({ anchor := name }, rest)
  | .tag handle suffix :: rest => do
    some ({ tag := ← fullTag? handles handle suffix }, rest)
  | tokens => some ({}, tokens)

def content (inner : Inner) (room : Room) (p : Properties) : TokenReader (Node String) :=
  fun tokens =>
    let rest := tokens.drop 1
    let fuel := tokens.length + 1
    let empty := if p = {} then none else some (.scalar p true "", tokens)
    match tokens.head? with
    | some (.scalar isPlain text) => some (.scalar p isPlain text, rest)
    | some .flowSequenceStart =>
      (flowItems inner fuel true rest).map fun (items, rest) => (.sequence p items, rest)
    | some .flowMappingStart =>
      (flowEntries inner fuel true rest).map fun (entries, rest) => (.mapping p entries, rest)
    | some .entry =>
      if room.bareSequence then
        (bareItems inner fuel tokens).map fun (items, rest) => (.sequence p items, rest)
      else empty
    | some .sequenceStart =>
      if room.block then
        (blockItems inner fuel rest).map fun (items, rest) => (.sequence p items, rest)
      else empty
    | some .mappingStart =>
      if room.block then
        (blockEntries inner fuel rest).map fun (entries, rest) => (.mapping p entries, rest)
      else empty
    | _ => empty

def ofTokens (handles : Handles) : Nat → Inner
  | 0, _, _ => none
  | _ + 1, _, .reference name :: rest => some (.reference name, rest)
  | levels + 1, room, tokens => do
    let (p, rest) ← propertiesOf handles tokens
    content (ofTokens handles levels) room p rest

end Node
end RowQuery.Yaml

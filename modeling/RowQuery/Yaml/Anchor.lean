import RowQuery.Yaml.Node

/-!
# Anchors and aliases

The anchors of a document are counted in the order of the text: the number of an anchor is how many
names are known before it, so one that takes a known name may share its number with the next. An
alias has the number of the last anchor of its name before it, and stands for the last node in the
whole document with that number.
-/
namespace RowQuery.Yaml

abbrev Names := List (String × Nat)

abbrev Anchored := List (Nat × Node Nat)

def Names.add (names : Names) : Option String → Names
  | none => names
  | some name => (name, names.length) :: names.filter (·.1 ≠ name)

namespace Node

def anchoredFirst (names : Names) (p : Properties) (node : Node Nat) (inside : Anchored) :
    Anchored :=
  if p.anchor.isSome then (names.length, node) :: inside else inside

mutual
def number? (names : Names) : Node String → Option (Node Nat × Anchored × Names)
  | scalar p isPlain text =>
    let node := scalar p isPlain text
    some (node, anchoredFirst names p node [], names.add p.anchor)
  | sequence p items => do
    let (items, inside, after) ← numberItems? (names.add p.anchor) items
    let node := sequence p items
    some (node, anchoredFirst names p node inside, after)
  | mapping p entries => do
    let (entries, inside, after) ← numberEntries? (names.add p.anchor) entries
    let node := mapping p entries
    some (node, anchoredFirst names p node inside, after)
  | reference name => (names.lookup name).map fun n => (reference n, [], names)

def numberItems? (names : Names) : List (Node String) → Option (List (Node Nat) × Anchored × Names)
  | [] => some ([], [], names)
  | item :: rest => do
    let (item, inside, names) ← number? names item
    let (rest, more, names) ← numberItems? names rest
    some (item :: rest, inside ++ more, names)

def numberEntries? (names : Names) :
    List (Node String × Node String) → Option (List (Node Nat × Node Nat) × Anchored × Names)
  | [] => some ([], [], names)
  | (key, value) :: rest => do
    let (key, inKey, names) ← number? names key
    let (value, inValue, names) ← number? names value
    let (rest, more, names) ← numberEntries? names rest
    some ((key, value) :: rest, inKey ++ inValue ++ more, names)
end

end Node
end RowQuery.Yaml

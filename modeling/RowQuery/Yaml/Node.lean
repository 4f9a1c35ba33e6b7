/-!
# Nodes of a YAML document

A node is a scalar, a sequence, a mapping or an alias of another node. All but an alias may carry an
anchor and a tag. What an alias stands for is given by a name in a text and by a number once the
anchors are counted, so the type of that is a parameter.
-/
namespace RowQuery.Yaml

structure Properties where
  anchor : Option String := none
  tag : Option String := none
deriving DecidableEq, Repr

inductive Node (Ref : Type)
  | scalar (properties : Properties) (isPlain : Bool) (text : String)
  | sequence (properties : Properties) (items : List (Node Ref))
  | mapping (properties : Properties) (entries : List (Node Ref × Node Ref))
  | reference (target : Ref)

namespace Node

variable {Ref : Type}

def missing : Node Ref := .scalar {} true ""

def properties : Node Ref → Properties
  | scalar p _ _ => p
  | sequence p _ => p
  | mapping p _ => p
  | reference _ => {}

mutual
/-- The number of nodes, where a collection counts twice for its two ends. -/
def size : Node Ref → Nat
  | scalar .. => 1
  | sequence _ items => sizeOfItems items + 2
  | mapping _ entries => sizeOfEntries entries + 2
  | reference _ => 1

def sizeOfItems : List (Node Ref) → Nat
  | [] => 0
  | item :: rest => size item + sizeOfItems rest

def sizeOfEntries : List (Node Ref × Node Ref) → Nat
  | [] => 0
  | (key, value) :: rest => size key + size value + sizeOfEntries rest
end

end Node
end RowQuery.Yaml

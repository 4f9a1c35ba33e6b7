import RowQuery.Number.Binary64

/-!
# JSON values

Numbers are integers of 64 bits, signed or not, and finite binary numbers; an integer and a binary
number of equal value stay different values. The members of an object keep their order.
-/
namespace RowQuery

/-- An integer that fits into 64 bits, as a signed or as an unsigned number. -/
structure Integer where
  value : Int
  lower : -0x8000000000000000 ≤ value := by decide
  upper : value < 0x10000000000000000 := by decide
deriving DecidableEq, Repr

def Integer.ofUInt64 (n : UInt64) : Integer :=
  ⟨n.toNat, by omega, by have := n.toNat_lt; omega⟩

def Integer.ofInt? (n : Int) : Option Integer :=
  if h : -0x8000000000000000 ≤ n ∧ n < 0x10000000000000000 then some ⟨n, h.1, h.2⟩ else none

def Integer.toUInt64? (n : Integer) : Option UInt64 :=
  if h : 0 ≤ n.value then
    some (UInt64.ofNatLT n.value.toNat (by have := n.upper; simp only [UInt64.size]; omega))
  else none

inductive Number
  | int (n : Integer)
  | float (x : Binary64)
deriving DecidableEq, Repr

inductive Json
  | null
  | bool (b : Bool)
  | number (n : Number)
  | string (s : String)
  | array (items : List Json)
  | object (members : List (String × Json))

namespace Json

def ofUInt64 (n : UInt64) : Json := number (.int (.ofUInt64 n))

def strings (ss : List String) : Json := array (ss.map string)

def typeName : Json → String
  | null => "null"
  | bool _ => "bool"
  | number _ => "number"
  | string _ => "string"
  | array _ => "array"
  | object _ => "object"

end Json

def insertMember {α : Type} (key : String) (value : α) : List (String × α) → List (String × α)
  | [] => [(key, value)]
  | (k, v) :: rest =>
    if k = key then (k, value) :: rest else (k, v) :: insertMember key value rest

/-- Keeps one member for each key: the place of the first and the value of the last. -/
def mergeMembers {α : Type} (members : List (String × α)) : List (String × α) :=
  members.foldl (fun merged (key, value) => insertMember key value merged) []

namespace Json

mutual
def merged : Json → Json
  | array items => array (mergedItems items)
  | object members => object (mergeMembers (mergedMembers members))
  | other => other

def mergedItems : List Json → List Json
  | [] => []
  | item :: rest => merged item :: mergedItems rest

def mergedMembers : List (String × Json) → List (String × Json)
  | [] => []
  | (key, value) :: rest => (key, merged value) :: mergedMembers rest
end

end Json
end RowQuery

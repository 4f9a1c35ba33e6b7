import RowQuery.Json.Value
import RowQuery.Query.Order

/-!
# Rows and their order

A row is the members of an object. Rows are compared key by key, the primary key first; under a key
a missing value counts as null, and values of different types go null, boolean, number, string, then
arrays and objects, which are all alike. Strings go by their UTF-8 bytes, which is the order of
their code points.
-/
namespace RowQuery

abbrev Row := List (String × Json)

namespace Row

def get? (row : Row) (field : String) : Option Json := row.lookup field

def hasField (row : Row) (field : String) : Bool := (row.get? field).isSome

/-- The listed fields that the row has, each once, in the order of the list. -/
def project (row : Row) (fields : List String) : Row :=
  fields.foldl (fun projected field =>
    match row.get? field with
    | some value => insertMember field value projected
    | none => projected) []

def without (row : Row) (hidden : List String) : Row :=
  row.filter fun (key, _) => !hidden.contains key

end Row

namespace Number

def position : Number → Int
  | int n => Binary64.position (n.value < 0) (Binary64.nearest n.value.natAbs)
  | float x => Binary64.position x.negative x.magnitude

/-- Two integers that fit a common type of 64 bits are compared exactly, all others as binary
numbers, where minus zero precedes zero. -/
def compare : Number → Number → Ordering
  | int x, int y =>
    if (x.value < 0x8000000000000000 && y.value < 0x8000000000000000) ||
        (0 ≤ x.value && 0 ≤ y.value) then
      Ord.compare x.value y.value
    else Ord.compare (int x).position (int y).position
  | x, y => Ord.compare x.position y.position

end Number

namespace Json

def rank : Json → Nat
  | null => 0
  | bool _ => 1
  | number _ => 2
  | string _ => 3
  | array _ => 4
  | object _ => 4

def compare : Json → Json → Ordering
  | bool x, bool y => Ord.compare x y
  | number x, number y => x.compare y
  | string x, string y => Ord.compare x y
  | x, y => Ord.compare x.rank y.rank

end Json

namespace OrderKey

def compare (key : OrderKey) (a b : Row) : Ordering :=
  key.direction.orient
    (Json.compare ((a.get? key.field).getD .null) ((b.get? key.field).getD .null))

end OrderKey

def SortOrder.compare : SortOrder → Row → Row → Ordering
  | [], _, _ => .eq
  | key :: rest, a, b => (key.compare a b).then (SortOrder.compare rest a b)

end RowQuery

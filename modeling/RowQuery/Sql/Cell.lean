import RowQuery.Json.Record
import RowQuery.Sql.Entity

/-!
# Values in a table

Null comes first in the order of values, then numbers by value, booleans as 0 and 1 among them, then
text by its bytes. In JSON a real number is kept only to the precision of 32 bits.
-/
namespace RowQuery.Sql

inductive Cell
  | null
  | integer (n : Int)
  | real (x : Binary64)
  | text (s : String)
  | boolean (b : Bool)
deriving DecidableEq, Repr

namespace Cell

def units? : Cell → Option Int
  | integer n => some (n * Binary64.unit)
  | real x =>
    let u : Int := Binary64.units x.magnitude
    some (if x.negative then -u else u)
  | boolean b => some (if b then Binary64.unit else 0)
  | _ => none

def rank : Cell → Nat
  | null => 0
  | text _ => 2
  | _ => 1

def compare (a b : Cell) : Ordering :=
  match a, b with
  | text s, text t => Ord.compare s t
  | _, _ =>
    match a.units?, b.units? with
    | some x, some y => Ord.compare x y
    | _, _ => Ord.compare a.rank b.rank

def toJson : Cell → Json
  | null => .null
  | integer n => ((Integer.ofInt? n).map fun n => .number (.int n)).getD .null
  | real x => (x.narrow?.map fun x => .number (.float x)).getD .null
  | text s => .string s
  | boolean b => .bool b

/-- A table keeps no sign of zero. -/
def stored (x : Binary64) : Binary64 := if x.magnitude = 0 then { x with negative := false } else x

def realOf? : Number → Option Binary64
  | .float x => some (stored x)
  | .int n => Binary64.ofMagnitude? (n.value < 0) (Binary64.nearest n.value.natAbs)

def ofJson? : ColumnType → Json → Option Cell
  | _, .null => some null
  | .integer, .number (.int n) => some (integer n.value)
  | .real, .number n => (realOf? n).map real
  | .text, .string s => some (text s)
  | .boolean, .bool b => some (boolean b)
  | _, _ => none

end Cell

abbrev Record := List (String × Cell)

namespace Record

def cell (r : Record) (column : String) : Cell := (r.lookup column).getD .null

def ofJson? (e : Entity) : Json → Option Record
  | .array items =>
    if items.length = e.columns.length then
      (e.columns.zip items).mapM fun (c : Column × Json) =>
        (Cell.ofJson? c.1.type c.2).map (c.1.name, ·)
    else none
  | _ => none

end Record
end RowQuery.Sql

import RowQuery.Memory.Row
import RowQuery.Memory.Sort
import RowQuery.Sql.Select

/-!
# Running a statement on a table

A table gives its rows in the order of the primary key. The filter is applied first, then the order,
the offset, the limit and the selection of columns. A statement without columns or with an offset
but no limit is no sentence of the grammar, it may name columns of its entity only, and a bound
value must fit a signed integer of 64 bits.
-/
namespace RowQuery.Sql

inductive ExecutionError
  /-- The database does not take the statement. -/
  | syntaxError
  | valueTooLarge
deriving DecidableEq, Repr

def compareRecords : SortOrder → Record → Record → Ordering
  | [], _, _ => .eq
  | key :: rest, a, b =>
    (key.direction.orient ((a.cell key.field).compare (b.cell key.field))).then
      (compareRecords rest a b)

structure Database where
  arrange : SortOrder → List Record → List Record

/-- The database that leaves rows alike in the order of the primary key. -/
def Database.stable : Database where
  arrange keys := Sort.sort (compareRecords keys)

def maxBound : Nat := 0x7fffffffffffffff

def boundTooLarge (n : Option UInt64) : Bool := n.any fun n => maxBound < n.toNat

namespace Select

variable {φ : Type}

def isSentence (s : Select φ) : Bool :=
  !s.columns.isEmpty && (s.offset.isNone || s.limit.isSome)

def names (s : Select φ) : List String := s.columns ++ s.order.map OrderKey.field

def matching [RowFilter φ] (s : Select φ) (table : List Record) : List Record :=
  table.filter (RowFilter.admits s.filter)

def page (s : Select φ) (rows : List Record) : List Record :=
  let rest := rows.drop (s.offset.elim 0 UInt64.toNat)
  match s.limit with
  | some count => rest.take count.toNat
  | none => rest

/-- The row as an object; a column selected twice keeps its first place. -/
def rowOf (s : Select φ) (r : Record) : Row :=
  mergeMembers (s.columns.map fun column => (column, (r.cell column).toJson))

def found [RowFilter φ] (s : Select φ) (db : Database) (table : List Record) : List Record :=
  s.page (db.arrange s.order (s.matching table))

end Select

namespace EntityQuery

variable {φ : Type}

def isStatement (q : EntityQuery φ) : Bool :=
  q.select.isSentence && q.select.names.all fun name => q.entity.columnNames.contains name

def execute [RowFilter φ] (q : EntityQuery φ) (db : Database) (table : List Record) :
    Except ExecutionError (List Row) :=
  if boundTooLarge q.select.limit || boundTooLarge q.select.offset then .error .valueTooLarge
  else if !q.isStatement then .error .syntaxError
  else .ok ((q.select.found db table).map q.select.rowOf)

def allJson [RowFilter φ] (q : EntityQuery φ) (table : List Record)
    (db : Database := .stable) : Except ExecutionError (List Row) := do
  let rows ← q.execute db table
  .ok (rows.map fun row => row.without q.hidden)

end EntityQuery

def byKey (key : String) (rows : List Record) : List Record :=
  Sort.sort (fun a b => (a.cell key).compare (b.cell key)) rows

end RowQuery.Sql

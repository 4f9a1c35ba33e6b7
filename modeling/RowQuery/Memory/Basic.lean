import RowQuery.Memory.Row
import RowQuery.Memory.Sort.Runs
import RowQuery.Target
import RowQuery.Visibility

/-!
# Rows in memory as a target

Changes are recorded and take effect when the rows are asked for, in one order whatever the order of
the changes: sorting, offset, limit, projection. Keys that contradict themselves on the rows can
leave a sort without an answer, and then there are no rows to speak of.
-/
namespace RowQuery

structure MemoryQuery where
  source : List Row := []
  select : Option (List String) := none
  limit : Option UInt64 := none
  offset : Option UInt64 := none
  order : SortOrder := []

namespace MemoryQuery

def rowOf (index : Nat) : Json → Except QueryError Row
  | .object members => .ok members
  | other => .error (.backend s!"row {index} is a {other.typeName}, expected an object")

def rowsFrom (index : Nat) : List Json → Except QueryError (List Row)
  | [] => .ok []
  | item :: rest => do
    let row ← rowOf index item
    let rows ← rowsFrom (index + 1) rest
    .ok (row :: rows)

def ofJson : Json → Except QueryError MemoryQuery
  | .array items => do .ok { source := ← rowsFrom 0 items }
  | _ => .error (.backend "expected a JSON array of objects")

/-- Any name is known where there are no rows. -/
def hasField (q : MemoryQuery) (field : String) : Bool :=
  q.source.isEmpty || q.source.any fun row => row.hasField field

instance : Target MemoryQuery where
  restrictFields fields q := .ok { q with select := some fields }
  limit count q := { q with limit := some count }
  offset count q := { q with offset := some count }
  addOrdering field direction q := .ok { q with order := q.order ++ [⟨field, direction⟩] }
  hasField := hasField

def sorted (q : MemoryQuery) : Option (List Row) :=
  if q.order.isEmpty then some q.source else Sort.sort? q.order.compare q.source

def page (q : MemoryQuery) (rows : List Row) : List Row :=
  let rest := rows.drop (q.offset.elim 0 UInt64.toNat)
  match q.limit with
  | some count => rest.take count.toNat
  | none => rest

def projection (q : MemoryQuery) (row : Row) : Row :=
  match q.select with
  | some fields => row.project fields
  | none => row

def rows (q : MemoryQuery) : Option (List Row) :=
  q.sorted.map fun sorted => (q.page sorted).map q.projection

def visibleRows (q : MemoryQuery) (policy : Policy) (recordType : String) : Option (List Row) :=
  q.rows.map fun rows => rows.map fun row => row.without (policy.hiddenFields recordType).toList

end MemoryQuery
end RowQuery

import RowQuery.Sql.Condition
import RowQuery.Target

/-!
# Select statements as a target

A statement keeps its parts apart: selected columns, filter, sort keys, limit and offset.
Restricting replaces the columns, ordering appends, and a limit or an offset replaces the one
before. The filter may be of any kind.
-/
namespace RowQuery.Sql

structure Select (φ : Type := List Condition) where
  columns : List String
  filter : φ
  order : SortOrder := []
  limit : Option UInt64 := none
  offset : Option UInt64 := none
deriving DecidableEq, Repr

def Entity.find (e : Entity) : Select := { columns := e.columnNames, filter := [] }

structure EntityQuery (φ : Type := List Condition) where
  entity : Entity
  select : Select φ
  hidden : List String := []
deriving DecidableEq, Repr

namespace EntityQuery

variable {φ : Type}

def resolve (q : EntityQuery φ) (option field : String) : Except QueryError String :=
  match q.entity.column? field with
  | some column => .ok column
  | none => .error (.validation (.unknownField option field))

instance : Target (EntityQuery φ) where
  restrictFields fields q := do
    let columns ← fields.mapM (q.resolve Query.selectOption)
    .ok { q with select := { q.select with columns } }
  limit count q := { q with select := { q.select with limit := some count } }
  offset count q := { q with select := { q.select with offset := some count } }
  addOrdering field direction q := do
    let column ← q.resolve Query.orderByOption field
    .ok { q with select := { q.select with order := q.select.order ++ [⟨column, direction⟩] } }
  hasField q field := (q.entity.column? field).isSome

end EntityQuery
end RowQuery.Sql

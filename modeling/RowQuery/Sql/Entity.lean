import RowQuery.Visibility

/-!
# Entities

An entity is a table with its columns in order, the columns it hides, and the record type that
errors name, which is the name of the table unless another is given.
-/
namespace RowQuery.Sql

inductive ColumnType
  | integer
  | real
  | text
  | boolean
deriving DecidableEq, Repr

structure Column where
  name : String
  type : ColumnType
deriving DecidableEq, Repr

structure Entity where
  schema : Option String := none
  table : String
  columns : List Column
  hidden : List String := []
  recordType : String := table
deriving DecidableEq, Repr

namespace Entity

def columnNames (e : Entity) : List String := e.columns.map Column.name

def column? (e : Entity) (field : String) : Option String :=
  e.columnNames.find? (· == field)

/-- The hidden columns, whatever record type is asked about. -/
def policy (e : Entity) : Policy where
  hiddenFields _ := NameSet.ofList e.hidden
  isHidden _ field := e.hidden.contains field

end Entity
end RowQuery.Sql

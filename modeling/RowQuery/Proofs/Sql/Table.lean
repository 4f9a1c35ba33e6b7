import Mathlib.Data.List.Forall2
import RowQuery.Sql.Cell

/-!
# Tables of an entity

A table has a column for each of the entity, at least one, under different names, and each row has a
value for each column in order: null, or a value of the type of the column.
-/
namespace RowQuery.Sql

/-- Whether a column of some type can hold a value. Integers have 64 bits, and zero has no sign. -/
def ColumnType.keeps : ColumnType → Cell → Bool
  | _, .null => true
  | .integer, .integer n => -0x8000000000000000 ≤ n && n < 0x8000000000000000
  | .real, .real x => x.magnitude ≠ 0 || !x.negative
  | .text, .text _ => true
  | .boolean, .boolean _ => true
  | _, _ => false

def Record.Fits (r : Record) (e : Entity) : Prop :=
  List.Forall₂ (fun (c : Column) (value : String × Cell) =>
    value.1 = c.name ∧ c.type.keeps value.2 = true) e.columns r

structure Table (e : Entity) where
  rows : List Record
  nonempty : e.columns ≠ []
  distinct : e.columnNames.Nodup
  fits : ∀ r ∈ rows, r.Fits e

end RowQuery.Sql

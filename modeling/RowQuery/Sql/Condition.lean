import RowQuery.Sql.Cell
import RowQuery.Sql.Piece

/-!
# Filters

A statement treats its filter as a whole: it is written as one clause in each dialect, and it lets
some rows of a table through. A list of conditions, all of which have to hold, is such a filter.
-/
namespace RowQuery.Sql

/-- A kind of filter: the clause it is written as, and the rows it lets through. The clause is given
the dialect and how the statement writes a column. -/
class RowFilter (φ : Type) where
  clause : φ → Dialect → (String → String) → List Piece
  admits : φ → Record → Bool

inductive Comparison
  | equal
  | less
  | greater
  | atMost
  | atLeast
deriving DecidableEq, Repr

namespace Comparison

def symbol : Comparison → String
  | equal => "="
  | less => "<"
  | greater => ">"
  | atMost => "<="
  | atLeast => ">="

def holds : Comparison → Ordering → Bool
  | equal, o => o = .eq
  | less, o => o = .lt
  | greater, o => o = .gt
  | atMost, o => o ≠ .gt
  | atLeast, o => o ≠ .lt

end Comparison

structure Condition where
  column : String
  comparison : Comparison
  value : Int
deriving DecidableEq, Repr

namespace Condition

def pieces (columnText : String → String) (c : Condition) : List Piece :=
  [.text (columnText c.column ++ " " ++ c.comparison.symbol ++ " "), .value (.ofInt c.value)]

/-- A comparison with null does not hold. -/
def holds (c : Condition) (r : Record) : Bool :=
  match r.cell c.column with
  | .null => false
  | cell => c.comparison.holds (cell.compare (.integer c.value))

def clause (columnText : String → String) : List Condition → List Piece
  | [] => []
  | first :: rest =>
    .text " WHERE " :: first.pieces columnText ++
      rest.flatMap fun c => .text " AND " :: c.pieces columnText

instance : RowFilter (List Condition) where
  clause conditions _ columnText := clause columnText conditions
  admits conditions r := conditions.all fun c => c.holds r

end Condition
end RowQuery.Sql

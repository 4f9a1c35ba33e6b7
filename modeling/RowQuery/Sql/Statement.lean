import RowQuery.Sql.Select

/-!
# SQL text

The clauses of a statement follow one another in one order: the columns and the table, the filter,
the sort keys, the limit and the offset. So the bound values are those of the filter, then the
limit, then the offset.
-/
namespace RowQuery.Sql

def directionWord : Direction → String
  | .ascending => "ASC"
  | .descending => "DESC"

namespace EntityQuery

variable {φ : Type}

def columnText (q : EntityQuery φ) (d : Dialect) (column : String) : String :=
  d.quoteName q.entity.table ++ "." ++ d.quoteName column

def fromText (q : EntityQuery φ) (d : Dialect) : String :=
  let table := d.quoteName q.entity.table
  match q.entity.schema with
  | some schema => d.quoteName schema ++ "." ++ table
  | none => table

def selectPiece (q : EntityQuery φ) (d : Dialect) : Piece :=
  let columns := ", ".intercalate (q.select.columns.map (q.columnText d))
  .text ("SELECT " ++ columns ++ " FROM " ++ q.fromText d)

def filterPieces [RowFilter φ] (q : EntityQuery φ) (d : Dialect) : List Piece :=
  RowFilter.clause q.select.filter d (q.columnText d)

def orderPieces (q : EntityQuery φ) (d : Dialect) : List Piece :=
  match q.select.order with
  | [] => []
  | keys =>
    let key := fun k : OrderKey => q.columnText d k.field ++ " " ++ directionWord k.direction
    [.text (" ORDER BY " ++ ", ".intercalate (keys.map key))]

def countPieces (word : String) : Option UInt64 → List Piece
  | none => []
  | some n => [.text (" " ++ word ++ " "), .value (.ofCount n)]

def pieces [RowFilter φ] (q : EntityQuery φ) (d : Dialect) : List Piece :=
  q.selectPiece d :: q.filterPieces d ++ q.orderPieces d ++
    countPieces "LIMIT" q.select.limit ++ countPieces "OFFSET" q.select.offset

def sql [RowFilter φ] (q : EntityQuery φ) (d : Dialect) : String :=
  Piece.write (fun index _ => d.placeholder index) 0 (q.pieces d)

def boundValues [RowFilter φ] (q : EntityQuery φ) (d : Dialect) : List Value :=
  Piece.values (q.pieces d)

def inlinedSql [RowFilter φ] (q : EntityQuery φ) (d : Dialect) : String :=
  Piece.write (fun _ value => value.literal) 0 (q.pieces d)

end EntityQuery
end RowQuery.Sql

/-!
# The text of a statement in pieces

A statement is text with bound values between. The same pieces give the text with placeholders, the
list of values, and the text with the values in place. Names are quoted, the quote doubled inside,
so no name can end its quotes.
-/
namespace RowQuery.Sql

inductive Dialect
  | sqlite
  | postgres
  | mysql
deriving DecidableEq, Repr

namespace Dialect

def quoteMark : Dialect → Char
  | mysql => Char.ofNat 0x60
  | _ => '"'

def quoteName (d : Dialect) (name : String) : String :=
  let mark := d.quoteMark
  String.ofList (mark :: name.toList.flatMap (fun c => if c = mark then [c, c] else [c]) ++ [mark])

def placeholder (d : Dialect) (index : Nat) : String :=
  match d with
  | postgres => s!"${index + 1}"
  | _ => "?"

end Dialect

/-- A bound value, known by the literal that can stand in its place. -/
structure Value where
  literal : String
deriving DecidableEq, Repr

namespace Value

def ofInt (n : Int) : Value := ⟨toString n⟩

def ofCount (n : UInt64) : Value := ⟨toString n⟩

instance : ToString Value := ⟨literal⟩

end Value

inductive Piece
  | text (s : String)
  | value (v : Value)
deriving DecidableEq, Repr

namespace Piece

def write (slot : Nat → Value → String) (n : Nat) : List Piece → String
  | [] => ""
  | text s :: rest => s ++ write slot n rest
  | value v :: rest => slot n v ++ write slot (n + 1) rest

def values : List Piece → List Value
  | [] => []
  | text _ :: rest => values rest
  | value v :: rest => v :: values rest

end Piece
end RowQuery.Sql

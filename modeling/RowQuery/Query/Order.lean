/-!
# Sort orders

A sort order is a list of keys, the primary one first. A direction word is read without regard to
the case of ASCII letters.
-/
namespace RowQuery

inductive Direction
  | ascending
  | descending
deriving DecidableEq, Repr

namespace Direction

def word : Direction → String
  | ascending => "asc"
  | descending => "desc"

def lowerAscii (s : List Char) : List Char := s.map Char.toLower

def ofWord? (token : String) : Option Direction :=
  let token := lowerAscii token.toList
  if token = ['a', 's', 'c'] then some ascending
  else if token = ['d', 'e', 's', 'c'] then some descending
  else none

theorem ofWord?_word (d : Direction) : ofWord? d.word = some d := by
  cases d <;> decide

def orient : Direction → Ordering → Ordering
  | ascending, o => o
  | descending, o => o.swap

end Direction

structure OrderKey where
  field : String
  direction : Direction
deriving DecidableEq, Repr

def OrderKey.display (key : OrderKey) : String := key.field ++ " " ++ key.direction.word

abbrev SortOrder := List OrderKey

def SortOrder.display (order : SortOrder) : String :=
  if order.isEmpty then "(none)" else ", ".intercalate (order.map OrderKey.display)

end RowQuery

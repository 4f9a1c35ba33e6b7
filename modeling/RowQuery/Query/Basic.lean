import RowQuery.Query.Order

/-!
# Queries

A query holds what the options `$select`, `$top`, `$skip` and `$orderby` ask for. An absent option
stays apart from an empty one.
-/
namespace RowQuery

structure Query where
  select : Option (List String) := none
  top : Option UInt64 := none
  skip : Option UInt64 := none
  orderBy : Option SortOrder := none
deriving DecidableEq, Repr

namespace Query

def selectOption : String := "$select"
def topOption : String := "$top"
def skipOption : String := "$skip"
def orderByOption : String := "$orderby"

def isEmpty (q : Query) : Bool :=
  q.select.isNone && q.top.isNone && q.skip.isNone && q.orderBy.isNone

theorem isEmpty_iff {q : Query} : q.isEmpty ↔ q = {} := by
  cases q with
  | mk select top skip orderBy =>
    cases select <;> cases top <;> cases skip <;> cases orderBy <;> simp [isEmpty]

def orderDisplay (q : Query) : String := (q.orderBy.map SortOrder.display).getD ""

end Query
end RowQuery

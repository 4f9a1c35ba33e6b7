import RowQuery.Query.Basic
import RowQuery.Query.Error

/-!
# Targets of a query

A target is something that can be narrowed before it is evaluated: restricted to fields, limited,
offset and ordered. Restricting and ordering may fail. `Change` is one such step as data.
-/
namespace RowQuery

class Target (σ : Type) where
  /-- Return exactly these fields, in that order. -/
  restrictFields : List String → σ → Except QueryError σ
  /-- Return at most so many results. -/
  limit : UInt64 → σ → σ
  /-- Leave out so many results at the front. -/
  offset : UInt64 → σ → σ
  /-- Add a sort key after those already there. -/
  addOrdering : String → Direction → σ → Except QueryError σ
  /-- Whether a name can be selected and ordered by. -/
  hasField : σ → String → Bool

inductive Change
  | restrict (fields : List String)
  | limit (count : UInt64)
  | offset (count : UInt64)
  | order (key : OrderKey)
deriving DecidableEq, Repr

def Change.perform {σ : Type} [Target σ] : Change → σ → Except QueryError σ
  | restrict fields, t => Target.restrictFields fields t
  | limit count, t => .ok (Target.limit count t)
  | offset count, t => .ok (Target.offset count t)
  | order key, t => Target.addOrdering key.field key.direction t

end RowQuery

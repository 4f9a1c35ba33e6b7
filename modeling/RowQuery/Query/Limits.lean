import RowQuery.Query.Error

/-!
# Limits on a query

Each limit is optional and unset by default. A value equal to its limit passes.
-/
namespace RowQuery

structure Limits where
  queryLength : Option UInt64 := none
  top : Option UInt64 := none
  selectFields : Option UInt64 := none
  orderByFields : Option UInt64 := none
deriving DecidableEq, Repr

namespace Limits

def check (what : String) (max : Option UInt64) (actual : Nat) : Except ParseError Unit :=
  match max with
  | some max => if max.toNat < actual then .error (.limitExceeded what max) else .ok ()
  | none => .ok ()

theorem check_eq_ok_iff {what : String} {max : Option UInt64} {actual : Nat} :
    check what max actual = .ok () ↔ ∀ m ∈ max, actual ≤ m.toNat := by
  cases max with
  | none => simp [check]
  | some m =>
    by_cases h : m.toNat < actual
    · simp [check, h]
    · simp [check, h]; omega

def checkQueryLength (l : Limits) : Nat → Except ParseError Unit :=
  check "query string length" l.queryLength

def checkTop (l : Limits) (top : UInt64) : Except ParseError Unit :=
  check "$top" l.top top.toNat

def checkSelect (l : Limits) : Nat → Except ParseError Unit :=
  check "$select field count" l.selectFields

def checkOrderBy (l : Limits) : Nat → Except ParseError Unit :=
  check "$orderby field count" l.orderByFields

end Limits
end RowQuery

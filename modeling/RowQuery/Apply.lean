import RowQuery.Event
import RowQuery.Target
import RowQuery.Visibility

/-!
# Applying a query to a target

A query is checked in full before the first change. The checks run in the order: hidden fields in
`$select`, unknown fields in `$select`, unknown fields in `$orderby`. The changes are then asked for
in the order projection, limit, offset, ordering, each option reported before its first change.
-/
namespace RowQuery

structure Applier where
  policy : Policy
  recordType : String
  enforce : Bool := true

namespace Applier

variable {σ : Type} [Target σ]

def offending (hidden : NameSet) : List String → List String
  | [] => []
  | field :: rest =>
    if hidden.contains field then field :: (offending hidden rest).filter (· ≠ field)
    else offending hidden rest

def checkHidden (a : Applier) (fields : List String) : Attempt ValidationError Unit :=
  match offending (a.policy.hiddenFields a.recordType) fields with
  | [] => pure ()
  | hidden => do
    Attempt.emit (.hiddenSelected a.recordType hidden)
    throw (.hiddenFieldSelected a.recordType hidden)

def checkKnown (target : σ) (option : String) (fields : List String) :
    Except ValidationError Unit :=
  match fields.find? fun field => !Target.hasField target field with
  | some field => .error (.unknownField option field)
  | none => .ok ()

def checkSelect (a : Applier) (target : σ) : Option (List String) → Attempt ValidationError Unit
  | none => pure ()
  | some fields => do
    if a.enforce then a.checkHidden fields
    Attempt.ofExcept (checkKnown target Query.selectOption fields)

def validate (a : Applier) (query : Query) (target : σ) : Attempt ValidationError Unit := do
  a.checkSelect target query.select
  let keys := query.orderBy.getD []
  Attempt.ofExcept (checkKnown target Query.orderByOption (keys.map OrderKey.field))

def plan (recordType : String) (query : Query) : List (Event × List Change) :=
  (query.select.map fun fields =>
      (.applyingSelect recordType fields, [.restrict fields])).toList ++
    (query.top.map fun count => (.applyingTop recordType count, [.limit count])).toList ++
    (query.skip.map fun count => (.applyingSkip recordType count, [.offset count])).toList ++
    (query.orderBy.map fun order =>
      (.applyingOrderBy recordType order, order.map .order)).toList

def changes (query : Query) : List Change := (plan "" query).flatMap Prod.snd

def accepted : List Change → σ → List Change
  | [], _ => []
  | change :: rest, target =>
    match change.perform target with
    | .ok target => change :: accepted rest target
    | .error _ => []

/-- How a change is put to a target: in `m`, where a caller can do more than read the answer. -/
abbrev Asking (m : Type → Type) (σ : Type) := Change → σ → m (Except QueryError σ)

section Asking

variable {m : Type → Type} [Monad m] [MonadLiftT Logged m]

def performAll (ask : Asking m σ) : List Change → σ → ExceptT QueryError m σ
  | [], target => pure target
  | change :: rest, target => do
    let target ← ExceptT.mk (ask change target)
    performAll ask rest target

def perform (ask : Asking m σ) : List (Event × List Change) → σ → ExceptT QueryError m σ
  | [], target => pure target
  | (event, changes) :: rest, target => do
    (Attempt.emit event).within
    let target ← performAll ask changes target
    perform ask rest target

def applyBy (ask : Asking m σ) (a : Applier) (query : Query) (target : σ) :
    ExceptT QueryError m σ := do
  ((a.validate query target).mapError .validation).within
  perform ask (plan a.recordType query) target

end Asking

def plainly : Asking Logged σ := fun change target => pure (change.perform target)

def apply (a : Applier) (query : Query) (target : σ) : Attempt QueryError σ :=
  a.applyBy plainly query target

end Applier
end RowQuery

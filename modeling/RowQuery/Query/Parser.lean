import RowQuery.Event
import RowQuery.Number.Decimal
import RowQuery.Query.Limits
import RowQuery.Text.Blank
import RowQuery.Text.Form

/-!
# Reading a query from a query string

The four options are looked up by their exact decoded name, and of several pairs of one name the
last counts. Options are read in the order `$select`, `$top`, `$skip`, `$orderby`, each followed by
its limit, and the first fault ends the reading.
-/
namespace RowQuery.Query

open Text (splitBy trim words)

def commaParts (raw : String) : List (List Char) := splitBy (· == ',') raw.toList

def selectField (part : List Char) : Except ParseError String :=
  let field := trim part
  if field.isEmpty then .error .emptySelectField else .ok (String.ofList field)

def parseSelect (raw : String) : Except ParseError (List String) :=
  (commaParts raw).mapM selectField

def parseUnsigned (option raw : String) : Except ParseError UInt64 :=
  match Decimal.ofDigits? raw.toList with
  | some n => .ok n
  | none => .error (.invalidInteger option raw)

def orderClause (part : List Char) : Except ParseError OrderKey :=
  match (words part).map String.ofList with
  | [] => .error .emptyOrderByField
  | [field] => .ok ⟨field, .ascending⟩
  | [field, token] =>
    match Direction.ofWord? token with
    | some direction => .ok ⟨field, direction⟩
    | none => .error (.invalidDirection field token)
  | _ => .error (.malformedOrderBy (String.ofList (trim part)))

def parseOrderBy (raw : String) : Except ParseError SortOrder :=
  (commaParts raw).mapM orderClause

def readOption {α : Type} (raw : Option String) (parse : String → Except ParseError α)
    (check : α → Except ParseError Unit) : Except ParseError (Option α) :=
  match raw with
  | none => .ok none
  | some raw => do
    let a ← parse raw
    check a
    .ok (some a)

def ofPairs (limits : Limits) (pairs : List (String × String)) : Except ParseError Query := do
  let raw := fun option => Form.lastValue option pairs
  let select ← readOption (raw selectOption) parseSelect fun fields =>
    limits.checkSelect fields.length
  let top ← readOption (raw topOption) (parseUnsigned topOption) limits.checkTop
  let skip ← readOption (raw skipOption) (parseUnsigned skipOption) fun _ => .ok ()
  let orderBy ← readOption (raw orderByOption) parseOrderBy fun order =>
    limits.checkOrderBy order.length
  .ok { select, top, skip, orderBy }

def withoutMark (text : String) : String :=
  match text.toList with
  | '?' :: rest => String.ofList rest
  | _ => text

def readQueryString (limits : Limits) (text : String) : Except ParseError Query := do
  let text := withoutMark text
  limits.checkQueryLength text.utf8ByteSize
  ofPairs limits (Form.pairs text)

def parseQueryString (limits : Limits) (text : String) : Attempt ParseError Query := do
  let query ← Attempt.ofExcept (readQueryString limits text)
  Attempt.emit (.parsed query)
  pure query

end RowQuery.Query

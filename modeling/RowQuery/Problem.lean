import RowQuery.Event
import RowQuery.Json.Reader
import RowQuery.Json.Record
import RowQuery.Query.Error

/-!
# Problem details

A problem is the answer to a refused request, after RFC 9457. What is wrong with the text of a query
is a bad request (400), a query for what may not be asked cannot be processed (422), and a failure
of the target is internal (500): its detail goes to the log and not into the answer.
-/
namespace RowQuery

structure Status where
  code : Nat
  lower : 100 ≤ code := by decide
  upper : code ≤ 999 := by decide
deriving DecidableEq, Repr

namespace Status

def badRequest : Status := { code := 400 }
def unprocessable : Status := { code := 422 }
def internal : Status := { code := 500 }

def ofNat? (n : Nat) : Option Status :=
  if h : 100 ≤ n ∧ n ≤ 999 then some ⟨n, h.1, h.2⟩ else none

end Status

structure Problem where
  type : String := "about:blank"
  title : String
  status : Status
  detail : String
  instanceUri : String := ""
  code : String := ""
  fields : List String := []
deriving DecidableEq, Repr

namespace Problem

def toJson (p : Problem) : Json :=
  .object ([("type", .string p.type), ("title", .string p.title),
      ("status", .ofUInt64 p.status.code.toUInt64), ("detail", .string p.detail)] ++
    (if p.instanceUri.isEmpty then [] else [("instance", .string p.instanceUri)]) ++
    [("code", .string p.code)] ++
    (if p.fields.isEmpty then [] else [("fields", Json.strings p.fields)]))

def memberNames : List String :=
  ["type", "title", "status", "detail", "instance", "code", "fields"]

def ofJson? (j : Json) : Option Problem := do
  match ← Json.slots? memberNames .ignored j with
  | [some type, some title, some status, some detail, instanceUri, some code, fields] =>
    some {
      type := ← type.text?
      title := ← title.text?
      status := ← Status.ofNat? (← status.natural?).toNat
      detail := ← detail.text?
      instanceUri := ← Json.defaulted? "" Json.text? instanceUri
      code := ← code.text?
      fields := ← Json.defaulted? [] Json.texts? fields }
  | _ => none

def ofJsonText? (text : String) : Option Problem :=
  (Json.readAs (.fields memberNames) text).bind ofJson?

def ofParseError (e : ParseError) : Problem :=
  let (title, code) := match e with
    | .invalidUrl _ => ("Invalid URL", "odata.invalid_url")
    | .invalidInteger .. => ("Invalid Integer", "odata.invalid_integer")
    | .emptySelectField => ("Invalid Select", "odata.invalid_select")
    | .emptyOrderByField | .invalidDirection .. | .malformedOrderBy _ =>
      ("Invalid OrderBy", "odata.invalid_orderby")
    | .limitExceeded .. => ("Limit Exceeded", "odata.limit_exceeded")
  { title, status := .badRequest, detail := e.message, code }

def ofValidationError (e : ValidationError) : Problem :=
  match e with
  | .hiddenFieldSelected _ fields =>
    { title := "Hidden Field", status := .unprocessable, detail := e.message,
      code := "odata.hidden_field", fields }
  | .unknownField _ field =>
    { title := "Unknown Field", status := .unprocessable, detail := e.message,
      code := "odata.unknown_field", fields := [field] }

def internal : Problem :=
  { title := "Internal Error", status := .internal,
    detail := "An internal error occurred while applying the query", code := "odata.internal" }

def ofError : QueryError → Logged Problem
  | .parse e => ⟨ofParseError e, []⟩
  | .validation e => ⟨ofValidationError e, []⟩
  | .backend detail => ⟨internal, [.backendFailed detail]⟩

end Problem
end RowQuery

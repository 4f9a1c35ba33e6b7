import RowQuery.Json.Reader
import RowQuery.Json.Record
import RowQuery.Query.Basic
import RowQuery.Query.Limits

/-!
# Queries and limits in JSON

An absent option of a query is left out, so an empty list stays apart from an absent one. Limits are
always written in full, null where unset, and refuse members of other names.
-/
namespace RowQuery

open Json (Shape slots? optional? presentMember)

def Direction.toJson (d : Direction) : Json := .string d.word

def Direction.ofJson? : Json → Option Direction
  | .string "asc" => some .ascending
  | .string "desc" => some .descending
  | .object [("asc", .null)] => some .ascending
  | .object [("desc", .null)] => some .descending
  | _ => none

def OrderKey.toJson (key : OrderKey) : Json :=
  .object [("field", .string key.field), ("dir", key.direction.toJson)]

def OrderKey.shape : Shape := .fields ["field", "dir"]

def OrderKey.ofJson? (j : Json) : Option OrderKey := do
  match ← slots? ["field", "dir"] .ignored j with
  | [some field, some direction] =>
    some ⟨← field.text?, ← Direction.ofJson? direction⟩
  | _ => none

def SortOrder.toJson (order : SortOrder) : Json := .array (order.map OrderKey.toJson)

def SortOrder.ofJson? : Json → Option SortOrder := Json.list? OrderKey.ofJson?

namespace Query

def toJson (q : Query) : Json :=
  .object (presentMember "select" Json.strings q.select ++
    presentMember "top" Json.ofUInt64 q.top ++
    presentMember "skip" Json.ofUInt64 q.skip ++
    presentMember "orderBy" SortOrder.toJson q.orderBy)

def ofJson? (j : Json) : Option Query := do
  match ← slots? ["select", "top", "skip", "orderBy"] .ignored j with
  | [select, top, skip, orderBy] =>
    some {
      select := ← optional? Json.texts? select
      top := ← optional? Json.natural? top
      skip := ← optional? Json.natural? skip
      orderBy := ← optional? SortOrder.ofJson? orderBy }
  | _ => none

def shape : Shape :=
  .record [("select", .whole), ("top", .whole), ("skip", .whole),
    ("orderBy", .list OrderKey.shape)]

def ofJsonText? (text : String) : Option Query := (Json.readAs shape text).bind ofJson?

end Query

namespace Limits

def memberNames : List String :=
  ["max_query_len", "max_top", "max_select_fields", "max_orderby_fields"]

def toJson (l : Limits) : Json :=
  .object [("max_query_len", Json.optional Json.ofUInt64 l.queryLength),
    ("max_top", Json.optional Json.ofUInt64 l.top),
    ("max_select_fields", Json.optional Json.ofUInt64 l.selectFields),
    ("max_orderby_fields", Json.optional Json.ofUInt64 l.orderByFields)]

def ofJson? (j : Json) : Option Limits := do
  match ← slots? memberNames .refused j with
  | [queryLength, top, selectFields, orderByFields] =>
    some {
      queryLength := ← optional? Json.natural? queryLength
      top := ← optional? Json.natural? top
      selectFields := ← optional? Json.natural? selectFields
      orderByFields := ← optional? Json.natural? orderByFields }
  | _ => none

def ofJsonText? (text : String) : Option Limits := (Json.read text).bind ofJson?

end Limits
end RowQuery

import RowQuery.Query.Codec
import RowQuery.Settings.Tree
import RowQuery.Visibility

/-!
# Settings

Limits on queries, hidden fields for each record type, and how to log. A setting that no source
gives has its default: no limit, nothing hidden, the level `warn` in plain lines.
-/
namespace RowQuery

structure Logging where
  level : String := "warn"
  json : Bool := false
deriving DecidableEq, Repr

structure Settings where
  limits : Limits := {}
  visibility : HiddenFields := {}
  logging : Logging := {}

def Limits.ofTree? (t : Tree) : Option Limits := do
  match ← t.fields? memberNames with
  | [queryLength, top, selectFields, orderByFields] =>
    some {
      queryLength := ← Tree.optional? Tree.natural? queryLength
      top := ← Tree.optional? Tree.natural? top
      selectFields := ← Tree.optional? Tree.natural? selectFields
      orderByFields := ← Tree.optional? Tree.natural? orderByFields }
  | _ => none

def HiddenFields.ofTree? : Tree → Option HiddenFields
  | .dict entries =>
    (entries.mapM fun (entry : String × Tree) =>
      (Tree.texts? entry.2).map (entry.1, ·)).map ofMembers
  | _ => none

def Logging.ofTree? (t : Tree) : Option Logging := do
  let standard : Logging := {}
  match ← t.fields? ["level", "json"] with
  | [level, json] =>
    some {
      level := ← Tree.defaulted? standard.level Tree.text? level
      json := ← Tree.defaulted? standard.json Tree.bool? json }
  | _ => none

def Logging.toJson (l : Logging) : Json :=
  .object [("level", .string l.level), ("json", .bool l.json)]

namespace Settings

def sectionNames : List String := ["limits", "visibility", "logging"]

def ofTree? (t : Tree) : Option Settings := do
  match ← t.fields? sectionNames with
  | [limits, visibility, logging] =>
    some {
      limits := ← Tree.defaulted? {} Limits.ofTree? limits
      visibility := ← Tree.defaulted? (.ofMembers []) HiddenFields.ofTree? visibility
      logging := ← Tree.defaulted? {} Logging.ofTree? logging }
  | _ => none

def toJson (s : Settings) : Json :=
  .object [("limits", s.limits.toJson), ("visibility", s.visibility.toJson),
    ("logging", s.logging.toJson)]

structure Overrides where
  recordType : String := ""
  hidden : List String := []
  verbosity : Nat := 0

def levelOf : Nat → Option String
  | 0 => none
  | 1 => some "info"
  | 2 => some "debug"
  | _ => some "trace"

def override (s : Settings) (o : Overrides) : Settings :=
  { s with
    visibility :=
      if o.hidden.isEmpty then s.visibility else s.visibility.insert o.recordType o.hidden
    logging := { s.logging with level := (levelOf o.verbosity).getD s.logging.level } }

end Settings
end RowQuery

import RowQuery.Settings.Basic
import RowQuery.Yaml.Style

/-!
# Settings as YAML text

Every section is written with all its fields, two spaces deeper than its name. A table without
record types is an empty mapping on a line of its own. An empty list stands behind its key, but on a
line of its own right after a list with items.
-/
namespace RowQuery.Settings

def line (depth : Nat) (text : String) : String :=
  String.ofList (List.replicate (2 * depth) ' ') ++ text ++ "\n"

def limitText : Option UInt64 → String
  | some n => toString n.toNat
  | none => "null"

def limitsText (l : Limits) : String :=
  String.join ((Limits.memberNames.zip [l.queryLength, l.top, l.selectFields, l.orderByFields]).map
    fun (name, limit) => line 1 (name ++ ": " ++ limitText limit))

def itemsText (names : List String) : String :=
  String.join (names.map fun name => line 2 ("- " ++ Yaml.writeValue 6 name))

/-- The entries of the table; the flag tells whether the list before has items. -/
def entriesText (afterItems : Bool) : List (String × NameSet) → String
  | [] => ""
  | (recordType, names) :: rest =>
    let key := Yaml.writeKey recordType ++ ":"
    (if names.isEmpty then if afterItems then line 1 key ++ line 2 "[]" else line 1 (key ++ " []")
      else line 1 key ++ itemsText names.toList) ++
      entriesText (!names.isEmpty) rest

def visibilityText (t : HiddenFields) : String :=
  if t.entries.isEmpty then line 1 "\x7b\x7d" else entriesText false t.entries

def loggingText (l : Logging) : String :=
  line 1 ("level: " ++ Yaml.writeValue 4 l.level) ++
    line 1 ("json: " ++ if l.json then "true" else "false")

def toYaml (s : Settings) : String :=
  line 0 "limits:" ++ limitsText s.limits ++ line 0 "visibility:" ++ visibilityText s.visibility ++
    line 0 "logging:" ++ loggingText s.logging

end RowQuery.Settings

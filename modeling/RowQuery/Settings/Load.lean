import RowQuery.Settings.Basic
import RowQuery.Settings.Environment
import RowQuery.Settings.FromYaml

/-!
# Loading settings

The sources, from the lowest to the highest precedence, are the defaults, a YAML text, and the
environment, whose variables are merged among themselves in their order. The sources are merged
before any setting is read, so a value that a later one replaces is never looked at.
-/
namespace RowQuery.Settings

def fileTree? : Option String → Option Tree
  | none => some (.dict [])
  | some text => Tree.ofYaml? text

def load? (yaml : Option String) (environment : List (String × String)) : Option Settings := do
  ofTree? (Tree.mergeAll [← fileTree? yaml, Environment.tree environment])

end RowQuery.Settings

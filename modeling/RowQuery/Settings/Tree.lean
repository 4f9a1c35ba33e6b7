import RowQuery.Json.Value

/-!
# Values of settings

Every source of settings is read as a tree. A later tree is merged into an earlier one:
dictionaries entry by entry at every depth, while every other value takes the place of the one
before. Of a number that is no integer only that much is kept, for no setting takes one.
-/
namespace RowQuery

inductive Tree
  | empty
  | bool (b : Bool)
  | int (n : Int)
  | fraction
  | text (s : String)
  | list (items : List Tree)
  | dict (entries : List (String × Tree))
deriving Repr

namespace Tree

abbrev Entries := List (String × Tree)

def entries : Tree → Entries
  | dict entries => entries
  | _ => []

mutual
def merge (old : Tree) : Tree → Tree
  | dict new => dict (mergeEntries old.entries new)
  | empty => empty
  | bool b => bool b
  | int n => int n
  | fraction => fraction
  | text s => text s
  | list items => list items

def mergeEntries (old : Entries) : Entries → Entries
  | [] => old
  | (key, value) :: rest =>
    mergeEntries (insertMember key (merge ((old.lookup key).getD empty) value) old) rest
end

def nest : List String → Tree → Tree
  | [], value => value
  | key :: path, value => dict [(key, nest path value)]

def mergeAll (trees : List Tree) : Tree := trees.foldl merge (dict [])

/-! ## Reading single settings -/

def bool? : Tree → Option Bool
  | bool b => some b
  | _ => none

def text? : Tree → Option String
  | text s => some s
  | _ => none

def natural? : Tree → Option UInt64
  | int n => (Integer.ofInt? n).bind Integer.toUInt64?
  | _ => none

def texts? : Tree → Option (List String)
  | list items => items.mapM text?
  | _ => none

/-- The values of a section's fields. A dictionary names them and may name no others; a list gives
them in their declared order, and what it has beyond them is ignored. -/
def fields? (names : List String) : Tree → Option (List (Option Tree))
  | dict entries =>
    if entries.all fun entry => names.contains entry.1 then
      some (names.map fun name => entries.lookup name)
    else none
  | list items => some ((List.range names.length).map fun i => items[i]?)
  | _ => none

/-- A field that may be empty as well as missing. -/
def optional? {α : Type} (read : Tree → Option α) : Option Tree → Option (Option α)
  | none => some none
  | some empty => some none
  | some value => (read value).map some

def defaulted? {α : Type} (default : α) (read : Tree → Option α) : Option Tree → Option α
  | none => some default
  | some value => read value

end Tree
end RowQuery

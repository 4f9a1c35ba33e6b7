import RowQuery.Json.Value

/-!
# Records in JSON

A record with named fields is written as an object, or as an array of its fields in their declared
order, where fields may be missing at the end. `slots?` gives the value of each declared field, none
for a missing one; a declared field written twice is refused. Members of other names are ignored by
an open record and refused by a closed one.
-/
namespace RowQuery.Json

inductive Extras
  | ignored
  | refused
deriving DecidableEq

def slots? (names : List String) (extras : Extras) : Json → Option (List (Option Json))
  | array items =>
    if items.length ≤ names.length then
      some (items.map some ++ List.replicate (names.length - items.length) none)
    else none
  | object members =>
    let keys := members.map Prod.fst
    if names.any (fun name => 1 < keys.count name) then none
    else if extras = .refused && keys.any (fun key => !names.contains key) then none
    else some (names.map fun name => members.lookup name)
  | _ => none

def text? : Json → Option String
  | string s => some s
  | _ => none

def natural? : Json → Option UInt64
  | number (.int n) => n.toUInt64?
  | _ => none

def list? {α : Type} (item : Json → Option α) : Json → Option (List α)
  | array items => items.mapM item
  | _ => none

def texts? : Json → Option (List String) := list? text?

/-- An optional field: missing and null both mean that it is absent. -/
def optional? {α : Type} (read : Json → Option α) : Option Json → Option (Option α)
  | none => some none
  | some null => some none
  | some value => (read value).map some

/-- A field with a value for when it is missing; null does not count as missing. -/
def defaulted? {α : Type} (default : α) (read : Json → Option α) : Option Json → Option α
  | none => some default
  | some value => read value

def optional {α : Type} (write : α → Json) : Option α → Json
  | none => null
  | some a => write a

def presentMember {α : Type} (key : String) (write : α → Json) : Option α → List (String × Json)
  | none => []
  | some a => [(key, write a)]

end RowQuery.Json

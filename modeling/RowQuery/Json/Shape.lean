/-!
# What a reader of JSON looks for

A shape tells which parts of a text will be used. Where an open record is expected, the members of
other names are not used; an array in its place holds its fields in their declared order. Everything
else is read whole.
-/
namespace RowQuery.Json

inductive Shape
  | whole
  | list (item : Shape)
  | record (fields : List (String × Shape))

namespace Shape

def item : Shape → Nat → Shape
  | whole, _ => whole
  | list item, _ => item
  | record fields, i => (fields[i]?.map Prod.snd).getD whole

def member? : Shape → String → Option Shape
  | record fields, key => fields.lookup key
  | _, _ => some whole

def fields (names : List String) : Shape := record (names.map (·, whole))

end Shape
end RowQuery.Json

import RowQuery.Text.Canonical
import RowQuery.Url.Domain.Disallowed
import RowQuery.Url.Domain.Single
import RowQuery.Url.Domain.Spelling

/-!
# The form of characters in domain names

A domain name has small letters only, and one form for all variants of a character. A character is
decomposed and its parts are replaced one by one; the whole text is then composed again.
-/
namespace RowQuery.Url.Domain

def isAscii (c : Char) : Bool := c.toNat < 0x80

def partForm (c : Char) : List Char :=
  let n := c.toNat
  if isAscii c then [c.toLower]
  else if isPairedCapital n then [Char.ofNat (n + 1)]
  else
    match steppedForms.find? n, singleForms.get? n, spellings.get? n with
    | some (first, form), _, _ => [Char.ofNat (form + (n - first))]
    | none, some form, _ => [Char.ofNat form]
    | none, none, some text => text.map Char.ofNat
    | none, none, none => [c]

/-- What replaces a character: nothing at all for some, and none where it is not allowed. -/
def form? (c : Char) : Option (List Char) :=
  let n := c.toNat
  if isAscii c then some [c.toLower]
  else if disallowed.contains n then none
  else if ignored.contains n then some []
  else some ((Text.decompose c).flatMap partForm)

def mapped? (s : List Char) : Option (List Char) :=
  (s.mapM form?).map fun forms => Text.compose forms.flatten

end RowQuery.Url.Domain

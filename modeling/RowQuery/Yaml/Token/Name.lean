import RowQuery.Number.Decimal
import RowQuery.Number.Hexadecimal
import RowQuery.Text.Utf8
import RowQuery.Yaml.Cursor
import RowQuery.Yaml.Token

/-!
# Anchors, tags and directives

An anchor and an alias are a mark and a name. A tag is a handle and a suffix: an exclamation mark
and a suffix, a named handle between two exclamation marks and a suffix, or an identifier in angle
brackets without a handle. A directive is a line that gives the version of the language or the
expansion of a handle.
-/
namespace RowQuery.Yaml

def isNameChar (c : Char) : Bool := c.isAlphanum || c = '_' || c = '-'

def anchorName : Reader String := fun mark =>
  let (name, next) := (mark.drop 1).span isNameChar
  let ends := endsWord next.rest || next.rest.head?.any ("?:,]\x7d%@\x60".toList.contains ·)
  if name.isEmpty || !ends then none else some (String.ofList name, next)

/-! ## Tags -/

def isUriChar (c : Char) : Bool := isNameChar c || ";/?:@&=+$.!~*'()".toList.contains c

def escapedByte : Reader UInt8 := fun here =>
  match here.rest with
  | '%' :: a :: b :: _ => do
    some ((16 * (← Hexadecimal.digit? a) + (← Hexadecimal.digit? b)).toUInt8, here.drop 3)
  | _ => none

def escapedBytes : Nat → Reader (List UInt8)
  | 0, here => some ([], here)
  | count + 1, here => do
    let (byte, here) ← escapedByte here
    let (bytes, here) ← escapedBytes count here
    if byte &&& 0xc0 = 0x80 then some (byte :: bytes, here) else none

def tailLength? (lead : UInt8) : Option Nat :=
  if lead < 0x80 then some 0
  else if lead &&& 0xe0 = 0xc0 then some 1
  else if lead &&& 0xf0 = 0xe0 then some 2
  else if lead &&& 0xf8 = 0xf0 then some 3
  else none

def escapedChars : Reader (List Char) := fun here => do
  let (lead, here) ← escapedByte here
  let (tail, here) ← escapedBytes (← tailLength? lead) here
  some (Utf8.decodeLossy (lead :: tail), here)

def uriTail (verbatim : Bool) : Nat → Reader (List Char)
  | 0, _ => none
  | fuel + 1, here =>
    match here.rest with
    | c :: _ =>
      if c = '%' then do
        let (cs, here) ← escapedChars here
        let (more, here) ← uriTail verbatim fuel here
        some (cs ++ more, here)
      else if isUriChar c || (verbatim && [',', '[', ']'].contains c) then do
        let (more, here) ← uriTail verbatim fuel (here.drop 1)
        some (c :: more, here)
      else some ([], here)
    | [] => some ([], here)

/-- The characters of an identifier; a comma and brackets only belong to a verbatim one. -/
def uri (verbatim : Bool) : Reader (List Char) := fun here =>
  uriTail verbatim (here.rest.length + 1) here

def nonEmptyUri (verbatim : Bool) : Reader (List Char) := fun here => do
  let (text, here) ← uri verbatim here
  if text.isEmpty then none else some (text, here)

def handleWord (mark : Cursor) : List Char × Bool × Cursor :=
  let (word, next) := (mark.drop 1).span isNameChar
  if next.startsWith '!' then (word, true, next.drop 1) else (word, false, next)

def handleName (word : List Char) : String := String.ofList ('!' :: word ++ ['!'])

def verbatimTag : Reader Token := fun mark => do
  let (text, next) ← nonEmptyUri true (mark.drop 2)
  if next.startsWith '>' then some (.tag "" (String.ofList text), next.drop 1) else none

def shorthandTag : Reader Token := fun mark => do
  let (word, isHandle, next) := handleWord mark
  if isHandle then
    let (suffix, next) ← nonEmptyUri false next
    some (.tag (handleName word) (String.ofList suffix), next)
  else
    let (more, next) ← uri false next
    let suffix := word ++ more
    -- An exclamation mark alone is a tag without a handle.
    some (if suffix.isEmpty then .tag "" "!" else .tag "!" (String.ofList suffix), next)

/-- A tag, up to a blank or a line end; among the items of a flow collection a comma also ends it. -/
def tag (flow : Bool) : Reader Token := fun mark => do
  let (token, next) ← if (mark.drop 1).startsWith '<' then verbatimTag mark else shorthandTag mark
  if endsWord next.rest || (flow && next.startsWith ',') then some (token, next) else none

/-! ## Directives -/

def versionPart : Reader Nat := fun here =>
  let (digits, next) := here.span Decimal.isDigit
  if digits.isEmpty || 9 < digits.length then none else some (Decimal.value digits, next)

def versionLine : Reader Token := fun here => do
  let (major, here) ← versionPart here.skipBlanks
  if !here.startsWith '.' then none
  else
    let (minor, here) ← versionPart (here.drop 1)
    some (.version major minor, here)

def handleLine : Reader Token := fun here => do
  let here := here.skipBlanks
  if !here.startsWith '!' then none
  else
    let (word, isHandle, next) := handleWord here
    let name ← if isHandle then some (handleName word) else if word.isEmpty then some "!" else none
    if !next.rest.head?.any isBlank then none
    else
      let (expansion, next) ← nonEmptyUri true next.skipBlanks
      if endsWord next.rest then some (.handle name (String.ofList expansion), next) else none

def directive : Reader Token := fun mark => do
  let (name, here) := (mark.drop 1).span isNameChar
  if !endsWord here.rest then none
  else
    let (token, here) ← match String.ofList name with
      | "YAML" => versionLine here
      | "TAG" => handleLine here
      | _ => none
    let here := here.skipBlanks
    let here := if here.startsWith '#' then (here.span (!isBreak ·)).2 else here
    match here.rest with
    | [] => some (token, here)
    | c :: _ => if isBreak c then some (token, here.drop 1) else none

end RowQuery.Yaml

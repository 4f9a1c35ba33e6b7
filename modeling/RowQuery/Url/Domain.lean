import RowQuery.Text.Mark
import RowQuery.Text.Split
import RowQuery.Text.Utf8
import RowQuery.Url.Domain.Bidi
import RowQuery.Url.Domain.Form
import RowQuery.Url.Domain.Joining
import RowQuery.Url.Punycode

/-!
# Domain names

A domain name is brought into its form and then checked label by label. A label that begins with
`xn--` must stand for a text in its form, not all of ASCII. No label may begin with a mark, a joiner
must be justified by its neighbours, and once a label holds a character that is written from right
to left, every label must keep one direction. The form of the name is given, in which the labels
past ASCII stay as they are.
-/
namespace RowQuery.Url.Domain

def isForbidden (c : Char) : Bool :=
  let n := c.toNat
  n ≤ 0x20 || n == 0x7f || "%#/:<>?@[\\]^|".toList.contains c

/-! ## Labels -/

def punycodeMark : List Char := "xn--".toList

def maxEncoded : Nat := 2000

def maxDecoded : Nat := 1000

def isStable (s : List Char) : Bool := mapped? s = some s && !s.contains '.'

def decodedTail? (tail : List Char) : Option (List Char) :=
  if !tail.all isAscii || tail.getLast? = some '-' || maxEncoded < tail.length then none
  else (Punycode.decode? tail).filter fun cs => !cs.all isAscii && isStable cs

def decoded? (label : List Char) : Option (List Char) :=
  if punycodeMark.isPrefixOf label then decodedTail? (label.drop punycodeMark.length)
  else if label.all isAscii || label.length ≤ maxDecoded then some label
  else none

def isJoiner (c : Char) : Bool := c.toNat == 0x200d

def isNonJoiner (c : Char) : Bool := c.toNat == 0x200c

def isVirama (c : Char) : Bool := Text.combiningClass c == 9

/-- A joiner must follow a virama; a non-joiner may also stand between two letters that would join,
whatever marks lie between. `before` is what stands before, last first. -/
def joinersOk (before : List Char) : List Char → Bool
  | [] => true
  | c :: rest =>
    let afterVirama := before.head?.any isVirama
    let betweenJoining :=
      (before.dropWhile isTransparent).head?.any (fun b => joinsNext.contains b.toNat) &&
        (rest.dropWhile isTransparent).head?.any fun a => joinsPrevious.contains a.toNat
    let ok :=
      if isJoiner c then afterVirama
      else if isNonJoiner c then afterVirama || betweenJoining
      else true
    ok && joinersOk (c :: before) rest

def labelOk (label : List Char) : Bool :=
  !label.head?.any Text.isMark && joinersOk [] label

/-! ## Directions -/

def bidiClasses (label : List Char) : List BidiClass := label.map BidiClass.of

def isBidi (label : List Char) : Bool :=
  label.any fun c => [.rightToLeft, .arabicNumber].contains (BidiClass.of c)

/-- A label keeps the direction of its first character, which must have one, up to its end. -/
def directionOk (label : List Char) : Bool :=
  let classes := bidiClasses label
  let last := (classes.reverse.dropWhile (· == .nonspacing)).head?
  match classes.head? with
  | none => true
  | some .rightToLeft =>
    !classes.contains .leftToRight &&
      last.any (fun d => d == .rightToLeft || d == .europeanNumber || d == .arabicNumber) &&
      !(classes.contains .europeanNumber && classes.contains .arabicNumber)
  | some .leftToRight =>
    !classes.contains .rightToLeft && !classes.contains .arabicNumber &&
      last.any fun d => d == .leftToRight || d == .europeanNumber
  | some _ => false

/-! ## Names -/

def labelsOk (labels : List (List Char)) : Bool :=
  labels.all labelOk && (!labels.any isBidi || labels.all directionOk)

def toAscii? (bytes : List UInt8) : Option (List Char) := do
  let name ← mapped? (Utf8.decodeLossy bytes)
  if name.any isForbidden then none
  else
    let labels ← (Text.splitBy (· == '.') name).mapM decoded?
    if labelsOk labels then some name else none

end RowQuery.Url.Domain

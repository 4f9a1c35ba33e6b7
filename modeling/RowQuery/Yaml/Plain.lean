import RowQuery.Number.Hexadecimal
import RowQuery.Number.Literal
import RowQuery.Text.Blank

/-!
# Texts that may stand plain in YAML

A text is plain where no reader takes it for anything but this text. What would be nothing, a
boolean or a number is not plain, nor is what begins with an indicator or a blank, or holds a
comment mark, a comma or a control character. A key holds no colon, and a value none at its end or
before a blank; a value holds no bracket either, and is none of the words that older readers take
for a boolean.
-/
namespace RowQuery.Yaml.Plain

/-! ## Words and numbers -/

def lower (s : List Char) : String := String.ofList (s.map Char.toLower)

def isNull (s : List Char) : Bool := ["~", "null"].contains (lower s)

def isBool (s : List Char) : Bool := ["true", "false"].contains (lower s)

/-- Whether some reader takes a text for a boolean; blanks around it do not matter. -/
def isOldBool (s : List Char) : Bool :=
  ["true", "false", "yes", "no", "on", "off", "y", "n"].contains (lower (Text.trim s))

def isInfinity (s : List Char) : Bool :=
  [".inf", "inf", "infinity"].contains (lower (Literal.unsigned s))

def isNaN (s : List Char) : Bool := [".nan", "nan"].contains (lower s)

def isDotted (s : List Char) : Bool := lower (Literal.unsigned s) = ".inf" || lower s = ".nan"

def areDigits (base : Nat) (s : List Char) : Bool :=
  !s.isEmpty && s.all fun c => c = '_' || (Hexadecimal.digit? c).any (· < base)

def isRun (s : List Char) : Bool := areDigits 10 s && s.head? ≠ some '_'

def isPower : List Char → Bool
  | [] => true
  | mark :: rest => (mark = 'e' || mark = 'E') && isRun (Literal.unsigned rest)

def isDecimal (s : List Char) : Bool :=
  let (integral, rest) := s.span fun c => c = '_' || Decimal.isDigit c
  match rest with
  | '.' :: rest =>
    let (fraction, rest) := rest.span fun c => c = '_' || Decimal.isDigit c
    (if integral.isEmpty then isRun fraction else isRun integral) && isPower rest
  | rest => isRun integral && isPower rest

def isNumber (s : List Char) : Bool :=
  match Literal.unsigned s with
  | '0' :: 'x' :: digits => areDigits 16 digits
  | '0' :: 'o' :: digits => areDigits 8 digits
  | '0' :: 'b' :: digits => areDigits 2 digits
  | digits => isDecimal digits

/-! ## Characters -/

def isControl (c : Char) : Bool := c.toNat < 0x20 || (0x7f ≤ c.toNat && c.toNat ≤ 0x9f)

def isSpace (c : Char) : Bool := [' ', '\t', '\n', '\r', Char.ofNat 0xc].contains c

def isLeadingIndicator (c : Char) : Bool := "-?:[]\x7b\x7d#&*!|>'\"%@\x60".toList.contains c

def hasKeyColon : List Char → Bool
  | [] => false
  | [c] => c = ':'
  | c :: d :: rest => (c = ':' && isSpace d) || hasKeyColon (d :: rest)

def begins (s : List Char) : Bool := s.head?.any fun c => !isSpace c && !isLeadingIndicator c

/-! ## Keys and values -/

def isKey (s : List Char) : Bool :=
  begins s && !isNull s && !isBool s && !isDotted s && !isNumber s &&
    !s.any fun c => c = ':' || c = '#' || c = ',' || isControl c

def isValue (s : List Char) : Bool :=
  begins s && !isNull s && !isOldBool s && !isInfinity s && !isNaN s && !isNumber s &&
    !s.any (fun c => "#,[]\x7b\x7d".toList.contains c || isControl c) && !hasKeyColon s

end RowQuery.Yaml.Plain

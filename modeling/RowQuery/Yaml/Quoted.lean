import RowQuery.Yaml.Plain

/-!
# Texts in double quotes

A quote, a backslash and the characters that would not show are escaped. Keys have fewer short
escapes than values: whatever has none is written by its code point in hexadecimal.
-/
namespace RowQuery.Yaml.Quoted

def hexDigit (n : Nat) : Char := if n < 10 then Char.ofNat (0x30 + n) else Char.ofNat (0x37 + n)

def hex : (width : Nat) → Nat → List Char
  | 0, _ => []
  | width + 1, n => hex width (n / 16) ++ [hexDigit (n % 16)]

def escapeInKey (c : Char) : List Char :=
  if c = '\\' || c = '"' then ['\\', c]
  else if c = '\n' then ['\\', 'n']
  else if c = '\r' then ['\\', 'r']
  else if c = '\t' then ['\\', 't']
  else if Plain.isControl c then ['\\', 'u'] ++ hex 4 c.toNat
  else [c]

def escapeInValue (c : Char) : List Char :=
  match c.toNat with
  | 0x5c => ['\\', '\\']
  | 0x22 => ['\\', '"']
  | 0x00 => ['\\', '0']
  | 0x07 => ['\\', 'a']
  | 0x08 => ['\\', 'b']
  | 0x09 => ['\\', 't']
  | 0x0a => ['\\', 'n']
  | 0x0b => ['\\', 'v']
  | 0x0c => ['\\', 'f']
  | 0x0d => ['\\', 'r']
  | 0x1b => ['\\', 'e']
  | 0x85 => ['\\', 'N']
  | 0x2028 => ['\\', 'L']
  | 0x2029 => ['\\', 'P']
  | 0xfeff => ['\\', 'u', 'F', 'E', 'F', 'F']
  | n => if Plain.isControl c then ['\\', 'x'] ++ hex 2 n else [c]

def key (s : List Char) : List Char := '"' :: s.flatMap escapeInKey ++ ['"']

def value (s : List Char) : List Char := '"' :: s.flatMap escapeInValue ++ ['"']

theorem length_hex (width n : Nat) : (hex width n).length = width := by
  induction width generalizing n with
  | zero => rfl
  | succ width ih => simp [hex, ih]

end RowQuery.Yaml.Quoted

import RowQuery.Text.Unprintable
import RowQuery.Text.GraphemeExtend

/-!
# Quoted text in messages

A value that a message quotes stands between double quotes. A quote, a backslash, a tab, a line
feed, a carriage return and a null have short escapes; a character that would not show, or would
attach to the one before it, is written by its code point in hexadecimal.
-/
namespace RowQuery.Text

def hexDigits (n : Nat) : List Char := Nat.toDigits 16 n

def isPlain (c : Char) : Bool :=
  let n := c.toNat
  if n < 0x7f then 0x20 ≤ n else !graphemeExtend.contains n && !unprintable.contains n

def escapeChar (c : Char) : List Char :=
  if c = '"' then ['\\', '"']
  else if c = '\\' then ['\\', '\\']
  else if c = '\t' then ['\\', 't']
  else if c = '\n' then ['\\', 'n']
  else if c = '\r' then ['\\', 'r']
  else if c = Char.ofNat 0 then ['\\', '0']
  else if isPlain c then [c]
  else ['\\', 'u', '\x7b'] ++ hexDigits c.toNat ++ ['\x7d']

def quote (s : String) : String :=
  String.ofList ('"' :: s.toList.flatMap escapeChar ++ ['"'])

end RowQuery.Text

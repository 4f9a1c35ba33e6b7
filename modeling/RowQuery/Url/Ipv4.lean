import RowQuery.Number.Decimal
import RowQuery.Text.Split

/-!
# IPv4 addresses in hosts

A host whose last label is a number is read as an address of one to four numbers, each decimal,
octal after `0`, or hexadecimal after `0x`. The last number fills the bytes that the others leave.
-/
namespace RowQuery.Url.Ipv4

open Text (splitBy)

def isOctal (c : Char) : Bool := '0' ≤ c && c ≤ '7'

def isHex (c : Char) : Bool :=
  Decimal.isDigit c || ('a' ≤ c && c ≤ 'f') || ('A' ≤ c && c ≤ 'F')

def hexDigit (c : Char) : Nat :=
  if Decimal.isDigit c then c.toNat - 0x30 else c.toUpper.toNat - 0x37

def inBase (base : Nat) (digits : List Char) : Nat :=
  digits.foldl (fun n c => n * base + hexDigit c) 0

def part? : List Char → Option Nat
  | [] => none
  | '0' :: 'x' :: digits | '0' :: 'X' :: digits =>
    if digits.all isHex then some (inBase 16 digits) else none
  | '0' :: c :: digits => if (c :: digits).all isOctal then some (inBase 8 (c :: digits)) else none
  | digits => if digits.all Decimal.isDigit then some (inBase 10 digits) else none

def labels (host : List Char) : List (List Char) := splitBy (· == '.') host

def innerLabels (host : List Char) : List (List Char) :=
  match (labels host).reverse with
  | [] :: last :: rest => (last :: rest).reverse
  | other => other.reverse

def endsInNumber (host : List Char) : Bool :=
  match (innerLabels host).getLast? with
  | some [] | none => false
  | some last => last.all Decimal.isDigit || (part? last).isSome

def isAddress (host : List Char) : Bool :=
  match (innerLabels host).mapM part? with
  | none => false
  | some numbers =>
    match numbers.reverse with
    | [] => false
    | last :: before =>
      before.length < 4 && before.all (· ≤ 255) && last < Nat.pow 256 (4 - before.length)

end RowQuery.Url.Ipv4

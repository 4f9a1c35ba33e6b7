import RowQuery.Url.Ipv4

/-!
# IPv6 addresses in hosts

Eight groups of up to four hexadecimal digits; one run of groups may be left out between two colons,
and a dotted address may stand for the last two groups.
-/
namespace RowQuery.Url.Ipv6

def dottedPart (part : List Char) : Bool :=
  match part with
  | [] => false
  | ['0'] => true
  | '0' :: _ => false
  | digits => digits.all Decimal.isDigit && Decimal.value digits ≤ 255

def isDotted (s : List Char) : Bool :=
  let parts := Ipv4.labels s
  parts.length == 4 && parts.all dottedPart

/-- Whether the text completes an address after `count` groups. A left-out run counts as a group;
the first argument bounds the number of steps. -/
def groups : Nat → Nat → Bool → List Char → Bool
  | 0, _, _, _ => false
  | _, count, compressed, [] => compressed || count == 8
  | fuel + 1, count, compressed, c :: rest =>
    if count == 8 then false
    else if c = ':' then !compressed && groups fuel (count + 1) true rest
    else
      let digits := ((c :: rest).take 4).takeWhile Ipv4.isHex
      match (c :: rest).drop digits.length with
      | [] => groups fuel (count + 1) compressed []
      | '.' :: _ =>
        !digits.isEmpty && count ≤ 6 && isDotted (c :: rest) && (compressed || count == 6)
      | ':' :: [] => false
      | ':' :: rest => groups fuel (count + 1) compressed rest
      | _ => false

def isAddress (s : List Char) : Bool :=
  match s with
  | [] | [_] => false
  | ':' :: ':' :: rest => groups (rest.length + 1) 1 true rest
  | ':' :: _ => false
  | _ => groups (s.length + 1) 0 false s

end RowQuery.Url.Ipv6

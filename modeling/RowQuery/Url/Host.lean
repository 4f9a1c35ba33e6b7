import RowQuery.Text.Percent
import RowQuery.Text.Utf8
import RowQuery.Url.Domain
import RowQuery.Url.Fault
import RowQuery.Url.Ipv6

/-!
# Hosts

A host in brackets is an IPv6 address. Under a special scheme any other host is a domain name,
percent-decoded first, or an IPv4 address if its last label is a number; under other schemes it is
opaque and only some characters are forbidden.
-/
namespace RowQuery.Url.Host

def bracketed? : List Char → Option (Except Fault (List Char))
  | '[' :: rest =>
    match rest.reverse with
    | ']' :: inner => some (.ok inner.reverse)
    | _ => some (.error .invalidIpv6)
  | _ => none

def checkIpv6 (inner : Except Fault (List Char)) : Except Fault Unit := do
  if Ipv6.isAddress (← inner) then .ok () else .error .invalidIpv6

def checkDomain (host : List Char) : Except Fault Unit :=
  match bracketed? host with
  | some inner => checkIpv6 inner
  | none =>
    match Domain.toAscii? (Percent.decode (Utf8.encode host)) with
    | none => .error .invalidDomain
    | some [] => .error .emptyHost
    | some domain =>
      if Ipv4.endsInNumber domain && !Ipv4.isAddress domain then .error .invalidIpv4 else .ok ()

def isForbiddenOpaque (c : Char) : Bool :=
  c.toNat == 0 || "\t\n\r #/:<>?@[\\]^|".toList.contains c

def checkOpaque (host : List Char) : Except Fault Unit :=
  match bracketed? host with
  | some inner => checkIpv6 inner
  | none => if host.any isForbiddenOpaque then .error .invalidDomainCharacter else .ok ()

end RowQuery.Url.Host

import RowQuery.Text.Percent
import RowQuery.Text.Split
import RowQuery.Text.Utf8
import RowQuery.Url.Host

/-!
# URL references

A reference is read against `http://localhost/`, after the URL standard of the web: characters up to
U+0020 at its ends and all tabs and line breaks are dropped, then come a scheme, an authority, a
path, a query and a fragment. Only the authority can be at fault, and only the query is kept, with
the characters that may not stand in a query percent-encoded.
-/
namespace RowQuery.Url

inductive SchemeKind
  | file
  /-- A special scheme of the network: a domain as host, and backslashes are slashes. -/
  | network
  | other
deriving DecidableEq, Repr

def SchemeKind.isSpecial (k : SchemeKind) : Bool := k != .other

def baseScheme : List Char := "http".toList

def schemeKind (scheme : List Char) : SchemeKind :=
  if scheme = "file".toList then .file
  else if ["http", "https", "ws", "wss", "ftp"].any (fun s => s.toList = scheme) then .network
  else .other

def isTabOrBreak (c : Char) : Bool := c = '\t' || c = '\n' || c = '\r'

def isControlOrSpace (c : Char) : Bool := c.toNat ≤ 0x20

def clean (s : List Char) : List Char :=
  let trimmed := ((s.dropWhile isControlOrSpace).reverse.dropWhile isControlOrSpace).reverse
  trimmed.filter fun c => !isTabOrBreak c

def isAlpha (c : Char) : Bool := ('a' ≤ c && c ≤ 'z') || ('A' ≤ c && c ≤ 'Z')

def isSchemeChar (c : Char) : Bool :=
  isAlpha c || Decimal.isDigit c || c = '+' || c = '-' || c = '.'

def scheme? (s : List Char) : Option (List Char × List Char) :=
  match s with
  | [] => none
  | c :: _ =>
    if !isAlpha c then none
    else
      match s.dropWhile isSchemeChar with
      | ':' :: rest => some ((s.takeWhile isSchemeChar).map Char.toLower, rest)
      | _ => none

def isSlash (c : Char) : Bool := c = '/' || c = '\\'

def endsAuthority (kind : SchemeKind) (c : Char) : Bool :=
  c = '/' || c = '?' || c = '#' || (kind.isSpecial && c = '\\')

def isPortNumber (port : Nat) : Bool := port ≤ 65535

def afterLastAt (s : List Char) : Option (List Char × List Char) :=
  let tail := (s.reverse.takeWhile (· != '@')).reverse
  if tail.length = s.length then none else some (s.take (s.length - tail.length - 1), tail)

/-- Whether user information leaves a mark: not if it is empty or a colon alone. -/
def hasCredentials (userinfo : List Char) : Bool := userinfo != [] && userinfo != [':']

def hostLength : Bool → List Char → Nat
  | _, [] => 0
  | bracket, c :: rest =>
    if c = ':' && !bracket then 0
    else hostLength (if c = '[' then true else if c = ']' then false else bracket) rest + 1

def checkPort (kind : SchemeKind) (port : List Char) : Except Fault Unit :=
  -- Outside special schemes a backslash still ends the port.
  let digits := if kind.isSpecial then port else port.takeWhile (· != '\\')
  if !digits.all Decimal.isDigit then
    .error .invalidPort
  else if isPortNumber (Decimal.value digits) then .ok () else .error .invalidPort

def checkHostAndPort (kind : SchemeKind) (credentials : Bool) (s : List Char) :
    Except Fault Unit := do
  let host := s.take (hostLength false s)
  let rest := s.drop host.length
  if kind.isSpecial then
    if host.isEmpty then .error .emptyHost
    Host.checkDomain host
  else
    Host.checkOpaque host
    if host.isEmpty && !rest.isEmpty then .error .emptyHost
  match rest with
  | [] => .ok ()
  | _ :: port => checkPort kind port
  if host.isEmpty && credentials then .error .emptyHost

def afterAuthority (kind : SchemeKind) (s : List Char) : Except Fault (List Char) := do
  let authority := s.takeWhile fun c => !endsAuthority kind c
  let rest := s.drop authority.length
  match afterLastAt authority with
  | none => checkHostAndPort kind false authority
  | some ([], host) =>
    if host.isEmpty && !rest.isEmpty then .error .emptyHost
    checkHostAndPort kind false host
  | some (userinfo, host) => checkHostAndPort kind (hasCredentials userinfo) host
  .ok rest

def isDriveLetter : List Char → Bool
  | [letter, mark] => isAlpha letter && (mark = ':' || mark = '|')
  | _ => false

/-- A file URL has a host only after two slashes, and no drive letter is one. -/
def afterFileHost (s : List Char) : Except Fault (List Char) :=
  match s with
  | a :: b :: rest =>
    if isSlash a && isSlash b then
      let host := rest.takeWhile fun c => !(isSlash c || c = '?' || c = '#')
      if host.isEmpty || isDriveLetter host then .ok rest
      else do
        Host.checkDomain host
        .ok (rest.drop host.length)
    else .ok s
  | _ => .ok s

def afterHost (s : List Char) : Except Fault (SchemeKind × List Char) :=
  match scheme? s with
  | none =>
    match s with
    | '/' :: '/' :: rest => do .ok (.network, ← afterAuthority .network rest)
    | _ =>
      if 2 ≤ (s.takeWhile isSlash).length then do
        .ok (.network, ← afterAuthority .network (s.dropWhile isSlash))
      else .ok (.network, s)
  | some (scheme, rest) =>
    match schemeKind scheme with
    | .file => do .ok (.file, ← afterFileHost rest)
    | .network =>
      if (rest.takeWhile isSlash).length < 2 && scheme = baseScheme then .ok (.network, rest)
      else do .ok (.network, ← afterAuthority .network (rest.dropWhile isSlash))
    | .other =>
      match rest with
      | '/' :: '/' :: rest => do .ok (.other, ← afterAuthority .other rest)
      | _ => .ok (.other, rest)

def rawQuery? (s : List Char) : Option (List Char) :=
  match s.dropWhile fun c => c != '?' && c != '#' with
  | '?' :: rest => some (rest.takeWhile (· != '#'))
  | _ => none

def encodesInQuery (special : Bool) (b : UInt8) : Bool :=
  b ≤ 0x20 || 0x7f ≤ b || b == 0x22 || b == 0x23 || b == 0x3c || b == 0x3e ||
    (special && b == 0x27)

def encodeQueryByte (special : Bool) (b : UInt8) : List Char :=
  if encodesInQuery special b then Percent.encodeByte b else [Char.ofNat b.toNat]

def encodeQuery (special : Bool) (query : List Char) : String :=
  String.ofList ((Utf8.encode query).flatMap (encodeQueryByte special))

def query? (reference : String) : Except Fault (Option String) := do
  let (kind, rest) ← afterHost (clean reference.toList)
  .ok ((rawQuery? rest).map (encodeQuery kind.isSpecial))

end RowQuery.Url

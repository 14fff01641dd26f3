import ThermalPrint.Fault
import ThermalPrint.Text.Blank
import ThermalPrint.Text.Case
import ThermalPrint.Text.Hex
import ThermalPrint.Text.Punycode
import ThermalPrint.Text.Quoted
import ThermalPrint.Text.Utf8

/-
Addresses of the web: how a text is divided into the parts of one, and how the parts are
joined again with nothing but ASCII in them.  In the place of the name of a host there may be
an address of one of the two versions of the Internet protocol.
-/

namespace ThermalPrint

namespace IpAddress

private def isDigit (c : CodePoint) : Bool := 48 ≤ c.toNat && c.toNat ≤ 57

/-- A number below 256 without zeros in front of it. -/
def isOctet (t : Text) : Bool :=
  !t.isEmpty && t.length ≤ 3 && t.all isDigit && (t = "0" || t.head? ≠ some (.char '0'))
    && t.foldl (fun n c => 10 * n + (c.toNat - 48)) 0 < 256

def isVersion4 (t : Text) : Bool :=
  let parts := Text.splitOn '.' t
  parts.length = 4 && parts.all isOctet

def isGroup (t : Text) : Bool :=
  !t.isEmpty && t.length ≤ 4 && t.all fun c => (Text.hexValue? c).isSome

/-- Groups with colons between them, of which the last two may be written as an address of
version 4, as groups alone. -/
private def groups? (t : Text) : Option (List Text) :=
  let parts := Text.splitOn ':' t
  let last := parts.getLast?.getD []
  if parts.length < 3 then none
  else if last.contains '.' then
    if isVersion4 last then some (parts.dropLast ++ [("0" : Text), ("0" : Text)]) else none
  else some parts

/-- Eight groups, or fewer where two colons stand for those that are zero. -/
private def areGroups (parts : List Text) : Bool :=
  let inner := (parts.drop 1).dropLast
  let front := parts.head?.getD []
  let back := parts.getLast?.getD []
  if 9 < parts.length || 1 < inner.count [] then false
  else match inner.findIdx? (·.isEmpty) with
    | none => parts.length = 8 && parts.all isGroup
    | some i =>
      let high := parts.take (i + 1)
      let low := parts.drop (i + 2)
      let high := if front.isEmpty then high.drop 1 else high
      let low := if back.isEmpty then low.dropLast else low
      (!front.isEmpty || high.isEmpty) && (!back.isEmpty || low.isEmpty)
        && high.length + low.length ≤ 7 && (high ++ low).all isGroup

/-- An address of version 6; the name of a zone may follow a percent sign. -/
def isVersion6 (t : Text) : Bool :=
  let address := t.takeWhile (· ≠ .char '%')
  let zoned := match t.drop address.length with
    | [] => true
    | _ :: zone => !zone.isEmpty && !zone.contains '%'
  zoned && !t.contains '/' && ((groups? address).map areGroups).getD false

end IpAddress

structure Url where
  scheme : Text := []
  authority : Text := []
  path : Text := []
  query : Text := []
  fragment : Text := []
deriving DecidableEq, Repr

inductive UrlFault
  | brackets
  | futureAddress
  | notAnAddress (host : Text)
  | bracketedVersion4
  | ambiguous (authority : Text)
  | badPort (port : Text)
  | portOutOfRange
  | labelSize
  | lastLabelSize
  | badCharacter (c : CodePoint)
  | unpaired (fault : Utf8.Unpaired)
deriving DecidableEq, Repr

namespace UrlFault

private def ofHost (message : Text) : Fault :=
  .value .unicode ("encoding with 'idna' codec failed (UnicodeError: " ++ message ++ ")")

def toFault : UrlFault → Fault
  | brackets => .value .value "Invalid IPv6 URL"
  | futureAddress => .value .value "IPvFuture address is invalid"
  | notAnAddress host =>
    .value .value (Text.quote host ++ " does not appear to be an IPv4 or IPv6 address")
  | bracketedVersion4 => .value .value "An IPv4 address cannot be in brackets"
  | ambiguous authority =>
    .value .value ("netloc '" ++ authority
      ++ "' contains invalid characters under NFKC normalization")
  | badPort port =>
    .value .value ("Port could not be cast to integer value as " ++ Text.quote port)
  | portOutOfRange => .value .value "Port out of range 0-65535"
  | labelSize => ofHost "label empty or too long"
  | lastLabelSize => ofHost "label too long"
  | badCharacter c => ofHost ("Invalid character " ++ Text.quote [c])
  | unpaired fault => .value .unicodeEncode fault.message

end UrlFault

namespace Url

private def cut (c : CodePoint) (t : Text) : Text × Option Text :=
  let front := t.takeWhile (· ≠ c)
  match t.drop front.length with
  | [] => (front, none)
  | _ :: rest => (front, some rest)

/-- Control characters and spaces at the front, and line breaks and tabs anywhere, do not
count. -/
def clean (t : Text) : Text :=
  (t.dropWhile fun c => c.toNat ≤ 32).filter
    fun (c : CodePoint) => !(c = '\t' || c = '\r' || c = '\n')

private def isSchemeChar (c : CodePoint) : Bool :=
  c.is Char.isAlphanum || c = '+' || c = '-' || c = '.'

private def splitScheme (t : Text) : Text × Text :=
  match cut ':' t with
  | (scheme, some rest) =>
    if (scheme.head?.map (CodePoint.is Char.isAlpha)).getD false && scheme.all isSchemeChar then
      (scheme.map CodePoint.toLower, rest)
    else ([], t)
  | _ => ([], t)

private def bracketed (t : Text) : Text := (cut ']' ((cut '[' t).2.getD [])).1

private def isFutureAddress (host : Text) : Bool :=
  let digits := (host.drop 1).takeWhile fun c => (Text.hexValue? c).isSome
  match host.drop (1 + digits.length) with
  | '.' :: c :: rest => !digits.isEmpty && !(c :: rest).contains '\n'
  | _ => false

private def checkBrackets (authority : Text) : Except UrlFault Unit :=
  if authority.contains '[' != authority.contains ']' then .error .brackets
  else if authority.contains '[' then
    let host := bracketed authority
    if host.head? = some (.char 'v') then
      if isFutureAddress host then .ok () else .error .futureAddress
    else if IpAddress.isVersion4 host then .error .bracketedVersion4
    else if IpAddress.isVersion6 host then .ok ()
    else .error (.notAnAddress host)
  else .ok ()

/-- Characters that are other forms of one of those that divide an address, or hold one. -/
def disguisedMarks : Text :=
  ['\u2047', '\u2048', '\u2049', '\u2100', '\u2101', '\u2105', '\u2106', '\u2a74', '\ufe13',
    '\ufe16', '\ufe55', '\ufe56', '\ufe5f', '\ufe6b', '\uff03', '\uff0f', '\uff1a', '\uff1f',
    '\uff20']

/-- Divides a text into the parts of an address. -/
def split (t : Text) : Except UrlFault Url := do
  let (scheme, rest) := splitScheme (clean t)
  let (authority, rest) := match rest with
    | '/' :: '/' :: more =>
      let authority := more.takeWhile fun (c : CodePoint) => !(c = '/' || c = '?' || c = '#')
      (authority, more.drop authority.length)
    | _ => ([], rest)
  checkBrackets authority
  let (rest, fragment) := cut '#' rest
  let (path, query) := cut '?' rest
  if authority.any disguisedMarks.contains then throw (.ambiguous authority)
  return ⟨scheme, authority, path, query.getD [], fragment.getD []⟩

def schemesWithAuthority : List Text :=
  ["ftp", "http", "gopher", "nntp", "telnet", "imap", "wais", "file", "mms", "https", "shttp",
    "snews", "prospero", "rtsp", "rtsps", "rtspu", "rsync", "svn", "svn+ssh", "sftp", "nfs",
    "git", "git+ssh", "ws", "wss"]

def join (u : Url) : Text :=
  let hasAuthority := !u.authority.isEmpty
    || schemesWithAuthority.contains u.scheme || u.path.take 2 = "//"
  let path : Text :=
    if hasAuthority then
      "//" ++ u.authority
        ++ (if u.path.isEmpty || u.path.head? = some (.char '/') then u.path
          else .char '/' :: u.path)
    else u.path
  (if u.scheme.isEmpty then [] else u.scheme ++ [.char ':']) ++ path
    ++ (if u.query.isEmpty then [] else .char '?' :: u.query)
    ++ (if u.fragment.isEmpty then [] else .char '#' :: u.fragment)

private def cutLast (c : CodePoint) (t : Text) : Option Text × Text :=
  let back := (t.reverse.takeWhile (· ≠ c)).reverse
  if back.length = t.length then (none, t) else (some (t.take (t.length - back.length - 1)), back)

/-- The host of an authority in small letters, the port, and who asks. -/
structure Authority where
  user : Text := []
  password : Text := []
  host : Text
  port : Text := []

def authorityOf (t : Text) : Authority :=
  let (who, place) := cutLast '@' t
  let (user, password) := cut ':' (who.getD [])
  let (host, port) := match cut '[' place with
    | (_, some inside) =>
      let (host, behind) := cut ']' inside
      (host, (cut ':' (behind.getD [])).2)
    | (_, none) => cut ':' place
  let (name, zone) := cut '%' host
  { user, password := password.getD []
    host := Text.lower name ++ (match zone with | some z => .char '%' :: z | none => [])
    port := port.getD [] }

private def portNumber (port : Text) : Except UrlFault (Option Nat) :=
  if port.isEmpty then .ok none
  else if port.all (CodePoint.is Char.isDigit) then
    let n := port.foldl (fun n c => 10 * n + (c.toNat - 48)) 0
    if n ≤ 65535 then .ok (some n) else .error .portOutOfRange
  else .error (.badPort port)

private def isLabelDot (c : CodePoint) : Bool :=
  c = '.' || c = '\u3002' || c = '\uff0e' || c = '\uff61'

private def labels (t : Text) : List Text :=
  Text.splitOn '.' (t.map fun c => if isLabelDot c then .char '.' else c)

private def isMeaningless (c : CodePoint) : Bool :=
  c.isHalf || (0xE000 ≤ c.toNat && c.toNat ≤ 0xF8FF) || 0xF0000 ≤ c.toNat

private def asciiLabel (label : Text) : Except UrlFault Text := do
  let coded ←
    if label.all fun c => c.toNat < 128 then pure label
    else match List.find? isMeaningless label with
      | some c => throw (.badCharacter c)
      | none =>
        let small := Text.lower label
        pure ("xn--".toText ++ (Punycode.encode small).map fun b => .ofNat b.toNat)
  if 0 < coded.length ∧ coded.length < 64 then .ok coded else .error .labelSize

/-- A host in ASCII.  Its labels have up to 63 characters, and only the last may have none. -/
def asciiHost (host : Text) : Except UrlFault Text :=
  if host.isEmpty then .ok []
  else if host.all fun c => c.toNat < 128 then
    let parts := Text.splitOn '.' host
    if parts.dropLast.any fun l => l.isEmpty || 64 ≤ l.length then .error .labelSize
    else if 64 ≤ (parts.getLast?.getD []).length then .error .lastLabelSize
    else .ok host
  else
    let parts := labels host
    let trailing := parts.getLast? = some []
    ((if trailing then parts.dropLast else parts).mapM asciiLabel).map fun coded =>
      ".".toText.intercalate coded ++ (if trailing then [.char '.'] else [])

/-- The bytes of a text, those that may not stand in an address as percent signs with two
digits. -/
def escape (safe : CodePoint → Bool) (t : Text) : Except UrlFault Text :=
  match Utf8.encode t with
  | .error fault => .error (.unpaired fault)
  | .ok bytes => .ok (bytes.flatMap fun b =>
    let c := CodePoint.ofNat b.toNat
    if c.toNat < 128 && (c.is Char.isAlphanum || "_.-~".toText.contains c || safe c) then [c]
    else '%' :: (Text.hexOfByte b).map CodePoint.toUpper)

private def isSafe (c : CodePoint) : Bool := "%!$&'()*+,/:;=@".toText.contains c
private def isSafeInUser (c : CodePoint) : Bool := "%!$&'()*+,;=".toText.contains c
private def isSafeInQuery (c : CodePoint) : Bool := c = '?' || isSafe c
private def isSafeInFragment (c : CodePoint) : Bool := c = '#' || isSafeInQuery c

/-- An address with nothing but ASCII in it. -/
def toAscii (u : Url) : Except UrlFault Url := do
  let path ← escape isSafe u.path
  let query ← escape isSafeInQuery u.query
  let fragment ← escape isSafeInFragment u.fragment
  let a := authorityOf u.authority
  let host ← asciiHost a.host
  let host := if host.contains ':' then .char '[' :: host ++ [.char ']'] else host
  let place := match ← portNumber a.port with
    | none | some 0 => host
    | some n => host ++ s!":{n}"
  let authority ←
    if a.user.isEmpty then pure place
    else do
      let user ← escape isSafeInUser a.user
      let password ← escape isSafeInUser a.password
      pure (user ++ (if password.isEmpty then [] else .char ':' :: password) ++ .char '@' :: place)
  return ⟨u.scheme, authority, path, query, fragment⟩

end Url

end ThermalPrint

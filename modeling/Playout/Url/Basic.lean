import Playout.Url.Domain
import Playout.Url.Path

/-!
# Addresses

An address names a scheme, who asks, a host, a port, a path, a query and a fragment. Reading one brings it
into a single written form: the scheme and the host in small letters, numeric hosts in their usual form, the
port left out where the scheme implies it, the dots of the path resolved, and every character that a part
does not allow encoded. White space around an address and line breaks inside it are left out, and a
backslash counts as a slash.
-/

namespace Playout.Url

inductive Host where
  | domain (name : String)
  | ipv4 (address : Nat)
  | ipv6 (words : List Nat)
deriving DecidableEq, Repr

def Host.text : Host → String
  | .domain name => name
  | .ipv4 address => ipv4Text address
  | .ipv6 words => "[" ++ ipv6Text words ++ "]"

end Url

/-- The address of a resource on a host. -/
structure Url where
  scheme : String
  user : String
  password : String
  host : Url.Host
  port : Option Nat
  segments : List Url.Segment
  query : Option String
  fragment : Option String
deriving DecidableEq, Repr

namespace Url

/-! ## Writing -/

/-- The path, which starts with a slash. -/
def path (u : Url) : String := "/" ++ "/".intercalate (u.segments.map String.ofList)

/-- Who asks, with the mark behind it. -/
def userinfo (u : Url) : String :=
  let password := if u.password.isEmpty then "" else ":" ++ u.password
  if u.user.isEmpty && u.password.isEmpty then "" else u.user ++ password ++ "@"

def text (u : Url) : String :=
  let port := match u.port with
    | some port => s!":{port}"
    | none => ""
  let query := match u.query with
    | some query => "?" ++ query
    | none => ""
  let fragment := match u.fragment with
    | some fragment => "#" ++ fragment
    | none => ""
  u.scheme ++ "://" ++ u.userinfo ++ u.host.text ++ port ++ u.path ++ query ++ fragment

/-! ## The parts of a text -/

/-- Left out around an address. -/
def isBlank (c : Char) : Bool := c.toNat ≤ 0x20

/-- Left out everywhere in an address. -/
def isBreak (c : Char) : Bool := c = '\t' || c = '\n' || c = '\r'

/-- The characters of a text that count. -/
def significant (s : String) : List Char :=
  ((s.toList.dropWhile isBlank).reverse.dropWhile isBlank).reverse.filter (!isBreak ·)

/-- May stand in a scheme behind its first letter. -/
def inScheme (c : Char) : Bool := c.isAlphanum || c = '+' || c = '-' || c = '.'

/-- The scheme in small letters, and what follows its colon. -/
def splitScheme (cs : List Char) : Option (String × List Char) :=
  match cs with
  | [] => none
  | first :: _ =>
    match cs.dropWhile inScheme with
    | ':' :: rest =>
      if first.isAlpha then some (String.ofList ((cs.takeWhile inScheme).map Char.toLower), rest)
      else none
    | _ => none

/-- The port of a scheme whose addresses have a host, if it is such a scheme. -/
def defaultPort? : String → Option Nat
  | "http" => some 80
  | "https" => some 443
  | "ws" => some 80
  | "wss" => some 443
  | "ftp" => some 21
  | _ => none

/-- Ends the part that names the host. -/
def endsAuthority (special : Bool) (c : Char) : Bool :=
  c = '/' || c = '?' || c = '#' || (special && c = '\\')

/-- What stands in front of and behind the last `@`. -/
def splitAtSign (cs : List Char) : Option (List Char × List Char) :=
  let behind := (cs.reverse.takeWhile (· ≠ '@')).reverse
  if behind.length < cs.length then some (cs.take (cs.length - behind.length - 1), behind) else none

/-- The text of the host up to the colon in front of the port; a colon in brackets is part of it. -/
def hostText (inside : Bool) : List Char → List Char
  | [] => []
  | c :: rest =>
    if c = ':' ∧ !inside then []
    else c :: hostText (if c = '[' then true else if c = ']' then false else inside) rest

def bracketed? (cs : List Char) : Option (Except ParseError (List Nat)) :=
  if cs.head? = some '[' then
    some (if cs.getLast? = some ']' then parseIpv6 (cs.drop 1).dropLast else .error .ipv6)
  else none

/-- Reads the host of an address whose scheme has one. -/
def parseHost (cs : List Char) : Except ParseError Host :=
  match bracketed? cs with
  | some words => words.map .ipv6
  | none =>
    match writeDomain (percentDecode cs) with
    | .error e => .error e
    | .ok [] => .error .emptyHost
    | .ok name =>
      if endsInNumber name then (parseIpv4 name).map .ipv4 else .ok (.domain (String.ofList name))

/-- Reads a port; none is written as nothing or as the port that the scheme implies. -/
def parsePort (implied : Option Nat) (cs : List Char) : Except ParseError (Option Nat) :=
  if cs.isEmpty then .ok none
  else if cs.all Char.isDigit then
    match numberIn 10 cs with
    | some port =>
      if 65535 < port then .error .port else .ok (if implied = some port then none else some port)
    | none => .error .port
  else .error .port

/-- The user name and the password in front of the host. -/
def parseUserinfo (cs : List Char) : String × String :=
  let encoded (part : List Char) := String.ofList (percentEncode inUserinfoSet part)
  (encoded (cs.takeWhile (· ≠ ':')), encoded ((cs.dropWhile (· ≠ ':')).drop 1))

/-- What follows a mark in a text, if the mark is there. -/
def behind? (mark : Char) (cs : List Char) : Option (List Char) :=
  match cs.dropWhile (· ≠ mark) with
  | [] => none
  | _ :: rest => some rest

/-! ## Reading -/

/-- Reads an address behind its scheme and the slashes. -/
def parseSpecial (scheme : String) (port : Nat) (cs : List Char) : Except ParseError Url := do
  let authority := cs.takeWhile (!endsAuthority true ·)
  let rest := cs.dropWhile (!endsAuthority true ·)
  let (userinfo, server) := (splitAtSign authority).getD ([], authority)
  let name := hostText false server
  if name.isEmpty then throw .emptyHost
  let host ← parseHost name
  let port ← parsePort (some port) (server.drop (name.length + 1))
  let (user, password) := parseUserinfo userinfo
  let beforeFragment := rest.takeWhile (· ≠ '#')
  return {
    scheme
    user
    password
    host
    port
    segments := pathSegments (beforeFragment.takeWhile (· ≠ '?'))
    query := (behind? '?' beforeFragment).map
      fun cs => String.ofList (percentEncode inSpecialQuerySet cs)
    fragment := (behind? '#' rest).map fun cs => String.ofList (percentEncode inFragmentSet cs) }

/-- May not stand in the host of a scheme that does not define its hosts. -/
def spoilsOpaqueHost (c : Char) : Bool :=
  c = '\x00' || [' ', '#', '/', ':', '<', '>', '?', '@', '[', '\\', ']', '^', '|'].contains c

/-- Checks the part that names the host in an address of another scheme. -/
def checkOpaque (cs : List Char) : Except ParseError Unit := do
  let authority := cs.takeWhile (!endsAuthority false ·)
  let (userinfo, server) := (splitAtSign authority).getD ([], authority)
  if splitAtSign authority = some ([], []) ∧ authority.length < cs.length then throw .emptyHost
  let name := hostText false server
  match bracketed? name with
  | some words => discard words
  | none => if name.any spoilsOpaqueHost then throw .hostCharacter
  let rest := server.drop name.length
  if name.isEmpty ∧ rest.head? = some ':' then throw .emptyHost
  let (user, password) := parseUserinfo userinfo
  discard (parsePort none ((rest.drop 1).takeWhile (· ≠ '\\')))
  if name.isEmpty ∧ !(user.isEmpty && password.isEmpty) then throw .emptyHost

/-- Checks the host of a file's address behind its slashes. A drive letter is no host. -/
def checkFile (cs : List Char) : Except ParseError Unit :=
  let name := cs.takeWhile (!endsAuthority true ·)
  if name.isEmpty || isDriveLetter name then .ok () else discard (parseHost name)

/-- What a text is the address of. -/
inductive Locator where
  /-- A resource on a host. -/
  | resource (url : Url)
  /-- Something that a scheme of its own explains. -/
  | other (scheme : String)
deriving DecidableEq, Repr

def Locator.scheme : Locator → String
  | .resource url => url.scheme
  | .other scheme => scheme

def parse (s : String) : Except ParseError Locator :=
  match splitScheme (significant s) with
  | none => .error .relative
  | some (scheme, rest) =>
    match defaultPort? scheme with
    | some port => (parseSpecial scheme port (rest.dropWhile isSlash)).map .resource
    | none =>
      let checked := match rest with
        | a :: b :: cs =>
          if scheme = "file" then if isSlash a ∧ isSlash b then checkFile cs else .ok ()
          else if a = '/' ∧ b = '/' then checkOpaque cs
          else .ok ()
        | _ => .ok ()
      checked.map fun _ => .other scheme

end Url

end Playout

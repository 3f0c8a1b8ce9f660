import BrokerClient.Uri.Authority
import BrokerClient.Uri.Path

/-!
# URIs

Absolute URIs by the rules that web browsers follow. What is kept of a URI is what names a broker:
scheme, user, host, port and path, all but the host still percent-encoded. Query and fragment are
read over.
-/

namespace BrokerClient

/-- An absolute URI. A URI without an authority has an empty host. -/
structure Uri where
  scheme : String
  user : Uri.User
  host : List Char
  port : Option Nat
  path : List Char
  deriving DecidableEq, Repr

namespace Uri

/-- How the text after the colon of a scheme is read. -/
inductive SchemeKind where
  /-- A well-known scheme, always with a host. -/
  | wellKnown
  /-- The scheme of local files, with or without a host. -/
  | file
  /-- Any other scheme. -/
  | other
  deriving DecidableEq, Repr

def schemeKind (scheme : String) : SchemeKind :=
  if scheme = "file" then .file
  else if ["http", "https", "ws", "wss", "ftp"].contains scheme then .wellKnown
  else .other

def isLetter (c : Char) : Bool :=
  let n := c.toNat
  (65 ≤ n && n ≤ 90) || (97 ≤ n && n ≤ 122)

/-- Characters of a scheme behind its first. -/
def isSchemeChar (c : Char) : Bool :=
  isLetter c || Text.isDigit c || c = '+' || c = '-' || c = '.'

/-- The text without control characters and spaces at its ends and without tabs and line ends. -/
def clean (cs : List Char) : List Char :=
  let isEdge (c : Char) : Bool := c.toNat ≤ 0x20
  let trimmed := ((cs.dropWhile isEdge).reverse.dropWhile isEdge).reverse
  trimmed.filter fun c => !(c = '\t' || c = '\n' || c = '\r')

/-- The scheme of a text in lower case, and the text behind its colon. -/
def splitScheme? (cs : List Char) : Option (String × List Char) :=
  match cs with
  | [] => none
  | c :: _ =>
    if isLetter c then
      match cs.dropWhile isSchemeChar with
      | ':' :: r => some (String.ofList ((cs.takeWhile isSchemeChar).map lowerAscii), r)
      | _ => none
    else none

def endsAuthority (kind : SchemeKind) (c : Char) : Bool :=
  c = '/' || c = '?' || c = '#' || (kind ≠ .other && c = '\\')

def endsPath (c : Char) : Bool :=
  c = '?' || c = '#'

/-- The path behind an authority. One that does not start with a slash gets one. -/
def pathAfterAuthority (cs : List Char) : List Char :=
  match cs.takeWhile fun c => !endsPath c with
  | [] => []
  | '/' :: r => resolvePath r
  | p => resolvePath p

/-- The path of a URI without authority. It is resolved only if it starts with a slash. -/
def pathWithoutAuthority (cs : List Char) : List Char :=
  match cs.takeWhile fun c => !endsPath c with
  | '/' :: r => resolvePath r
  | p => escapeControls p

def slashed (cs : List Char) : List Char :=
  cs.map fun c => if c = '\\' then '/' else c

/-- Reads what stands behind the `//` of an authority. -/
def readWithAuthority (scheme : String) (kind : SchemeKind) (cs : List Char) :
    Except Fault Uri := do
  let authority := cs.takeWhile fun c => !endsAuthority kind c
  let rest := cs.dropWhile fun c => !endsAuthority kind c
  let (a, extra) ← readAuthority (kind = .wellKnown) rest.isEmpty authority
  let path := pathAfterAuthority (extra ++ rest)
  return ⟨scheme, a.user, a.host, a.port, path⟩

/-- Two slashes of either kind at the start of a text. -/
def afterSlashes? : List Char → Option (List Char)
  | a :: b :: r =>
    if (a = '/' || a = '\\') && (b = '/' || b = '\\') then some r else none
  | _ => none

/-- Reads the URI of a local file. Its host, if there is one, must be a domain name. -/
def readFile (scheme : String) (cs : List Char) : Except Fault Uri := do
  let (host, rest) ← match afterSlashes? cs with
    | none => pure ([], cs)
    | some r =>
      let host := r.takeWhile fun c => !endsAuthority .file c
      if host.isEmpty || isDrive host then pure ([], r)
      else
        let name ← readDomain host
        pure (name, r.dropWhile fun c => !endsAuthority .file c)
  return ⟨scheme, User.none, host, none, pathAfterAuthority (slashed rest)⟩

def parse (cs : List Char) : Except Fault Uri :=
  match splitScheme? (clean cs) with
  | none => .error .noScheme
  | some (scheme, r) =>
    match schemeKind scheme with
    | .wellKnown =>
      readWithAuthority scheme .wellKnown (r.dropWhile fun c => c = '/' || c = '\\')
    | .file => readFile scheme r
    | .other =>
      match r with
      | '/' :: '/' :: r => readWithAuthority scheme .other r
      | _ => .ok ⟨scheme, User.none, [], none, pathWithoutAuthority r⟩

end Uri

end BrokerClient

import BrokerClient.Text.Digits
import BrokerClient.Uri.Domain
import BrokerClient.Uri.Ipv4
import BrokerClient.Uri.Ipv6
import BrokerClient.Uri.Path

/-!
# Authorities

The part of a URI after `//`: a user with a password, a host and a port. Hosts of well-known schemes
are domain names or IPv4 addresses; those of all other schemes are kept as they are.
-/

namespace BrokerClient.Uri

inductive Fault where
  | noScheme
  | emptyHost
  | invalidHostCharacter
  | invalidDomainName
  | invalidIpv4
  | invalidIpv6
  | invalidPort
  deriving DecidableEq, Repr

def Fault.message : Fault → String
  | noScheme => "relative URL without a base"
  | emptyHost => "empty host"
  | invalidHostCharacter => "invalid domain character"
  | invalidDomainName => "invalid international domain name"
  | invalidIpv4 => "invalid IPv4 address"
  | invalidIpv6 => "invalid IPv6 address"
  | invalidPort => "invalid port number"

/-- A user as written: the name, and a password if it is not empty. -/
structure User where
  name : List Char
  password : Option (List Char)
  deriving DecidableEq, Repr

def User.none : User := ⟨[], Option.none⟩

/-- The text before the last `@` and the text after it. -/
def splitLastAt : List Char → Option (List Char × List Char)
  | [] => none
  | c :: r =>
    match splitLastAt r with
    | some (before, after) => some (c :: before, after)
    | none => if c = '@' then some ([], r) else none

/-- Characters spelt out in the name and the password of a user. -/
def isEscapedInUser (c : Char) : Bool :=
  isEscapedInPath c || ['/', ':', ';', '=', '@', '[', '\\', ']', '^', '|'].contains c

/-- The name or password of a user with its characters spelt out where needed. -/
def escapeUser (cs : List Char) : List Char :=
  Text.Percent.encodeWhere isEscapedInUser cs

/-- The user before an `@`: a name and, after the first colon, a password. -/
def readUser (cs : List Char) : User :=
  let name := escapeUser (cs.takeWhile (· ≠ ':'))
  match cs.dropWhile (· ≠ ':') with
  | [] => ⟨name, none⟩
  | _ :: password => ⟨name, if password.isEmpty then none else some (escapeUser password)⟩

/-- The host at the start of a text, which ends at a colon outside brackets. -/
def splitHost (inBrackets : Bool) : List Char → List Char × List Char
  | [] => ([], [])
  | c :: r =>
    if c = ':' && !inBrackets then ([], c :: r)
    else
      let inBrackets := if c = '[' then true else if c = ']' then false else inBrackets
      let (host, rest) := splitHost inBrackets r
      (c :: host, rest)

/-- Characters that no host without meaning to the reader holds. -/
def isForbiddenInHost (c : Char) : Bool :=
  ['\x00', '\t', '\n', '\r', ' ', '#', '/', ':', '<', '>', '?', '@', '[', '\\', ']', '^',
    '|'].contains c

/-- A host in brackets is an IPv6 address. -/
def readBracketed (cs : List Char) : Except Fault (List Char) :=
  match cs with
  | '[' :: r =>
    if r.getLast? = some ']' then
      match parseIpv6? r.dropLast with
      | some pieces => .ok ('[' :: writeIpv6 pieces ++ [']'])
      | none => .error .invalidIpv6
    else .error .invalidIpv6
  | _ => .error .invalidIpv6

/-- The host of a scheme that is not well known. -/
def readOpaqueHost (cs : List Char) : Except Fault (List Char) :=
  if cs.head? = some '[' then readBracketed cs
  else if cs.any isForbiddenInHost then .error .invalidHostCharacter
  else .ok (escapeControls cs)

/-- The host of a well-known scheme. -/
def readDomain (cs : List Char) : Except Fault (List Char) :=
  if cs.head? = some '[' then readBracketed cs
  else
    match domainOf? cs with
    | none => .error .invalidDomainName
    | some name =>
      if name.isEmpty then .error .emptyHost
      else if endsInNumber name && !isIpv4Address name then .error .invalidIpv4
      else .ok name

def maxPort : Nat := 65535

/-- The port after a colon: digits, or nothing for none. It may end at a backslash, and what follows
is returned. -/
def readPort (cs : List Char) : Except Fault (Option Nat × List Char) :=
  let ds := cs.takeWhile Text.isDigit
  let rest := cs.dropWhile Text.isDigit
  if maxPort < Text.decimalValue ds then .error .invalidPort
  else if !rest.isEmpty && rest.head? ≠ some '\\' then .error .invalidPort
  else .ok (if ds.isEmpty then none else some (Text.decimalValue ds), rest)

structure Authority where
  user : User
  host : List Char
  port : Option Nat
  deriving DecidableEq, Repr

/-- The port behind a host, if there is a colon, and the text behind that. -/
def readOptionalPort (cs : List Char) : Except Fault (Option Nat × List Char) :=
  match cs with
  | ':' :: r => readPort r
  | _ => .ok (none, cs)

/-- Reads an authority. An empty host is only taken without user and port, and `atEnd` says whether
the URI ends with its authority. -/
def readAuthority (wellKnown atEnd : Bool) (cs : List Char) :
    Except Fault (Authority × List Char) := do
  let (user, hostAndPort) ← match splitLastAt cs with
    | none => pure (User.none, cs)
    | some ([], r) =>
      if r.isEmpty && !atEnd then throw .emptyHost
      pure (User.none, r)
    | some (u, r) => pure (readUser u, r)
  let (hostText, rest) := splitHost false hostAndPort
  if wellKnown && hostText.isEmpty then throw .emptyHost
  let host ← if wellKnown then readDomain hostText else readOpaqueHost hostText
  if host.isEmpty && !rest.isEmpty then throw .emptyHost
  let (port, rest) ← readOptionalPort rest
  if host.isEmpty && !(user.name.isEmpty && user.password.isNone) then throw .emptyHost
  return (⟨user, host, port⟩, rest)

end BrokerClient.Uri

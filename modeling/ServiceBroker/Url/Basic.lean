import ServiceBroker.Text.Percent
import ServiceBroker.Url.Address

/-!
# URLs

## Main definitions

* `Url`: a URL that has an authority, taken apart
* `Url.write`: its characters
* `Url.Defect`: why a text is no such URL
* the percent-encode sets `Url.inPathSet`, `Url.inUserinfoSet`, `Url.inQuerySet`,
  `Url.inFragmentSet`
-/

namespace ServiceBroker

namespace Url

/-- The host of a URL. A `name` is kept as it is written, except that it is in ASCII and in lower
case on the web. -/
inductive Host where
  | name (cs : List Char)
  | ipv4 (a : Ipv4)
  | ipv6 (a : Ipv6)
  deriving DecidableEq, Repr

/-- The characters of a host. -/
def Host.write : Host → List Char
  | .name cs => cs
  | .ipv4 a => a.write
  | .ipv6 a => '[' :: (a.write ++ [']'])

/-- The schemes of the web have rules of their own for hosts and paths. -/
inductive Scheme where
  | http
  | https
  | other (name : List Char)
  deriving DecidableEq, Repr

/-- The characters of a scheme. -/
def Scheme.write : Scheme → List Char
  | .http => "http".toList
  | .https => "https".toList
  | .other name => name

/-- The scheme is one of the web. -/
def Scheme.isWeb : Scheme → Bool
  | .other _ => false
  | _ => true

/-- The port that need not be written. -/
def Scheme.defaultPort? : Scheme → Option Nat
  | .http => some 80
  | .https => some 443
  | .other _ => none

/-- Why a text is no URL with an authority. -/
inductive Defect where
  | noScheme
  | noAuthority
  | emptyHost
  | badDomain
  | badPort
  | badIpv4
  | badIpv6
  | badHostCharacter
  deriving DecidableEq, Repr

/-- The wording of a defect. -/
def Defect.message : Defect → String
  | .noScheme => "relative URL without a base"
  | .noAuthority => "relative URL with a cannot-be-a-base base"
  | .emptyHost => "empty host"
  | .badDomain => "invalid international domain name"
  | .badPort => "invalid port number"
  | .badIpv4 => "invalid IPv4 address"
  | .badIpv6 => "invalid IPv6 address"
  | .badHostCharacter => "invalid domain character"

/-- Controls and characters beyond ASCII are always percent-encoded. -/
def inControlSet (c : Char) : Bool := c.toNat < 32 || 126 < c.toNat

/-- What is percent-encoded in a fragment. -/
def inFragmentSet (c : Char) : Bool :=
  inControlSet c || c == ' ' || c == '"' || c == '<' || c == '>' || c == '`'

/-- What is percent-encoded in a path. -/
def inPathSet (c : Char) : Bool :=
  inFragmentSet c || c == '#' || c == '?' || c == '\x7b' || c == '\x7d'

/-- What is percent-encoded in a user name and a password. -/
def inUserinfoSet (c : Char) : Bool :=
  inPathSet c || c == '/' || c == ':' || c == ';' || c == '=' || c == '@' || c == '[' ||
    c == '\\' || c == ']' || c == '^' || c == '|'

/-- What is percent-encoded in a query; the web adds the apostrophe. -/
def inQuerySet (web : Bool) (c : Char) : Bool :=
  inControlSet c || c == ' ' || c == '"' || c == '#' || c == '<' || c == '>' || (web && c == '\'')

end Url

/-- A URL that has an authority. Its parts are kept percent-encoded, and no host is not the same as
any name. -/
structure Url where
  scheme : Url.Scheme
  username : List Char
  password : List Char
  host : Option Url.Host
  port : Option Nat
  path : List Char
  query : Option (List Char)
  fragment : Option (List Char)
  deriving DecidableEq, Repr

namespace Url

/-- The user name and password as they stand before the host; nothing if both are empty. -/
def userinfo (u : Url) : List Char :=
  if u.password.isEmpty then
    if u.username.isEmpty then [] else u.username ++ ['@']
  else u.username ++ ':' :: (u.password ++ ['@'])

/-- The host and the port, if it is written. -/
def hostAndPort (u : Url) : List Char :=
  (u.host.map Host.write).getD [] ++
    match u.port with
    | none => []
    | some p => ':' :: Nat.toDigits 10 p

/-- A part that a mark introduces, if it is there. -/
def writePart (mark : Char) : Option (List Char) → List Char
  | none => []
  | some cs => mark :: cs

/-- The characters of a URL. -/
def write (u : Url) : List Char :=
  u.scheme.write ++ "://".toList ++ u.userinfo ++ u.hostAndPort ++ u.path ++
    writePart '?' u.query ++ writePart '#' u.fragment

end Url

end ServiceBroker

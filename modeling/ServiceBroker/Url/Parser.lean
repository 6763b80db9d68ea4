import ServiceBroker.Url.Domain
import ServiceBroker.Url.Path

/-!
# Reading URLs

Texts are read by the rules of the URL standard. Tabs and line breaks count for nothing, and neither
do controls and spaces at the two ends.

## Main definitions

* `Url.parse`: the URL that a text spells
* `Url.parseHost`: the host that a text spells
-/

namespace ServiceBroker.Url

/-- Tabs and line breaks are dropped wherever they stand. -/
def isDropped (c : Char) : Bool := c == '\t' || c == '\n' || c == '\r'

/-- A text without the characters that are dropped. -/
def clean (cs : List Char) : List Char := cs.filter fun c => !isDropped c

/-- A text without the controls and spaces at its two ends. -/
def strip (cs : List Char) : List Char :=
  let outer (c : Char) : Bool := c.toNat ≤ 32
  ((cs.dropWhile outer).reverse.dropWhile outer).reverse

/-- The character ends the authority. -/
def endsAuthority (web : Bool) (c : Char) : Bool :=
  c == '/' || c == '?' || c == '#' || (web && c == '\\')

/-- The character may not stand in a host that is kept as it is. -/
def isForbiddenInHost (c : Char) : Bool :=
  "\x00\t\n\r #/:<>?@[\\]^|".toList.contains c

/-- The host that a text spells. -/
def parseHost (web : Bool) (cs : List Char) : Except Defect (Option Host) :=
  match cs with
  | [] => if web then .error .emptyHost else .ok none
  | '[' :: rest =>
    if rest.getLast? = some ']' then
      match Ipv6.parse? rest.dropLast with
      | some a => .ok (some (.ipv6 a))
      | none => .error .badIpv6
    else .error .badIpv6
  | cs =>
    if web then
      match Domain.toAscii? (Percent.decode cs) with
      | none => .error .badDomain
      | some [] => .error .emptyHost
      | some name =>
        if Ipv4.endsInNumber name then
          match Ipv4.parse? name with
          | some a => .ok (some (.ipv4 a))
          | none => .error .badIpv4
        else .ok (some (.name name))
    else if cs.any isForbiddenInHost then .error .badHostCharacter
    else .ok (some (.name (Percent.encode inControlSet cs)))

/-- A text cut where its host ends: at the end of the authority, or at a colon outside brackets. -/
def splitHost (web bracketed : Bool) : List Char → List Char × List Char
  | [] => ([], [])
  | c :: rest =>
    if endsAuthority web c || (c == ':' && !bracketed) then ([], c :: rest)
    else
      let bracketed := if c == '[' then true else if c == ']' then false else bracketed
      let (host, rest) := splitHost web bracketed rest
      (c :: host, rest)

/-- A text cut at its last at sign, if it has one. -/
def splitUserinfo? (cs : List Char) : Option (List Char × List Char) :=
  match cs.reverse.dropWhile (· ≠ '@') with
  | [] => none
  | _ :: before => some (before.reverse, (cs.reverse.takeWhile (· ≠ '@')).reverse)

/-- The port that a text starts with, and the text after it. No digits are no port. -/
def parsePort (scheme : Scheme) (cs : List Char) : Except Defect (Option Nat × List Char) :=
  let digits := cs.takeWhile isDecimalDigit
  let rest := cs.dropWhile isDecimalDigit
  let ends := match rest with
    | [] => true
    | c :: _ => endsAuthority true c
  -- Digits are read one by one, so a number that is too large is found before a stray character.
  if 65535 < ofDecimalDigits digits || !ends then .error .badPort
  else
    let port := ofDecimalDigits digits
    .ok (if digits.isEmpty || scheme.defaultPort? = some port then none else some port, rest)

/-- The path, query and fragment that a text spells. -/
def parseTail (scheme : Scheme) (cs : List Char) :
    List Char × Option (List Char) × Option (List Char) :=
  let web := scheme.isWeb
  let pathText := cs.takeWhile fun c => c ≠ '?' ∧ c ≠ '#'
  let rest := cs.dropWhile fun c => c ≠ '?' ∧ c ≠ '#'
  let path := match pathText with
    | [] => if web then ['/'] else []
    | c :: text => if endsAuthority web c then Path.ofText web text else Path.ofText web pathText
  let encode := Percent.encode
  match rest with
  | '?' :: rest =>
    let query := encode (inQuerySet web) (rest.takeWhile (· ≠ '#'))
    match rest.dropWhile (· ≠ '#') with
    | _ :: fragment => (path, some query, some (encode inFragmentSet fragment))
    | [] => (path, some query, none)
  | _ :: fragment => (path, none, some (encode inFragmentSet fragment))
  | [] => (path, none, none)

/-- The URL that a text spells after its scheme and the slashes before the authority. -/
def parseAuthority (scheme : Scheme) (cs : List Char) : Except Defect Url := do
  let web := scheme.isWeb
  let authority := cs.takeWhile fun c => !endsAuthority web c
  let beyond := cs.dropWhile fun c => !endsAuthority web c
  -- Only the last at sign ends the user information; earlier ones belong to it.
  let (before, after) := (splitUserinfo? authority).getD ([], authority)
  if (splitUserinfo? authority).isSome ∧ before.isEmpty ∧ after.isEmpty ∧ !beyond.isEmpty then
    throw .emptyHost
  let username := Percent.encode inUserinfoSet (before.takeWhile (· ≠ ':'))
  let password := Percent.encode inUserinfoSet ((before.dropWhile (· ≠ ':')).drop 1)
  let (hostText, rest) := splitHost web false (after ++ beyond)
  let host ← parseHost web hostText
  if host.isNone ∧ rest.head? = some ':' then throw .emptyHost
  let (port, rest) ← match rest with
    | ':' :: rest => parsePort scheme rest
    | rest => .ok (none, rest)
  -- Credentials need a host that they are for.
  if host.isNone ∧ (!username.isEmpty ∨ !password.isEmpty) then throw .emptyHost
  let (path, query, fragment) := parseTail scheme rest
  return { scheme, username, password, host, port, path, query, fragment }

/-- The scheme that a text starts with, and the text after its colon. -/
def parseScheme (cs : List Char) : Except Defect (Scheme × List Char) :=
  let name := cs.takeWhile (· ≠ ':')
  let isSchemeChar (c : Char) : Bool := c.isAlphanum || c == '+' || c == '-' || c == '.'
  match cs.dropWhile (· ≠ ':') with
  | _ :: rest =>
    if (name.head?.map Char.isAlpha).getD false && name.all isSchemeChar then
      let name := name.map Char.toLower
      if name = "http".toList then .ok (.http, rest)
      else if name = "https".toList then .ok (.https, rest)
      else .ok (.other name, rest)
    else .error .noScheme
  | [] => .error .noScheme

/-- The URL that a text spells. On the web the slashes before the authority may be any number of
slashes and backslashes. -/
def parse (text : String) : Except Defect Url := do
  let (scheme, rest) ← parseScheme (clean (strip text.toList))
  if scheme.isWeb then
    parseAuthority scheme (rest.dropWhile fun c => c == '/' || c == '\\')
  else
    match rest with
    | '/' :: '/' :: rest => parseAuthority scheme rest
    | _ => throw .noAuthority

end ServiceBroker.Url

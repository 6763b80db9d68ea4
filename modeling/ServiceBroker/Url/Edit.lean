import ServiceBroker.Url.Parser

/-!
# Changing parts of a URL

## Main definitions

* `Url.setPath`: another path
* `Url.setUsername?`, `Url.setPassword?`: other credentials, for a URL that has a host
* `Url.join`: an endpoint below a base URL
-/

namespace ServiceBroker.Url

/-- The URL with another path. Outside the web a path that starts like a query or fragment, and an
empty one, is no path at all. -/
def setPath (u : Url) (text : String) : Url :=
  let web := u.scheme.isWeb
  -- The text is read as it stands, its ends included, but for tabs and line breaks.
  let path := match clean text.toList with
    | [] => if web then ['/'] else []
    | c :: rest =>
      if !web && (c == '?' || c == '#') then []
      else if Path.endsSegment web c then Path.ofText web rest
      else Path.ofText web (c :: rest)
  { u with path }

/-- The URL with another user name; none can be set where there is no host. -/
def setUsername? (u : Url) (username : String) : Option Url :=
  if u.host.isNone then none
  else some { u with username := Percent.encode inUserinfoSet username.toList }

/-- The URL with another password; none can be set where there is no host. -/
def setPassword? (u : Url) (password : String) : Option Url :=
  if u.host.isNone then none
  else some { u with password := Percent.encode inUserinfoSet password.toList }

/-- The base URL of an API: its path ends in a slash. -/
def asBase (u : Url) : Url :=
  if u.path.getLast? = some '/' then u else u.setPath (String.ofList (u.path ++ ['/']))

/-- The URL of an endpoint: its name takes the place of the last segment of the base path, and query
and fragment are dropped. -/
def join (base : Url) (name : List Char) : Url :=
  let kept := (base.path.reverse.dropWhile (· ≠ '/')).reverse
  { base with path := kept ++ name, query := none, fragment := none }

/-- The URL without its user name and password. -/
def withoutCredentials (u : Url) : Url := { u with username := [], password := [] }

end ServiceBroker.Url

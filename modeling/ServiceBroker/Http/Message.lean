import ServiceBroker.Json.Basic
import ServiceBroker.Text.Split

/-!
# HTTP messages

## Main definitions

* `Http.Target`: the path and the query of a request
* `Http.Request`, `Http.Response`: what is sent and what comes back
* `Http.Request.header?`: the first header with a given name
-/

namespace ServiceBroker.Http

/-- What a request is for: a path and a query, both as they were sent. -/
structure Target where
  path : List Char
  query : List Char
  deriving DecidableEq, Repr

/-- What follows the scheme and the authority of an absolute URL. -/
def afterAuthority : List Char → Option (List Char)
  | ':' :: '/' :: '/' :: rest => some (rest.dropWhile fun c => c ≠ '/' ∧ c ≠ '?')
  | '/' :: _ | [] => none
  | _ :: rest => afterAuthority rest

/-- The path and the query that a text spells; a fragment does not count. -/
def Target.ofText (text : List Char) : Target :=
  let text := (cutAt (· == '#') text).1
  let (path, query) := cutAt (· == '?') ((afterAuthority text).getD text)
  ⟨path, query⟩

/-- A request. -/
structure Request where
  method : String
  target : Target
  headers : List (String × List UInt8)
  body : List UInt8
  deriving DecidableEq, Repr

/-- The first header with a given name, which is written in lower case; the case of the letters in
the request does not count. -/
def Request.header? (r : Request) (name : String) : Option (List UInt8) :=
  (r.headers.find? fun h => h.1.toList.map Char.toLower == name.toList).map (·.2)

/-- The body of a response. -/
inductive Body where
  | empty
  | json (value : Json)
  | text (content : String)
  | lines (content : List String)

/-- A response. The methods that its path allows are only listed when the method was not one of
them. -/
structure Response where
  status : Nat
  contentType : Option String
  allow : List String
  body : Body

namespace Response

/-- A response with a status and nothing else. -/
def bare (status : Nat) : Response := ⟨status, none, [], .empty⟩

/-- A response that holds a JSON value. -/
def json (status : Nat) (value : Json) : Response :=
  ⟨status, some "application/json", [], .json value⟩

/-- A response that holds plain text. -/
def text (status : Nat) (content : String) : Response :=
  ⟨status, some "text/plain; charset=utf-8", [], .text content⟩

/-- The response that lists the methods of its path. -/
def allowing (methods : List String) (r : Response) : Response := { r with allow := methods }

/-- The response without its body. -/
def headOnly (r : Response) : Response := { r with body := .empty }

end Response

end ServiceBroker.Http

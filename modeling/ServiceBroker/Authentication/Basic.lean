import ServiceBroker.Authentication.Header
import ServiceBroker.Digest.Sha256
import ServiceBroker.Failure
import ServiceBroker.Program
import ServiceBroker.Settings.Basic

/-!
# Authentication

## Main definitions

* `Policy`: who may call
* `Policy.ofSettings`: the policy that settings ask for
* `Policy.authenticate`: the verdict on a caller, as a program that may have a token validated
-/

namespace ServiceBroker

/-- Who may call. Of basic credentials only the digests are kept. -/
inductive Policy where
  | anyone
  | basic (username password : List UInt8)
  | token
  deriving DecidableEq, Repr

/-- The verdict on a caller. A header that cannot be cut where its scheme should end brings the
server down. -/
inductive Verdict where
  | admitted (caller : String)
  | refused (failure : Failure)
  | crashed
  deriving DecidableEq, Repr

namespace Policy

/-- A token to be validated. -/
structure Validation where
  token : String
  deriving DecidableEq, Repr

/-- The effects of authentication: a token is validated to the name of its owner. -/
abbrev effects : Effects := ⟨Validation, fun _ => Except Failure String⟩

/-- The digest of a text. -/
def digest (cs : List Char) : List UInt8 := Sha256.digest (Utf8.encode cs)

/-- The policy for one user name and password. -/
def ofCredentials (username password : String) : Policy :=
  .basic (digest username.toList) (digest password.toList)

/-- The policy that settings ask for. Tokens can only be validated if the orchestration platform can
be reached. -/
def ofSettings (s : Settings.Authentication) (platform : Bool) : Except Failure Policy :=
  match s with
  | .anyone => .ok .anyone
  | .basic username password => .ok (ofCredentials username password)
  | .tokenReview =>
    if platform then .ok .token
    else .error (.internal "token_review auth requires a kube client")

/-- What a header that may be missing holds. -/
def lookFor {α : Type} (read : List Char → Header.Found α) : Option (List Char) → Header.Found α
  | none => .absent
  | some value => read value

/-- The verdict on the caller of a request with the given authorization header, if it has one. -/
def authenticate (policy : Policy) (header : Option (List Char)) : Program effects Verdict :=
  match policy with
  | .anyone => .done (.admitted "anonymous")
  | .basic username password =>
    match lookFor Header.basic header with
    | .uncuttable => .done .crashed
    | .absent => .done (.refused (.unauthorized "basic credentials required"))
    | .found (user, pass) =>
      if digest user = username ∧ digest pass = password then
        .done (.admitted (String.ofList user))
      else .done (.refused (.unauthorized "invalid credentials"))
  | .token =>
    match lookFor Header.bearer header with
    | .uncuttable => .done .crashed
    | .absent => .done (.refused (.unauthorized "bearer token required"))
    | .found word =>
      .ask (E := effects) ⟨String.ofList word⟩ fun reply =>
        match (reply : Except Failure String) with
        | .ok caller => .done (.admitted caller)
        | .error failure => .done (.refused failure)

end Policy

end ServiceBroker

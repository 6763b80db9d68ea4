import ServiceBroker.Executor.Failure
import ServiceBroker.Failure
import ServiceBroker.Json.Record
import ServiceBroker.Text.Form

/-!
# The orchestration platform

The platform lists the clusters that a label selector matches, and it reviews bearer tokens.

## Main definitions

* `Platform.Request`, `Platform.Response`: what is sent and what comes back
* `Platform.listClusters`, `Platform.namespaces`: the listing of clusters and what it tells
* `Platform.reviewToken`, `Platform.reviewed`: the review of a token and what it tells
-/

namespace ServiceBroker.Platform

open Json

/-- A request to the platform. -/
structure Request where
  method : String
  uri : String
  body : Option Json

/-- A response of the platform. -/
structure Response where
  status : Nat
  body : List UInt8
  deriving DecidableEq, Repr

/-- The request for the clusters that a label selector matches. -/
def listClusters (selector : String) : Request where
  method := "GET"
  uri :=
    "/apis/crunchydata.com/v1/pgclusters?&labelSelector=" ++ String.ofList (Form.encode selector)
  body := none

/-- The value of a response that is no error and can be read. -/
def read? {α : Type} (reader : Reader α) (r : Response) : Option α :=
  if 400 ≤ r.status && r.status < 600 then none
  else (reader.fromText r.body).toOption

/-- A record that may not be written as a list. -/
def objectOnly {α : Type} (title : String) (r : Record α) : Reader α := fun ctx n =>
  match n with
  | .list .. => Reader.wrongType title ctx n
  | n => r.reader title ctx n

/-- An integer of 64 bits with sign. -/
def signed : Reader Unit := fun ctx n =>
  match n with
  | .number _ (.ok (.negative _)) => .ok ()
  | n => (Reader.natural 9223372036854775807 "i64" ctx n).map fun _ => ()

/-- An object whose members are all read in one way. -/
def mapOf {α : Type} (item : Reader α) : Reader Unit := fun ctx n => do
  let members ← Reader.members ctx n
  for m in members do
    let _ ← item ctx (Node.ofJson m.2)

/-- The fields of an object's metadata, of which the namespace is kept. -/
def metadata : Record (Option String) :=
  (fun name _ _ _ _ _ => name) <$> .optional "namespace" .string <*>
    .optional "name" .string <*> .optional "labels" (mapOf .string) <*>
    .optional "annotations" (mapOf .string) <*> .optional "generation" signed <*>
    texts
where
  /-- The other fields that hold texts. -/
  texts : Record Unit :=
    (fun _ _ _ _ _ _ _ _ => ()) <$> .optional "uid" .string <*>
      .optional "resourceVersion" .string <*> .optional "selfLink" .string <*>
      .optional "generateName" .string <*> .optional "creationTimestamp" .string <*>
      .optional "deletionTimestamp" .string <*>
      .optional "deletionGracePeriodSeconds" signed <*>
      .optional "finalizers" (.list .string)

/-- The namespace of a listed object. -/
def listedObject : Reader (Option String) :=
  objectOnly "DynamicObject" (.withDefault "metadata" (objectOnly "ObjectMeta" metadata) none)

/-- The fields of a list's metadata. -/
def listMetadata : Record Unit :=
  (fun _ _ _ _ => ()) <$> .optional "continue" .string <*>
    .optional "remainingItemCount" signed <*> .optional "resourceVersion" .string <*>
    .optional "selfLink" .string

/-- The namespaces of a list of objects. -/
def objectList : Reader (List (Option String)) :=
  objectOnly "ObjectList" ((fun _ items => items.getD []) <$>
    .withDefault "metadata" (objectOnly "ListMeta" listMetadata) () <*>
    .required "items" (.option (.list listedObject)))

/-- The namespaces of the listed clusters, in the order of the list; objects outside any namespace
are passed over. -/
def namespaces (r : Response) : Except Executor.Failure (List String) :=
  match read? objectList r with
  | some found => .ok (found.filterMap id)
  | none => .error (.transportFailure "listing pgclusters: ")

/-- The request to review a token. -/
def reviewToken (token : String) : Request where
  method := "POST"
  uri := "/apis/authentication.k8s.io/v1/tokenreviews?"
  body := some (.ofMembers [
    ("apiVersion", .string "authentication.k8s.io/v1"), ("kind", .string "TokenReview"),
    ("metadata", .ofMembers []), ("spec", .ofMembers [("token", .string token)])])

/-- What a review says of a token. -/
structure Review where
  authenticated : Option Bool
  error : Option String
  username : Option String
  deriving DecidableEq, Repr

/-- The owner of a token. -/
def owner : Record (Option String) :=
  (fun name _ _ _ => name) <$> .optional "username" .string <*> .optional "uid" .string <*>
    .optional "groups" (.list .string) <*> .optional "extra" (mapOf (.list .string))

/-- The status of a review. -/
def review : Record Review :=
  (fun authenticated error user _ => ⟨authenticated, error, user.bind id⟩) <$>
    .optional "authenticated" .bool <*> .optional "error" .string <*>
    .optional "user" (objectOnly "UserInfo" owner) <*> .optional "audiences" (.list .string)

/-- A text that has to be the given one. -/
def exactly (expected : String) : Reader Unit := fun ctx n => do
  let s ← Reader.string ctx n
  if s = expected then return ()
  else throw (ctx.fail (.wrongValue (.string s) expected) 0)

/-- What was asked to be reviewed. -/
def reviewed? : Reader (Option Review) :=
  objectOnly "TokenReview" ((fun status _ _ _ _ => status) <$>
    .optional "status" (objectOnly "TokenReviewStatus" review) <*>
    .withDefault "apiVersion" (exactly "authentication.k8s.io/v1") () <*>
    .withDefault "kind" (exactly "TokenReview") () <*>
    .optional "metadata" (objectOnly "ObjectMeta" metadata) <*>
    .optional "spec" (objectOnly "TokenReviewSpec" ((fun _ _ => ()) <$>
      .optional "token" .string <*> .optional "audiences" (.list .string))))

/-- The owner of a token that has been reviewed. -/
def Review.owner (r : Review) : Except Failure String :=
  if r.authenticated.getD false then
    match r.username with
    | some name => .ok name
    | none => .error (.internal "TokenReview authenticated but no username")
  else .error (.unauthorized (r.error.getD "token authentication failed"))

/-- The owner of a token, from the response to the request to review it. -/
def reviewed (r : Response) : Except Failure String :=
  match read? reviewed? r with
  | none => .error (.internal "TokenReview API error: ")
  | some none => .error (.internal "TokenReview returned no status")
  | some (some review) => review.owner

end ServiceBroker.Platform

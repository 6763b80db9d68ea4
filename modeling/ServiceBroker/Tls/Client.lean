import ServiceBroker.Executor.Failure
import ServiceBroker.Files
import ServiceBroker.Tls.Certificate

/-!
# Clients of the cluster-management API

A client proves who it is with a certificate, and trusts the server only if a given authority
vouches for it. The files with the material are checked when the client is made.

## Main definitions

* `Tls.Paths`: where the material lies
* `Tls.Identity`: who a client is
* `Tls.prepare`: make a client from the files
-/

namespace ServiceBroker.Tls

/-- Where the material lies: the certificates of the authority, and the certificate and the key of
the client. -/
structure Paths where
  authority : String
  certificate : String
  key : String
  deriving DecidableEq, Repr

/-- The material in a directory. -/
def Paths.inDirectory (directory : String) : Paths where
  authority := Files.inside directory "ca.crt"
  certificate := Files.inside directory "client.crt"
  key := Files.inside directory "client.key"

/-- Where the material lies if nothing else is said. -/
def Paths.standard : Paths := .inDirectory "/opt/apiserver-keys"

/-- The three paths. -/
def Paths.all (p : Paths) : List String := [p.authority, p.certificate, p.key]

/-- Who a client is: certificates, the first of which is its own, and a private key. -/
structure Identity where
  certificates : List (List UInt8)
  keyKind : Pem.Kind
  key : List UInt8
  deriving DecidableEq, Repr

/-- The identity that sections spell: all of their certificates and the last of their keys. Nothing
else may be among them. -/
def Identity.ofSections? (sections : List Pem.Section) : Option Identity :=
  let (certificates, keys) := sections.partition fun s => s.kind == .certificate
  match certificates, keys.getLast? with
  | _ :: _, some key =>
    if keys.any fun s => s.kind == .other then none
    else some ⟨certificates.map (·.content), key.kind, key.content⟩
  | _, _ => none

/-- The key is one that can be used, and belongs to the client's own certificate. -/
def Identity.isUsable (i : Identity) : Bool :=
  match PrivateKey.publicKey? i.keyKind i.key with
  | none => false
  | some none => true
  | some (some key) => (i.certificates.head?.bind Certificate.publicKey?) == some key

/-- The text lists certificates that can be trusted; other sections in it do not count. -/
def isAuthority (text : List UInt8) : Bool :=
  match Pem.sections? text with
  | none => false
  | some sections => (sections.filter fun s => s.kind == .certificate).all fun s =>
      (Certificate.publicKey? s.content).isSome

/-- Check material. The texts of the client's certificate and key are read as one. -/
def check (authority certificate key : List UInt8) : Except Executor.Failure Unit :=
  match (Pem.sections? (certificate ++ 10 :: key)).bind Identity.ofSections? with
  | none => .error (.configuration "invalid client key pair: ")
  | some identity =>
    if isAuthority authority && identity.isUsable then .ok ()
    else .error (.configuration "failed to build HTTP client: ")

/-- The content of a file of material. -/
def load (path : String) : Program Files.effects (Except Executor.Failure (List UInt8)) := do
  match ← Files.read path with
  | .ok content => return .ok content
  | .error why => return .error (.configuration s!"loading {path}: {why}")

/-- Make a client from the files. -/
def prepare (p : Paths) : Program Files.effects (Except Executor.Failure Unit) := do
  match ← load p.authority with
  | .error failure => return .error failure
  | .ok authority =>
    match ← load p.certificate with
    | .error failure => return .error failure
    | .ok certificate =>
      match ← load p.key with
      | .error failure => return .error failure
      | .ok key => return check authority certificate key

end ServiceBroker.Tls

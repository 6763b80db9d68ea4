import ServiceBroker.Text.Base32
import ServiceBroker.Text.Hex
import ServiceBroker.Text.Quoted
import ServiceBroker.Text.Utf8

/-!
# Identifiers and binding usernames

The platform names instances and bindings by UUIDs. A database user name may not be that long, so
the user of a binding is named by the 128 bits of its UUID in base32.

## Main definitions

* `Identifier.compact`: the base32 token of a UUID, or why the text is none
* `Identifier.bindingUsername`: the name of a binding's database user
* `Identifier.isBindingUsername`: a name has the shape of such a name
-/

namespace ServiceBroker.Identifier

/-- Why a text is no UUID. -/
inductive Defect where
  /-- The digits do not pair up to bytes. -/
  | oddLength
  /-- A byte is no hexadecimal digit. -/
  | badDigit (byte : UInt8) (position : Nat)
  /-- There are not sixteen bytes. -/
  | wrongSize (bytes : Nat)
  deriving DecidableEq, Repr

/-- The number of bytes of a UUID. -/
def uuidBytes : Nat := 16

/-- The number of digits of a token. -/
def tokenLength : Nat := 26

/-- What every binding username starts with. -/
def userMark : String := "user"

/-- The number of characters of a binding username. -/
def usernameLength : Nat := userMark.length + tokenLength

/-- The wording of a defect of the text `id`. -/
def Defect.message (id : String) : Defect → String
  | .oddLength => s!"{Text.quote id} is not a hex UUID: Odd number of digits"
  | .badDigit byte position =>
    s!"{Text.quote id} is not a hex UUID: Invalid character " ++
      Text.quoteChar (Char.ofNat byte.toNat) ++ s!" at position {position}"
  | .wrongSize bytes => s!"{Text.quote id} decodes to {bytes} bytes, expected {uuidBytes}"

/-- The bytes that pairs of hexadecimal digits spell, the first digit standing at `position`. -/
def pairs (position : Nat) : List UInt8 → Except Defect (List UInt8)
  | [] => .ok []
  | [_] => .error .oddLength
  | a :: b :: rest =>
    match Hex.value? a, Hex.value? b with
    | none, _ => .error (.badDigit a position)
    | _, none => .error (.badDigit b (position + 1))
    | some x, some y => do return UInt8.ofNat (16 * x + y) :: (← pairs (position + 2) rest)

/-- The bytes of a text without its hyphens. -/
def digits (id : String) : List UInt8 := Utf8.encode (id.toList.filter (· ≠ '-'))

/-- The sixteen bytes that a UUID spells. Hyphens may stand anywhere. -/
def octets (id : String) : Except Defect (List UInt8) :=
  -- The length is looked at before any digit.
  if (digits id).length % 2 = 1 then .error .oddLength
  else do
    let bytes ← pairs 0 (digits id)
    if bytes.length = uuidBytes then return bytes else throw (.wrongSize bytes.length)

/-- The base32 token of a UUID. -/
def compact (id : String) : Except Defect String := do
  return String.ofList (Base32.encode (← octets id))

/-- The name of the database user of a binding. -/
def bindingUsername (id : String) : Except Defect String := do
  return userMark ++ String.ofList ((← compact id).toList.map Char.toLower)

/-- The byte can occur in a lower-case token. -/
def isTokenByte (b : UInt8) : Bool := (97 ≤ b && b ≤ 122) || (50 ≤ b && b ≤ 55)

/-- The name has the shape of a binding username, so it is none of the users that a cluster has from
its creation. -/
def isBindingUsername (name : String) : Bool :=
  match userMark.toList.isPrefixOf? name.toList with
  | none => false
  | some token =>
    let bytes := Utf8.encode token
    bytes.length == tokenLength && bytes.all isTokenByte

end ServiceBroker.Identifier

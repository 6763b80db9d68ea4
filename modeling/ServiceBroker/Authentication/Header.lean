import ServiceBroker.Text.Base64
import ServiceBroker.Text.Blank
import ServiceBroker.Text.Utf8

/-!
# Authorization headers

A header names a scheme, in any letter case, and after a space what the scheme needs. The scheme is
cut off at a byte offset, which is only possible if no character lies across it.

## Main definitions

* `Header.splitBytes?`: cut a text at a byte offset
* `Header.bearer`: the token of a bearer header
* `Header.basic`: the user name and password of a basic header
* `Header.visible?`: the text of a header that holds nothing but visible ASCII, spaces and tabs
-/

namespace ServiceBroker.Header

/-- The outcome of looking for something in a header: it is not there, it is, or the text cannot be
cut where it would have to be. -/
inductive Found (α : Type) where
  | absent
  | found (a : α)
  | uncuttable
  deriving DecidableEq, Repr

/-- A text cut at a byte offset, if the offset lies within it and between two characters. -/
def splitBytes? (n : Nat) : List Char → Option (List Char × List Char)
  | [] => if n = 0 then some ([], []) else none
  | c :: rest =>
    if n = 0 then some ([], c :: rest)
    else if c.utf8Size ≤ n then
      (splitBytes? (n - c.utf8Size) rest).map fun (front, back) => (c :: front, back)
    else none

/-- What follows a scheme, its space included, in a header. -/
def afterScheme (scheme : List Char) (value : List Char) : Found (List Char) :=
  if (Utf8.encode value).length < scheme.length then .absent
  else
    match splitBytes? scheme.length value with
    | none => .uncuttable
    | some (front, rest) =>
      if front.map Char.toLower = scheme then .found (Text.trim rest) else .absent

/-- The token of a bearer header. -/
def bearer (value : List Char) : Found (List Char) :=
  match afterScheme "bearer ".toList value with
  | .found [] => .absent
  | result => result

/-- The user name and password that the text of a basic header spells: before and after its first
colon. -/
def credentials? (encoded : List Char) : Option (List Char × List Char) := do
  let cs ← Utf8.decode? (← Base64.decode? encoded)
  match cs.dropWhile (· ≠ ':') with
  | [] => none
  | _ :: password => some (cs.takeWhile (· ≠ ':'), password)

/-- The user name and password of a basic header. -/
def basic (value : List Char) : Found (List Char × List Char) :=
  match afterScheme "basic ".toList value with
  | .absent => .absent
  | .uncuttable => .uncuttable
  | .found encoded =>
    match credentials? encoded with
    | some pair => .found pair
    | none => .absent

/-- The byte is visible ASCII, a space or a tab. -/
def isVisible (b : UInt8) : Bool := b == 9 || (32 ≤ b && b < 127)

/-- The text of a header that holds nothing but visible ASCII, spaces and tabs. -/
def visible? (value : List UInt8) : Option (List Char) :=
  if value.all isVisible then some (value.map fun b => Char.ofNat b.toNat) else none

end ServiceBroker.Header

import ServiceBroker.Text.Percent
import ServiceBroker.Text.Split

/-!
# Forms

A form is a list of names with values, as the query of a URL spells it.

## Main definitions

* `Form.encode`: a value as a form writes it
* `Form.pairs`: the names and values that a form lists
-/

namespace ServiceBroker.Form

/-- The byte stands for itself in a form. -/
def isPlain (b : UInt8) : Bool :=
  (48 ≤ b && b ≤ 57) || (65 ≤ b && b ≤ 90) || (97 ≤ b && b ≤ 122) ||
    b == 42 || b == 45 || b == 46 || b == 95

/-- A value as a form writes it: a space is a plus sign, and other bytes are percent-encoded. -/
def encode (s : String) : List Char :=
  (Utf8.bytes s).flatMap fun b =>
    if isPlain b then [Char.ofNat b.toNat]
    else if b == 32 then ['+']
    else Percent.encodeByte b

/-- The text that a name or value of a form stands for. -/
def decode (cs : List Char) : String :=
  String.ofList (Utf8.decodeLossy (Percent.decode (cs.map fun c => if c = '+' then ' ' else c)))

/-- The name and value that one part of a form spells; without an equals sign the value is empty. -/
def pair (part : List Char) : String × String :=
  let (name, value) := cutAt (· == '=') part
  (decode name, decode value)

/-- The names and values that a form lists, in its order. -/
def pairs (cs : List Char) : List (String × String) :=
  ((splitAt (· == '&') cs).filter fun part => !part.isEmpty).map pair

end ServiceBroker.Form

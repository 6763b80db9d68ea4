import ServiceBroker.Text.Hex
import ServiceBroker.Text.Utf8

/-!
# Percent encoding

## Main definitions

* `Percent.encode`: a text with the bytes of some characters written as `%XX`
* `Percent.decode`: the bytes of a text in which every well-formed `%XX` stands for one byte
-/

namespace ServiceBroker.Percent

/-- One byte as a percent sign and two upper-case digits. -/
def encodeByte (b : UInt8) : List Char :=
  ['%', Hex.upperDigit (b.toNat / 16), Hex.upperDigit (b.toNat % 16)]

/-- A text in which the bytes of every character that `reserved` holds of are written as `%XX`. -/
def encode (reserved : Char → Bool) (cs : List Char) : List Char :=
  cs.flatMap fun c =>
    if reserved c then (String.utf8EncodeChar c).flatMap encodeByte else [c]

/-- The bytes with every `%XX` replaced by the byte that it stands for; a percent sign that two
digits do not follow stands for itself. -/
def decodeBytes : List UInt8 → List UInt8
  | [] => []
  | 0x25 :: a :: b :: rest =>
    match Hex.value? a, Hex.value? b with
    | some x, some y => UInt8.ofNat (16 * x + y) :: decodeBytes rest
    | _, _ => 0x25 :: decodeBytes (a :: b :: rest)
  | b :: rest => b :: decodeBytes rest

/-- The bytes of a text with every `%XX` replaced by the byte that it stands for. -/
def decode (cs : List Char) : List UInt8 := decodeBytes (Utf8.encode cs)

end ServiceBroker.Percent

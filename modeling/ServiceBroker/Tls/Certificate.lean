import ServiceBroker.Tls.Der
import ServiceBroker.Tls.Pem

/-!
# Certificates and private keys

Only what has to be known at start is read: that a certificate is well formed, and which public key
belongs to it and to a private key.

## Main definitions

* `PublicKey`: the public half of a key pair
* `Certificate.publicKey?`: the public key that a certificate certifies
* `PrivateKey.publicKey?`: the public key that belongs to a private key
-/

namespace ServiceBroker

open Der

/-- The public half of a key pair: a modulus with an exponent, or a point of a curve. -/
inductive PublicKey where
  | rsa (modulus exponent : List UInt8)
  | point (content : List UInt8)
  deriving DecidableEq, Repr

namespace PublicKey

/-- The name of the algorithm that uses a modulus. -/
def rsaName : List UInt8 := [0x2A, 0x86, 0x48, 0x86, 0xF7, 0x0D, 0x01, 0x01, 0x01]

/-- The name of the algorithms that use a curve given as a parameter. -/
def curveName : List UInt8 := [0x2A, 0x86, 0x48, 0xCE, 0x3D, 0x02, 0x01]

/-- The names of the curves that can be given. -/
def curves : List (List UInt8) :=
  [[0x2A, 0x86, 0x48, 0xCE, 0x3D, 0x03, 0x01, 0x07], [0x2B, 0x81, 0x04, 0x00, 0x22]]

/-- The name of the algorithm that uses Edwards' curve. -/
def edwardsName : List UInt8 := [0x2B, 0x65, 0x70]

/-- The bytes of a string of bits that fills whole bytes. -/
def wholeBytes? (item : Item) : Option (List UInt8) := do
  match ← item.content? bitsTag with
  | 0 :: bytes => some bytes
  | _ => none

/-- The key with a modulus and an exponent that items list. -/
def ofModulus? : List Item → Option PublicKey
  | modulus :: exponent :: _ => do
    return .rsa (← modulus.content? integerTag) (← exponent.content? integerTag)
  | _ => none

/-- The key of an algorithm with the given name, from the item that holds it. -/
def ofItem? (name : List UInt8) (key : Item) : Option PublicKey := do
  let bytes ← wholeBytes? key
  if name = rsaName then ofModulus? (← sequence? bytes) else return .point bytes

/-- The name of the algorithm that an item describes. -/
def algorithm? (item : Item) : Option (List UInt8 × List Item) := do
  match ← item.inside? sequenceTag with
  | name :: parameters => return (← name.content? nameTag, parameters)
  | [] => none

end PublicKey

namespace Certificate

/-- The names of the extensions that are understood share all but their last byte. -/
def extensionNames : List (List UInt8) :=
  [15, 17, 19, 30, 31, 37].map fun last => [0x55, 0x1D, last]

/-- An extension is well formed, and is understood if it has to be. -/
def isExtension (item : Item) : Bool :=
  match item.inside? sequenceTag with
  | some [name, value] => name.tag == nameTag && value.tag == bytesTag
  | some [name, critical, value] =>
    name.tag == nameTag && critical.tag == boolTag && value.tag == bytesTag &&
      (critical.content == [0] || extensionNames.contains name.content)
  | _ => false

/-- The items that may follow the public key: two IDs, and the extensions. -/
def isTail (items : List Item) : Bool :=
  match items.filter fun item => item.tag != 0x81 && item.tag != 0x82 with
  | [] => true
  | [extensions] =>
    let list? := do (← (← extensions.inside? (partTag 3)).head?).inside? sequenceTag
    (list?.map fun list => list.all isExtension).getD false
  | _ => false

/-- The public key in the part of a certificate that is signed, if `algorithm` is the one it is
signed with. -/
def signedKey? (algorithm : Item) : List Item → Option PublicKey
  | version :: serial :: signing :: issuer :: validity :: subject :: key :: tail => do
    let version ← version.inside? (partTag 0)
    if version = [⟨integerTag, [2]⟩] ∧ serial.tag = integerTag ∧ signing = algorithm ∧
        issuer.tag = sequenceTag ∧ validity.tag = sequenceTag ∧ subject.tag = sequenceTag ∧
        isTail tail then
      match ← key.inside? sequenceTag with
      | [described, value] =>
        let (name, _) ← PublicKey.algorithm? described
        PublicKey.ofItem? name value
      | _ => none
    else none
  | _ => none

/-- The public key that a certificate certifies; nothing if the certificate is not well formed. -/
def publicKey? (bytes : List UInt8) : Option PublicKey := do
  match ← sequence? bytes with
  | [signed, algorithm, signature] =>
    let _ ← PublicKey.wholeBytes? signature
    let _ ← algorithm.inside? sequenceTag
    signedKey? algorithm (← signed.inside? sequenceTag)
  | _ => none

end Certificate

namespace PrivateKey

/-- The public key beside a private number on a curve. -/
def besideNumber? (items : List Item) : Option PublicKey := do
  match items with
  | version :: number :: rest =>
    if version = ⟨integerTag, [1]⟩ ∧ number.tag = bytesTag then
      let part ← rest.find? fun item => item.tag == partTag 1
      match ← items? part.content with
      | [key] => return .point (← PublicKey.wholeBytes? key)
      | _ => none
    else none
  | _ => none

/-- The public key beside the private numbers to a modulus. -/
def besideModulus? : List Item → Option PublicKey
  | version :: rest =>
    if version = ⟨integerTag, [0]⟩ ∧ rest.length = 8 then PublicKey.ofModulus? rest else none
  | [] => none

/-- The public key that belongs to a private key of the given sort. Of a key on Edwards' curve
nothing is known without calculation. -/
def publicKey? (kind : Pem.Kind) (bytes : List UInt8) : Option (Option PublicKey) := do
  let items ← sequence? bytes
  match kind with
  | .rsaPrivateKey => return some (← besideModulus? items)
  | .ecPrivateKey => return some (← besideNumber? items)
  | _ =>
    match items with
    | version :: described :: key :: _ =>
      let (name, parameters) ← PublicKey.algorithm? described
      let content ← key.content? bytesTag
      if version.tag ≠ integerTag then none
      else if name = PublicKey.rsaName then return some (← besideModulus? (← sequence? content))
      else if name = PublicKey.curveName then
        if parameters.any fun p => p.tag == nameTag && PublicKey.curves.contains p.content then
          return some (← besideNumber? (← sequence? content))
        else none
      else if name = PublicKey.edwardsName then return none
      else none
    | _ => none

end PrivateKey

end ServiceBroker

/-!
# Base32

Five bits to a digit, most significant bit first, over the letters `A` to `Z` and the digits `2` to
`7`. The last digit of a text is filled up with zero bits, and no padding follows it.

## Main definitions

* `Base32.encode`: the digits of a list of bytes
* `Base32.decode?`: the bytes that a list of digits spells
-/

namespace ServiceBroker.Base32

/-- The digit that counts `n`, for `n` below thirty-two. -/
def digit (n : Nat) : Char := if n < 26 then Char.ofNat (65 + n) else Char.ofNat (24 + n)

/-- What a digit counts. -/
def value? (c : Char) : Option Nat :=
  if 65 ≤ c.toNat ∧ c.toNat ≤ 90 then some (c.toNat - 65)
  else if 50 ≤ c.toNat ∧ c.toNat ≤ 55 then some (c.toNat - 24)
  else none

/-- The lowest `n` bits of a number, most significant first. -/
def bits (n value : Nat) : List Bool :=
  match n with
  | 0 => []
  | n + 1 => value.testBit n :: bits n value

/-- The number that a list of bits spells, most significant first. -/
def ofBits (bs : List Bool) : Nat := bs.foldl (fun n b => 2 * n + b.toNat) 0

/-- A list of bits cut into groups of five, the last filled up with zeros. -/
def quintets (bs : List Bool) : List (List Bool) :=
  match bs with
  | a :: b :: c :: d :: e :: rest => [a, b, c, d, e] :: quintets rest
  | [] => []
  | short => [short ++ List.replicate (5 - short.length) false]

/-- A list of bits cut into groups of eight; an incomplete last group is left out. -/
def octets (bs : List Bool) : List (List Bool) :=
  match bs with
  | a :: b :: c :: d :: e :: f :: g :: h :: rest => [a, b, c, d, e, f, g, h] :: octets rest
  | _ => []

/-- The digits of a list of bytes. -/
def encode (bytes : List UInt8) : List Char :=
  (quintets (bytes.flatMap fun b => bits 8 b.toNat)).map fun q => digit (ofBits q)

/-- The bytes that a list of digits spells; bits that make up no whole byte are dropped. -/
def decode? (digits : List Char) : Option (List UInt8) := do
  let values ← digits.mapM value?
  return (octets (values.flatMap (bits 5))).map fun o => UInt8.ofNat (ofBits o)

end ServiceBroker.Base32

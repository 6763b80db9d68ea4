import ServiceBroker.Text.Hex

/-!
# Random UUIDs

## Main definitions

* `Uuid.ofRandom`: the UUID that sixteen random bytes make
-/

namespace ServiceBroker.Uuid

/-- The sixteen bytes with the marks of a random UUID in them. -/
def marked (bs : List UInt8) : List UInt8 :=
  bs.zipIdx.map fun (b, i) =>
    if i = 6 then b % 16 + 0x40 else if i = 8 then b % 64 + 0x80 else b

/-- The UUID that sixteen random bytes make. -/
def ofRandom (bs : List UInt8) : String :=
  let digits := Hex.lower (marked bs)
  let part (start length : Nat) : String := String.ofList ((digits.drop start).take length)
  String.intercalate "-" [part 0 8, part 8 4, part 12 4, part 16 4, part 20 12]

end ServiceBroker.Uuid

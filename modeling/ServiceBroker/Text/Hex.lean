/-!
# Hexadecimal digits

## Main definitions

* `Hex.value?`: what a digit byte counts, in either letter case
* `Hex.digit`: the digit that counts `n`
* `Hex.lower`: bytes as pairs of lower-case digits
-/

namespace ServiceBroker.Hex

/-- What a hexadecimal digit counts, in either letter case. -/
def value? (b : UInt8) : Option Nat :=
  let n := b.toNat
  if 48 ≤ n ∧ n ≤ 57 then some (n - 48)
  else if 97 ≤ n ∧ n ≤ 102 then some (n - 87)
  else if 65 ≤ n ∧ n ≤ 70 then some (n - 55)
  else none

/-- A digit counts less than sixteen. -/
theorem value?_lt {b : UInt8} {n : Nat} (h : value? b = some n) : n < 16 := by
  grind [value?]

/-- What a hexadecimal digit character counts. -/
def ofChar? (c : Char) : Option Nat := if c.toNat < 128 then value? c.toUInt8 else none

/-- The lower-case digit that counts `n`, for `n` below sixteen. -/
def digit (n : Nat) : Char := if n < 10 then Char.ofNat (48 + n) else Char.ofNat (87 + n)

/-- The upper-case digit that counts `n`, for `n` below sixteen. -/
def upperDigit (n : Nat) : Char := if n < 10 then Char.ofNat (48 + n) else Char.ofNat (55 + n)

/-- Bytes as pairs of lower-case digits. -/
def lower (bs : List UInt8) : List Char :=
  bs.flatMap fun b => [digit (b.toNat / 16), digit (b.toNat % 16)]

end ServiceBroker.Hex

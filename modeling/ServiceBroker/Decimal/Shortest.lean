/-!
# Shortest decimal of a binary floating-point number

A finite number is `m · 2^q`. Among all decimals that round to it the shortest is chosen, and of
those with equally many digits the nearest.

## Main definitions

* `Decimal`: a whole number of digits scaled by a power of ten
* `Decimal.ofFloat`: the shortest decimal that reads back as the number
* `Decimal.scientific`: the text of a number, positional unless its magnitude is very large or small
-/

namespace ServiceBroker

/-- The decimal `digits · 10^exponent`. -/
structure Decimal where
  digits : Nat
  exponent : Int
  deriving DecidableEq, Repr

namespace Decimal

/-- The significand and exponent of a finite positive number `m · 2^q`, with the flag that the gap
below it is half the gap above it. -/
structure Binary where
  m : Nat
  q : Int
  narrowBelow : Bool

/-- The parts of a number, its sign left out. -/
def Binary.ofFloat (x : Float) : Binary :=
  let bits : Nat := x.toBits.toNat % Nat.pow 2 63
  let e : Nat := bits / Nat.pow 2 52
  let f : Nat := bits % Nat.pow 2 52
  if e = 0 then ⟨f, -1074, false⟩ else ⟨Nat.pow 2 52 + f, (e : Int) - 1075, f = 0 && e > 1⟩

/-- `num / den` as `a · 10^k / b` for the scaled value `n · 2^q · 10^(-k)`: numerator and
denominator. -/
def scaled (n : Nat) (q k : Int) : Nat × Nat :=
  let num := n * Nat.pow 2 q.toNat * Nat.pow 10 (-k).toNat
  let den := Nat.pow 2 (-q).toNat * Nat.pow 10 k.toNat
  (num, den)

/-- The decimal with exponent `k` that rounds to the number and lies nearest to it, if one does. -/
def nearestAt? (b : Binary) (k : Int) : Option Nat :=
  -- All quantities are in quarters of the last binary place.
  let (v, den) := scaled (4 * b.m) (b.q - 2) k
  let (lo, _) := scaled (4 * b.m - if b.narrowBelow then 1 else 2) (b.q - 2) k
  let (hi, _) := scaled (4 * b.m + 2) (b.q - 2) k
  let inside (d : Nat) : Bool :=
    if b.m % 2 = 0 then lo ≤ d * den && d * den ≤ hi else lo < d * den && d * den < hi
  let below := v / den
  let above := below + 1
  let nearBelow := v - below * den
  let nearAbove := above * den - v
  if below > 0 && inside below && inside above then
    if nearBelow < nearAbove || (nearBelow = nearAbove && below % 2 = 0) then some below
    else some above
  else if below > 0 && inside below then some below
  else if inside above then some above
  else none

/-- Try the exponents from `k` downwards, at most `fuel` of them. -/
def search (b : Binary) (k : Int) : Nat → Decimal
  | 0 => ⟨0, 0⟩
  | fuel + 1 =>
    match nearestAt? b k with
    | some d => ⟨d, k⟩
    | none => search b (k - 1) fuel

/-- The number of decimal digits of a natural number. -/
def width (n : Nat) : Nat := (Nat.toDigits 10 n).length

/-- The shortest decimal that reads back as a finite number, its sign left out. -/
def ofFloat (x : Float) : Decimal :=
  let b := Binary.ofFloat x
  if b.m = 0 then ⟨0, 0⟩
  else
    -- The number lies below `10^top`, and seventeen digits always suffice.
    let (num, den) := scaled b.m b.q 0
    let top : Int := (width num : Int) - (width den : Int) + 1
    search b top 22

/-- Whether the number carries a minus sign. -/
def isNegative (x : Float) : Bool := x.toBits.toNat ≥ Nat.pow 2 63

/-- The text of a finite number: positional with at least one digit after the point while the point
stands at most sixteen digits to the right and five to the left of the digits, else with an
exponent. -/
def scientific (x : Float) : String :=
  let d := ofFloat x
  let ds := Nat.toDigits 10 d.digits
  let n : Int := ds.length
  let point := n + d.exponent
  let body : List Char :=
    if d.digits = 0 then "0.0".toList
    else if 0 ≤ d.exponent && point ≤ 16 then
      ds ++ List.replicate d.exponent.toNat '0' ++ ['.', '0']
    else if 0 < point && point ≤ 16 then
      ds.take point.toNat ++ '.' :: ds.drop point.toNat
    else if -5 < point && point ≤ 0 then
      '0' :: '.' :: (List.replicate (-point).toNat '0' ++ ds)
    else
      let mantissa := if ds.length = 1 then ds else ds.take 1 ++ '.' :: ds.drop 1
      mantissa ++ 'e' :: (toString (point - 1)).toList
  String.ofList (if isNegative x then '-' :: body else body)

end Decimal

end ServiceBroker

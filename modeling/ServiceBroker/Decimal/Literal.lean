import ServiceBroker.Json.NumberLiteral

/-!
# Decimal literals

## Main definitions

* `Decimal.Literal`: the parts of a decimal number with a fraction or an exponent
* `Decimal.Literal.ofText?`: the literal that a text spells
* `Decimal.Literal.number`: the floating-point number nearest to it
-/

namespace ServiceBroker.Decimal

/-- The parts of a decimal number: its sign, the digits before the point, those after it if there is
one, and the exponent if there is one, with its sign. -/
structure Literal where
  negative : Bool
  whole : List Char
  fraction : Option (List Char)
  exponent : Option (Bool × List Char)
  deriving DecidableEq, Repr

namespace Literal

/-- A sign, if there is one, and what follows it. -/
def sign : List Char → Bool × List Char
  | '-' :: rest => (true, rest)
  | '+' :: rest => (false, rest)
  | rest => (false, rest)

/-- The literal with the exponent that a text spells. -/
def withExponent? (l : Literal) : List Char → Option Literal
  | [] => some l
  | e :: rest =>
    let (down, digits) := sign rest
    if (e == 'e' || e == 'E') && !digits.isEmpty && digits.all Char.isDigit then
      some { l with exponent := some (down, digits) }
    else none

/-- The literal that a text spells. The digits on one side of the point may be left out. -/
def ofText? (cs : List Char) : Option Literal :=
  let (negative, rest) := sign cs
  let (whole, rest) := rest.span Char.isDigit
  match rest with
  | '.' :: rest =>
    let (fraction, rest) := rest.span Char.isDigit
    if whole.isEmpty && fraction.isEmpty then none
    else withExponent? ⟨negative, whole, some fraction, none⟩ rest
  | rest => if whole.isEmpty then none else withExponent? ⟨negative, whole, none, none⟩ rest

/-- The bytes of digits. -/
def bytes (digits : List Char) : List UInt8 := digits.map fun c => UInt8.ofNat c.toNat

/-- The floating-point number nearest to a literal; beyond the largest one it is infinite. -/
def number (l : Literal) : Json.Number :=
  -- With a digit after the point the literal counts as a fraction, however it was written.
  let literal : Json.NumberLiteral := {
    negative := l.negative
    whole := bytes l.whole
    fraction := bytes (l.fraction.getD []) ++ [48]
    exponent := l.exponent.map fun e => (e.1, bytes e.2) }
  match literal.value with
  | .ok n => n
  | .error _ => .float (if l.negative then -1 / 0 else 1 / 0)

end Literal

end ServiceBroker.Decimal

import ServiceBroker.Json.Basic
import ServiceBroker.Json.Fault

/-!
# Number literals

A literal without fraction and exponent is an integer if it fits 64 bits, signed when negative. Any
other literal is read as a significand of at most 64 bits times a power of ten, so digits beyond
those only count for the magnitude.

## Main definitions

* `Json.NumberLiteral`: the parts of a literal
* `Json.NumberLiteral.value`: the number that a literal spells
* `Json.NumberLiteral.scan`: split a literal off a text
-/

namespace ServiceBroker.Json

/-- The byte is a decimal digit. -/
def isDigit (b : UInt8) : Bool := 48 ≤ b && b ≤ 57

/-- What a digit byte counts. -/
def digitValue (b : UInt8) : Nat := b.toNat - 48

/-- The largest integer of 64 bits. -/
def maxU64 : Nat := 18446744073709551615

/-- The largest exponent that is counted out. -/
def maxExponent : Nat := 2147483647

/-- The parts of a number literal; each list of digits that is there is not empty. -/
structure NumberLiteral where
  negative : Bool
  whole : List UInt8
  fraction : List UInt8 := []
  /-- Whether the exponent is negative, and its digits. -/
  exponent : Option (Bool × List UInt8) := none

namespace NumberLiteral

/-- A significand with the power of ten it still has to be multiplied by. -/
structure Scaled where
  significand : Nat
  power : Int
  /-- A digit has been left out because the significand was full. -/
  full : Bool

/-- Take one digit before the point into the significand while it fits; later digits only raise the
power. -/
def Scaled.pushWhole (s : Scaled) (digit : UInt8) : Scaled :=
  let next := s.significand * 10 + digitValue digit
  if s.full || next > maxU64 then { s with power := s.power + 1, full := true }
  else { s with significand := next }

/-- Take one digit after the point into the significand while it fits. -/
def Scaled.pushFraction (s : Scaled) (digit : UInt8) : Scaled :=
  let next := s.significand * 10 + digitValue digit
  if s.full || next > maxU64 then { s with full := true }
  else { s with significand := next, power := s.power - 1 }

/-- The significand times its power of ten; nothing if that is too large for a floating-point
number. -/
def toFloat? (significand : Nat) (power : Int) : Option Float :=
  let x := Float.ofNat significand
  -- A zero stays zero, however large its exponent.
  if 0 ≤ power then
    if significand = 0 then some x
    else if 308 < power then none
    else
      let y := x * Float.ofScientific 1 false power.toNat
      if y.isInf then none else some y
  else
    -- No power beyond the largest number can be divided by at once.
    let rec shrink (x : Float) (n : Nat) : Nat → Float
      | 0 => x
      | fuel + 1 =>
        if n ≤ 308 then x / Float.ofScientific 1 false n
        else if x == 0 then x
        else shrink (x / Float.ofScientific 1 false 308) (n - 308) fuel
    some (shrink x (-power).toNat 8)

/-- Why a literal spells no number: how many digits of the exponent had been looked at by then, or
all of the literal. -/
inductive TooLarge where
  | exponent (digits : Nat)
  | value

/-- The exponent that a list of digits spells, or the count of digits after which it is too large.
-/
def exponentValue (digits : List UInt8) : Except Nat Nat :=
  let rec go (n seen : Nat) : List UInt8 → Except Nat Nat
    | [] => .ok n
    | d :: rest =>
      let next := n * 10 + digitValue d
      if next > maxExponent then .error (seen + 1) else go next (seen + 1) rest
  go 0 0 digits

/-- The number that a literal spells. -/
def value (l : NumberLiteral) : Except TooLarge Number :=
  let s := l.whole.foldl Scaled.pushWhole ⟨0, 0, false⟩
  let signed (x : Float) : Number := .float (if l.negative then -x else x)
  let scaled (s : Scaled) (shift : Int) : Except TooLarge Number :=
    match toFloat? s.significand (s.power + shift) with
    | some x => .ok (signed x)
    | none => .error .value
  match l.fraction, l.exponent with
  | [], none =>
    -- An integer that does not fit is a fraction without digits after the point.
    if s.full then scaled s 0
    else if !l.negative then .ok (.natural s.significand)
    else if 0 < s.significand ∧ s.significand ≤ 9223372036854775808 then
      .ok (.negative s.significand)
    else .ok (signed (Float.ofNat s.significand))
  | fraction, exponent =>
    -- The digits after the point start afresh: a full significand may still take a small digit.
    let s := fraction.foldl Scaled.pushFraction { s with full := false }
    match exponent with
    | none => scaled s 0
    | some (down, digits) =>
      match exponentValue digits with
      | .ok e => scaled s (if down then -(e : Int) else e)
      | .error seen =>
        -- An exponent that is far too small makes any number zero.
        if s.significand ≠ 0 ∧ !down then .error (.exponent seen) else .ok (signed 0)

/-- A literal that ends at `stop` with its number or the fault in it, or the fault that ends the
text. -/
inductive Scan where
  | complete (value : Except Fault Number) (stop : Nat) (rest : List UInt8)
  | broken (faults : Faults)

/-- Give the number of a literal that ends at `stop`. -/
def finish (l : NumberLiteral) (stop : Nat) (rest : List UInt8) : Scan :=
  match l.value with
  | .ok n => .complete (.ok n) stop rest
  | .error .value => .complete (.error ⟨.numberOutOfRange, stop⟩) stop rest
  | .error (.exponent seen) =>
    let digits := (l.exponent.map fun e => e.2.length).getD 0
    .complete (.error ⟨.numberOutOfRange, stop - digits + seen⟩) stop rest

/-- The text ends inside a literal. -/
def cutOff (offset : Nat) : Scan := .broken ⟨⟨.endInValue, offset⟩, ⟨.invalidNumber, offset⟩⟩

/-- The sign of an exponent and the text after it; no sign is a plus. -/
def exponentSign : List UInt8 → Bool × List UInt8
  | 43 :: rest => (false, rest)
  | 45 :: rest => (true, rest)
  | rest => (false, rest)

/-- Read the exponent, if there is one, and finish. -/
def scanExponent (l : NumberLiteral) (pos : Nat) (text : List UInt8) : Scan :=
  match text with
  | e :: tail =>
    if e == 101 || e == 69 then
      let (down, rest) := exponentSign tail
      let pos := pos + 1 + (tail.length - rest.length)
      match rest.takeWhile isDigit, rest with
      | [], [] => cutOff pos
      | [], _ => .broken (.both .invalidNumber (pos + 1))
      | digits, rest =>
        finish { l with exponent := some (down, digits) } (pos + digits.length)
          (rest.dropWhile isDigit)
    else finish l pos text
  | [] => finish l pos []

/-- Read the fraction, if there is one, and go on with the exponent. -/
def scanFraction (l : NumberLiteral) (pos : Nat) (text : List UInt8) : Scan :=
  match text with
  | 46 :: rest =>
    match rest.takeWhile isDigit, rest with
    | [], [] => cutOff (pos + 1)
    | [], _ => .broken (.both .invalidNumber (pos + 2))
    | digits, rest =>
      scanExponent { l with fraction := digits } (pos + 1 + digits.length) (rest.dropWhile isDigit)
  | _ => scanExponent l pos text

/-- Split a literal, its sign left out, off a text that is at byte `pos`. -/
def scan (negative : Bool) (pos : Nat) (text : List UInt8) : Scan :=
  match text with
  | [] => cutOff pos
  | 48 :: rest =>
    match rest with
    | d :: _ =>
      if isDigit d then .broken (.both .invalidNumber (pos + 2))
      else scanFraction { negative, whole := [48] } (pos + 1) rest
    | [] => scanFraction { negative, whole := [48] } (pos + 1) []
  | d :: _ =>
    if isDigit d then
      let digits := text.takeWhile isDigit
      scanFraction { negative, whole := digits } (pos + digits.length) (text.dropWhile isDigit)
    else .broken (.both .invalidNumber (pos + 1))

/-- Skipping digits never lengthens a text. -/
theorem length_dropWhile_isDigit (text : List UInt8) :
    (text.dropWhile isDigit).length ≤ text.length :=
  (List.dropWhile_suffix isDigit).length_le

/-- What is left after finishing is the given rest. -/
theorem finish_rest {l : NumberLiteral} {stop stop' : Nat} {text rest : List UInt8}
    {v : Except Fault Number} (h : finish l stop text = .complete v stop' rest) : rest = text := by
  grind [finish]

theorem length_exponentSign (text : List UInt8) : (exponentSign text).2.length ≤ text.length := by
  unfold exponentSign; split <;> simp

theorem length_scanExponent {l : NumberLiteral} {pos stop : Nat} {text rest : List UInt8}
    {v : Except Fault Number} (h : scanExponent l pos text = .complete v stop rest) :
    rest.length ≤ text.length := by
  unfold scanExponent at h
  split at h
  · next e tail =>
    have hs := length_exponentSign tail
    have hd := length_dropWhile_isDigit (exponentSign tail).2
    split at h
    · simp only [cutOff] at h
      split at h <;> first | simp at h | (rw [finish_rest h]; simp_all; omega)
    · have := finish_rest h; simp_all
  · have := finish_rest h; simp_all

theorem length_scanFraction {l : NumberLiteral} {pos stop : Nat} {text rest : List UInt8}
    {v : Except Fault Number} (h : scanFraction l pos text = .complete v stop rest) :
    rest.length ≤ text.length := by
  unfold scanFraction at h
  split at h
  · next tail =>
    have hd := length_dropWhile_isDigit tail
    simp only [cutOff] at h
    split at h
    · simp at h
    · simp at h
    · refine Nat.le_trans (length_scanExponent h) ?_
      simp_all
      omega
  · exact length_scanExponent h

/-- A literal takes at least one byte of the text. -/
theorem length_scan {negative : Bool} {pos stop : Nat} {text rest : List UInt8}
    {v : Except Fault Number} (h : scan negative pos text = .complete v stop rest) :
    rest.length < text.length := by
  unfold scan at h
  split at h
  · simp [cutOff] at h
  · split at h
    · split at h
      · simp at h
      · have := length_scanFraction h
        simp only [List.length_cons] at *
        omega
    · have := length_scanFraction h
      simp only [List.length_cons] at *
      omega
  · next d tail _ =>
    split at h
    · next hd =>
      have hfraction := length_scanFraction h
      have hdigits := length_dropWhile_isDigit tail
      rw [List.dropWhile_cons_of_pos hd] at hfraction
      rw [List.length_cons]
      omega
    · simp at h

end NumberLiteral

end ServiceBroker.Json

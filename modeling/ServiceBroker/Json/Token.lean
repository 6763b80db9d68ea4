import ServiceBroker.Json.NumberLiteral
import ServiceBroker.Json.StringLiteral

/-!
# Tokens of a JSON text

## Main definitions

* `Json.Token`: a token with the offsets at which it starts and stops
* `Json.Token.scan`: the first token of a text

## Main results

* `Json.Token.length_scan`: what follows a token is shorter than the text
-/

namespace ServiceBroker.Json

/-- The words that stand for a value. -/
inductive Literal where
  | null
  | true
  | false
  deriving DecidableEq, Repr

/-- The value of a word. -/
def Literal.toJson : Literal → Json
  | .null => .null
  | .true => .bool Bool.true
  | .false => .bool Bool.false

/-- What a token is. A string or number may be well formed and yet have no value; a `broken` one
has no end. -/
inductive Token.Kind where
  | openList
  | closeList
  | openObject
  | closeObject
  | comma
  | colon
  | literal (value : Literal)
  | number (value : Except Fault Number)
  | string (value : Except Fault String)
  | broken (opensString : Bool) (faults : Faults)
  | stray

/-- A token with the offsets at which it starts and stops. -/
structure Token where
  start : Nat
  stop : Nat
  kind : Token.Kind

namespace Token

/-- The byte is white space between tokens. -/
def isSpace (b : UInt8) : Bool := b == 32 || b == 9 || b == 10 || b == 13

/-- Read the rest of a word whose first letter has been read. -/
def scanLiteral (start : Nat) (value : Literal) (pos : Nat) :
    List UInt8 → List UInt8 → Token × List UInt8
  | [], rest => (⟨start, pos, .literal value⟩, rest)
  | _ :: _, [] => (⟨start, pos, .broken false (.both .endInValue pos)⟩, [])
  | expected :: more, b :: rest =>
    if b = expected then scanLiteral start value (pos + 1) more rest
    else (⟨start, pos + 1, .broken false (.both .expectedLiteral (pos + 1))⟩, [])

/-- The token of a number literal and the text after it. -/
def ofNumber (start : Nat) : NumberLiteral.Scan → Token × List UInt8
  | .complete value stop rest => (⟨start, stop, .number value⟩, rest)
  | .broken faults => (⟨start, faults.kept.offset, .broken false faults⟩, [])

/-- The token of a string literal and the text after it. -/
def ofString (start : Nat) : List StringLiteral.Piece × StringLiteral.Ending → Token × List UInt8
  | (pieces, .closed stop rest) => (⟨start, stop, .string (StringLiteral.text pieces stop)⟩, rest)
  | (pieces, .broken faults breaksPair) =>
    let faults := StringLiteral.brokenFaults pieces faults breaksPair
    (⟨start, faults.kept.offset, .broken true faults⟩, [])

/-- The token that starts with `b` at byte `pos`, and the text after it. Nothing follows a token
that cannot be finished. -/
def scan (pos : Nat) (b : UInt8) (rest : List UInt8) : Token × List UInt8 :=
  let punctuation (kind : Kind) : Token × List UInt8 := (⟨pos, pos + 1, kind⟩, rest)
  if b = 91 then punctuation .openList
  else if b = 93 then punctuation .closeList
  else if b = 123 then punctuation .openObject
  else if b = 125 then punctuation .closeObject
  else if b = 44 then punctuation .comma
  else if b = 58 then punctuation .colon
  else if b = 34 then ofString pos (StringLiteral.scan (pos + 1) [] rest)
  else if b = 45 then ofNumber pos (NumberLiteral.scan true (pos + 1) rest)
  else if isDigit b then ofNumber pos (NumberLiteral.scan false pos (b :: rest))
  else if b = 110 then scanLiteral pos .null (pos + 1) [117, 108, 108] rest
  else if b = 116 then scanLiteral pos .true (pos + 1) [114, 117, 101] rest
  else if b = 102 then scanLiteral pos .false (pos + 1) [97, 108, 115, 101] rest
  else punctuation .stray

theorem length_scanLiteral (start : Nat) (value : Literal) (pos : Nat) (word text : List UInt8) :
    (scanLiteral start value pos word text).2.length ≤ text.length := by
  fun_induction scanLiteral start value pos word text <;> simp_all
  omega

private theorem apply_ite_le {p : Prop} [Decidable p] {x y : Token × List UInt8} {n : Nat}
    (hx : x.2.length ≤ n) (hy : y.2.length ≤ n) : (if p then x else y).2.length ≤ n := by
  split <;> assumption

/-- What follows a token is shorter than the text. -/
theorem length_scan (pos : Nat) (b : UInt8) (rest : List UInt8) :
    (scan pos b rest).2.length < (b :: rest).length := by
  have string (start : Nat) : (ofString start (StringLiteral.scan (pos + 1) [] rest)).2.length ≤
      rest.length := by
    cases h : StringLiteral.scan (pos + 1) [] rest with
    | mk pieces ending =>
      cases ending with
      | closed stop tail => exact Nat.le_of_lt (StringLiteral.length_scan h)
      | broken => simp [ofString]
  have number (start pos : Nat) (negative : Bool) (text : List UInt8)
      (ht : text.length ≤ rest.length + 1) :
      (ofNumber start (NumberLiteral.scan negative pos text)).2.length ≤ rest.length := by
    cases h : NumberLiteral.scan negative pos text with
    | complete v stop tail => have := NumberLiteral.length_scan h; simp only [ofNumber]; omega
    | broken => simp [ofNumber]
  have word := length_scanLiteral
  have h1 := string pos
  have h2 := number pos (pos + 1) true rest (by omega)
  have h3 := number pos pos false (b :: rest) (by simp)
  simp only [scan, List.length_cons]
  refine Nat.lt_succ_of_le ?_
  repeat' refine apply_ite_le ?_ ?_
  all_goals first | exact word .. | exact Nat.le_refl _ | assumption

end Token

end ServiceBroker.Json

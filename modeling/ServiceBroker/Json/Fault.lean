/-!
# Faults of a JSON text

A fault is the place where a text stops being JSON. Some faults are named differently by a reader
that keeps the value and by one that skips it, so a place can carry two of them.

## Main definitions

* `Json.Fault`: why and where a text stops being JSON
* `Json.Faults`: the fault as it shows to a reader that keeps the value and to one that skips it
* `Json.Place`: a line and a column, as messages give them
-/

namespace ServiceBroker.Json

/-- Why a text stops being JSON. -/
inductive Fault.Cause where
  | endInValue
  | endInList
  | endInObject
  | endInString
  | expectedColon
  | expectedCommaInList
  | expectedCommaInObject
  | expectedLiteral
  | expectedValue
  | invalidEscape
  | invalidNumber
  | numberOutOfRange
  | invalidUnicode
  | controlCharacter
  | keyMustBeString
  | loneSurrogate
  | missingSurrogate
  | trailingComma
  | trailingCharacters
  | tooDeep
  deriving DecidableEq, Repr

/-- The wording of a cause. -/
def Fault.Cause.message : Fault.Cause → String
  | .endInValue => "EOF while parsing a value"
  | .endInList => "EOF while parsing a list"
  | .endInObject => "EOF while parsing an object"
  | .endInString => "EOF while parsing a string"
  | .expectedColon => "expected `:`"
  | .expectedCommaInList => "expected `,` or `]`"
  | .expectedCommaInObject => "expected `,` or `\x7d`"
  | .expectedLiteral => "expected ident"
  | .expectedValue => "expected value"
  | .invalidEscape => "invalid escape"
  | .invalidNumber => "invalid number"
  | .numberOutOfRange => "number out of range"
  | .invalidUnicode => "invalid unicode code point"
  | .controlCharacter => "control character (\\u0000-\\u001F) found while parsing a string"
  | .keyMustBeString => "key must be a string"
  | .loneSurrogate => "lone leading surrogate in hex escape"
  | .missingSurrogate => "unexpected end of hex escape"
  | .trailingComma => "trailing comma"
  | .trailingCharacters => "trailing characters"
  | .tooDeep => "recursion limit exceeded"

/-- Why a text stops being JSON, and how many of its bytes had been looked at by then. -/
structure Fault where
  cause : Fault.Cause
  offset : Nat
  deriving DecidableEq, Repr

/-- A fault as it shows to a reader that keeps the value and to one that skips it. -/
structure Faults where
  kept : Fault
  skipped : Fault
  deriving DecidableEq, Repr

/-- A fault that shows alike to every reader. -/
def Faults.both (cause : Fault.Cause) (offset : Nat) : Faults :=
  ⟨⟨cause, offset⟩, ⟨cause, offset⟩⟩

/-- A place in a text: the line counts from one, and the column is the number of bytes of that line
which had been looked at. -/
structure Place where
  line : Nat
  column : Nat
  deriving DecidableEq, Repr

/-- The place at which the given number of bytes of a text had been looked at. -/
def Place.of (text : List UInt8) (offset : Nat) : Place :=
  (text.take offset).foldl
    (fun p b => if b = 10 then ⟨p.line + 1, 0⟩ else ⟨p.line, p.column + 1⟩) ⟨1, 0⟩

end ServiceBroker.Json

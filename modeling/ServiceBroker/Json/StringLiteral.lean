import ServiceBroker.Json.Basic
import ServiceBroker.Json.Fault
import ServiceBroker.Text.Hex
import ServiceBroker.Text.Utf8

/-!
# String literals

A literal is first cut into units, the bytes and escapes between its quotes. A reader that skips the
string looks no further. One that keeps it then pairs surrogate escapes and checks that the bytes
are UTF-8.

## Main definitions

* `Json.StringLiteral.scan`: cut a literal off a text
* `Json.StringLiteral.bytesOf`: the bytes that the units of a literal stand for
-/

namespace ServiceBroker.Json.StringLiteral

/-- A piece of a literal: a byte that stands for itself or is escaped by a letter, or an escaped
code unit of sixteen bits. Each comes with the offset at which it ends. -/
inductive Piece where
  | byte (b : UInt8) (stop : Nat)
  | unit (n : Nat) (stop : Nat)

/-- How a literal ends: closed by a quote that ends at `stop`, or by faults. A fault `breaksPair` if
a high surrogate before it would have been missing its other half first. -/
inductive Ending where
  | closed (stop : Nat) (rest : List UInt8)
  | broken (faults : Faults) (breaksPair : Bool)

/-- The byte that a letter stands for after a backslash. -/
def escaped? (letter : UInt8) : Option UInt8 :=
  match letter with
  | 34 => some 34
  | 92 => some 92
  | 47 => some 47
  | 98 => some 8
  | 102 => some 12
  | 110 => some 10
  | 114 => some 13
  | 116 => some 9
  | _ => none

/-- The code unit that four hexadecimal digits spell. -/
def codeUnit? (a b c d : UInt8) : Option Nat := do
  let high := (← Hex.value? a) * 16 + (← Hex.value? b)
  let low := (← Hex.value? c) * 16 + (← Hex.value? d)
  return high * 256 + low

/-- Cut a literal, its opening quote left out, off a text that is at byte `pos`; `pieces` holds the
pieces before `pos`, the latest first. -/
def scan (pos : Nat) (pieces : List Piece) : List UInt8 → List Piece × Ending
  | [] => (pieces.reverse, .broken (.both .endInString pos) false)
  | 34 :: rest => (pieces.reverse, .closed (pos + 1) rest)
  | 92 :: 117 :: a :: b :: c :: d :: rest =>
    match codeUnit? a b c d with
    | some n => scan (pos + 6) (.unit n (pos + 6) :: pieces) rest
    | none => (pieces.reverse, .broken (.both .invalidEscape (pos + 6)) false)
  | 92 :: 117 :: rest =>
    (pieces.reverse, .broken (.both .endInString (pos + 2 + rest.length)) false)
  | [92] => (pieces.reverse, .broken (.both .endInString (pos + 1)) false)
  | 92 :: letter :: rest =>
    match escaped? letter with
    | some b => scan (pos + 2) (.byte b (pos + 2) :: pieces) rest
    | none => (pieces.reverse, .broken (.both .invalidEscape (pos + 2)) true)
  | b :: rest =>
    -- A reader that keeps the string has taken the control character, one that skips it has not.
    if b < 32 then
      (pieces.reverse,
        .broken ⟨⟨.controlCharacter, pos + 1⟩, ⟨.controlCharacter, pos⟩⟩ true)
    else scan (pos + 1) (.byte b (pos + 1) :: pieces) rest

/-- The code unit is the first half of a surrogate pair. -/
def isHighSurrogate (n : Nat) : Bool := 0xD800 ≤ n && n ≤ 0xDBFF

/-- The code unit is the second half of a surrogate pair. -/
def isLowSurrogate (n : Nat) : Bool := 0xDC00 ≤ n && n ≤ 0xDFFF

/-- The bytes of a code point. -/
def codePointBytes (n : Nat) : List UInt8 := String.utf8EncodeChar (Char.ofNat n)

/-- The bytes that pieces stand for, added to `bytes` (the latest first). `pending` is a high
surrogate that waits for its other half. What is missing from a pair at the end of the pieces is for
the caller to say. -/
def bytesOf (bytes : List UInt8) (pending : Option Nat) :
    List Piece → Except Fault (List UInt8 × Option Nat)
  | [] => .ok (bytes, pending)
  | .byte b stop :: rest =>
    match pending with
    | some _ => .error ⟨.missingSurrogate, stop⟩
    | none => bytesOf (b :: bytes) none rest
  | .unit n stop :: rest =>
    match pending with
    | some high =>
      if isLowSurrogate n then
        let c := 0x10000 + (high - 0xD800) * 1024 + (n - 0xDC00)
        bytesOf ((codePointBytes c).reverse ++ bytes) none rest
      else .error ⟨.loneSurrogate, stop⟩
    | none =>
      if isLowSurrogate n then .error ⟨.loneSurrogate, stop⟩
      else if isHighSurrogate n then bytesOf bytes (some n) rest
      else bytesOf ((codePointBytes n).reverse ++ bytes) none rest

/-- The text of a literal whose closing quote ends at `stop`. Bytes that are no text are noticed
just before that quote. -/
def text (pieces : List Piece) (stop : Nat) : Except Fault String :=
  match bytesOf [] none pieces with
  | .error fault => .error fault
  | .ok (_, some _) => .error ⟨.missingSurrogate, stop⟩
  | .ok (bytes, none) =>
    match Utf8.decode? bytes.reverse with
    | some cs => .ok (String.ofList cs)
    | none => .error ⟨.invalidUnicode, stop - 1⟩

/-- The faults of a literal that ends in faults: a reader that keeps the string may meet one before
them. -/
def brokenFaults (pieces : List Piece) (faults : Faults) (breaksPair : Bool) : Faults :=
  match bytesOf [] none pieces with
  | .error fault => { faults with kept := fault }
  | .ok (_, some _) =>
    if breaksPair then { faults with kept := ⟨.missingSurrogate, faults.kept.offset⟩ } else faults
  | .ok (_, none) => faults

/-- A closed literal takes at least its closing quote of the text. -/
theorem length_scan {pos stop : Nat} {pieces ps : List Piece} {text rest : List UInt8}
    (h : scan pos pieces text = (ps, .closed stop rest)) : rest.length < text.length := by
  fun_induction scan pos pieces text with
  | case1 | case4 | case5 | case6 | case8 | case9 => simp at h
  | case2 => simp_all
  | case3 => rename_i ih; have := ih h; simp only [List.length_cons]; omega
  | case7 => rename_i ih; have := ih h; simp only [List.length_cons]; omega
  | case10 => rename_i ih; have := ih h; simp only [List.length_cons]; omega

end ServiceBroker.Json.StringLiteral

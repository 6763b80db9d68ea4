/-!
# UTF-8

## Main definitions

* `Utf8.encode`: the bytes of a text
* `Utf8.next?`: the character at the head of a list of bytes
* `Utf8.decode?`: the text that the bytes spell, if they are well formed
* `Utf8.decodeLossy`: the text with U+FFFD for every ill-formed part

## Main results

* `Utf8.length_next?`: reading a character consumes at least one byte
-/

namespace ServiceBroker.Utf8

/-- The bytes of a text. -/
def encode (cs : List Char) : List UInt8 := cs.flatMap String.utf8EncodeChar

/-- The bytes of a string. -/
def bytes (s : String) : List UInt8 := encode s.toList

/-- The byte continues a character. -/
def isContinuation (b : UInt8) : Bool := 0x80 ≤ b && b < 0xC0

/-- The number of continuation bytes that a lead byte announces, with the range that the first of
them must lie in; `none` if no character starts with this byte. The ranges shut out overlong forms,
surrogates and values beyond the last code point. -/
def lead? (b : UInt8) : Option (Nat × UInt8 × UInt8) :=
  if b < 0x80 then some (0, 0, 0)
  else if b < 0xC2 then none
  else if b < 0xE0 then some (1, 0x80, 0xBF)
  else if b == 0xE0 then some (2, 0xA0, 0xBF)
  else if b == 0xED then some (2, 0x80, 0x9F)
  else if b < 0xF0 then some (2, 0x80, 0xBF)
  else if b == 0xF0 then some (3, 0x90, 0xBF)
  else if b < 0xF4 then some (3, 0x80, 0xBF)
  else if b == 0xF4 then some (3, 0x80, 0x8F)
  else none

/-- The low six bits of a continuation byte. -/
def payload (b : UInt8) : Nat := b.toNat % 64

/-- The character at the head of a list of bytes, and the bytes after it. -/
def next? : List UInt8 → Option (Char × List UInt8)
  | [] => none
  | a :: rest =>
    match lead? a, rest with
    | some (0, _, _), rest => some (Char.ofNat a.toNat, rest)
    | some (1, lo, hi), b :: rest =>
      if lo ≤ b && b ≤ hi then some (Char.ofNat (a.toNat % 32 * 64 + payload b), rest) else none
    | some (2, lo, hi), b :: c :: rest =>
      if lo ≤ b && b ≤ hi && isContinuation c then
        some (Char.ofNat ((a.toNat % 16 * 64 + payload b) * 64 + payload c), rest)
      else none
    | some (3, lo, hi), b :: c :: d :: rest =>
      if lo ≤ b && b ≤ hi && isContinuation c && isContinuation d then
        some (Char.ofNat (((a.toNat % 8 * 64 + payload b) * 64 + payload c) * 64 + payload d), rest)
      else none
    | _, _ => none

/-- Reading a character consumes at least one byte. -/
theorem length_next? {bs rest : List UInt8} {c : Char} (h : next? bs = some (c, rest)) :
    rest.length < bs.length := by
  unfold next? at h
  split at h
  · simp at h
  · split at h
    · simp only [Option.some.injEq, Prod.mk.injEq] at h
      obtain ⟨-, rfl⟩ := h
      simp
    all_goals try split at h
    all_goals simp_all
    all_goals grind

/-- The text that the bytes spell, if they are well formed. -/
def decode? (bs : List UInt8) : Option (List Char) :=
  match bs with
  | [] => some []
  | b :: bs' =>
    match h : next? (b :: bs') with
    | none => none
    | some (c, rest) =>
      have : rest.length ≤ bs'.length := Nat.le_of_lt_succ (length_next? h)
      (decode? rest).map (c :: ·)
termination_by bs.length

/-- How many of the leading bytes, which start no character, belong together as one ill-formed part:
the longest run that some character could have started with, and at least one byte. -/
def illFormedLength : List UInt8 → Nat
  | [] => 0
  | a :: rest =>
    match lead? a, rest with
    | some (n + 1, lo, hi), b :: rest =>
      if lo ≤ b && b ≤ hi then 2 + ((rest.take (n - 1)).takeWhile isContinuation).length else 1
    | _, _ => 1

/-- The text that the bytes spell, with U+FFFD in the place of every ill-formed part. -/
def decodeLossy (bs : List UInt8) : List Char :=
  match bs with
  | [] => []
  | b :: bs' =>
    match h : next? (b :: bs') with
    | some (c, rest) =>
      have : rest.length ≤ bs'.length := Nat.le_of_lt_succ (length_next? h)
      c :: decodeLossy rest
    | none => '\uFFFD' :: decodeLossy (bs'.drop (illFormedLength (b :: bs') - 1))
termination_by bs.length

end ServiceBroker.Utf8

import ServiceBroker.Decimal.Literal
import ServiceBroker.Text.Hex

/-!
# Scalars in TOML

## Main definitions

* `Toml.string?`: the string at the head of a text
* `Toml.word?`: the value that a word without quotes spells
* `Toml.isDate`, `Toml.isTime`: the words for dates and times
-/

namespace ServiceBroker.Toml

/-- The character may stand in a string or a comment as it is. -/
def isText (c : Char) : Bool := c == '\t' || (32 ≤ c.toNat && c.toNat ≠ 127)

/-- The number that hexadecimal digits spell. -/
def ofHexDigits? (cs : List Char) : Option Nat :=
  cs.foldl (fun n? c => do return 16 * (← n?) + (← Hex.ofChar? c)) (some 0)

/-- The character with a code point, if there is one. -/
def charOf? (n : Nat) : Option Char := if n.isValidChar then some (Char.ofNat n) else none

/-- The character that an escape stands for, and what follows it. -/
def escaped? : List Char → Option (Char × List Char)
  | 'b' :: rest => some ('\x08', rest)
  | 't' :: rest => some ('\t', rest)
  | 'n' :: rest => some ('\n', rest)
  | 'f' :: rest => some ('\x0c', rest)
  | 'r' :: rest => some ('\r', rest)
  | '"' :: rest => some ('"', rest)
  | '\\' :: rest => some ('\\', rest)
  | 'u' :: rest => code 4 rest
  | 'U' :: rest => code 8 rest
  | _ => none
where
  /-- The character whose code point is spelled by `n` digits, and what follows them. -/
  code (n : Nat) (cs : List Char) : Option (Char × List Char) := do
    let digits := cs.take n
    if digits.length = n then
      let c ← charOf? (← ofHexDigits? digits)
      return (c, cs.drop n)
    else none

/-- The rest of a string on one line between double quotes, after the characters `taken` (the latest
first), and what follows it. One step of the fuel goes to each character. -/
def basic? : Nat → List Char → List Char → Option (String × List Char)
  | 0, _, _ => none
  | fuel + 1, taken, text =>
    match text with
    | '"' :: rest => some (String.ofList taken.reverse, rest)
    | '\\' :: rest =>
      match escaped? rest with
      | some (c, rest) => basic? fuel (c :: taken) rest
      | none => none
    | c :: rest => if isText c then basic? fuel (c :: taken) rest else none
    | [] => none

/-- The rest of a string on one line between single quotes, and what follows it. -/
def literal? (taken : List Char) : List Char → Option (String × List Char)
  | '\'' :: rest => some (String.ofList taken.reverse, rest)
  | c :: rest => if isText c then literal? (c :: taken) rest else none
  | [] => none

/-- What follows the end of a line, if a text starts with one. -/
def newline? : List Char → Option (List Char)
  | '\n' :: rest => some rest
  | '\x0d' :: '\n' :: rest => some rest
  | _ => none

/-- The character is a blank. -/
def isBlank (c : Char) : Bool := c == ' ' || c == '\t'

/-- A text from the first character on that is no white space. -/
def trimLines (cs : List Char) : List Char :=
  cs.dropWhile fun c => isBlank c || c == '\n' || c == '\x0d'

/-- What follows the end of a string of several lines whose quote is `q`: up to two quotes before
the last three belong to the string. -/
def closed? (q : Char) (taken : List Char) (text : List Char) : Option (String × List Char) :=
  let quotes := (text.takeWhile (· == q)).length
  if quotes < 3 then none
  else
    -- More than five quotes in a row leave some over, which the caller will not accept.
    let kept := min (quotes - 3) 2
    some (String.ofList (List.replicate kept q ++ taken).reverse, text.drop (kept + 3))

/-- The rest of a string of several lines, with escapes if its quote `q` is the double one, and what
follows it. -/
def long? (q : Char) : Nat → List Char → List Char → Option (String × List Char)
  | 0, _, _ => none
  | fuel + 1, taken, text =>
    match closed? q taken text with
    | some found => some found
    | none =>
      match text with
      | [] => none
      | c :: rest =>
        if c = '\\' ∧ q = '"' then
          match newline? (rest.dropWhile isBlank) with
          | some rest => long? q fuel taken (trimLines rest)
          | none =>
            match escaped? rest with
            | some (c, rest) => long? q fuel (c :: taken) rest
            | none => none
        else
          match newline? (c :: rest) with
          | some rest => long? q fuel ('\n' :: taken) rest
          | none => if isText c then long? q fuel (c :: taken) rest else none

/-- The string at the head of a text that starts with a quote, and what follows it. -/
def string? (text : List Char) : Option (String × List Char) :=
  match text with
  | '"' :: '"' :: '"' :: rest => long? '"' (rest.length + 1) [] ((newline? rest).getD rest)
  | '\'' :: '\'' :: '\'' :: rest => long? '\'' (rest.length + 1) [] ((newline? rest).getD rest)
  | '"' :: rest => basic? (rest.length + 1) [] rest
  | '\'' :: rest => literal? [] rest
  | _ => none

/-- Digits without the underscores between them; every underscore has to stand between two. -/
def ungroup? (isDigit : Char → Bool) : List Char → Option (List Char)
  | [] => some []
  | '_' :: _ => none
  | [c] => some [c]
  | c :: '_' :: d :: rest =>
    if isDigit c && isDigit d then (ungroup? isDigit (d :: rest)).map (c :: ·) else none
  | c :: rest => (ungroup? isDigit rest).map (c :: ·)

/-- The largest integer. -/
def maxInteger : Nat := 9223372036854775807

/-- The number that digits of a given base spell. -/
def ofDigits? (base : Nat) (cs : List Char) : Option Nat :=
  if cs.isEmpty then none
  else
    cs.foldl (fun n? c => do
      let n ← n?
      let d ← Hex.ofChar? c
      if d < base then some (n * base + d) else none) (some 0)

/-- A decimal number has no zeros before its other digits. -/
def isCanonical (whole : List Char) : Bool := whole.head? != some '0' || whole == ['0']

/-- The integer that a word spells. -/
def integer? (word : List Char) : Option Json :=
  let based (base : Nat) (digits : List Char) : Option Json := do
    let n ← ofDigits? base (← ungroup? (fun c => (Hex.ofChar? c).isSome) digits)
    if n ≤ maxInteger then some (.nat n) else none
  match word with
  | '0' :: 'x' :: digits => based 16 digits
  | '0' :: 'o' :: digits => based 8 digits
  | '0' :: 'b' :: digits => based 2 digits
  | _ => do
    let (negative, digits) := Decimal.Literal.sign word
    let digits ← ungroup? Char.isDigit digits
    let n ← ofDigits? 10 digits
    if !isCanonical digits then none
    else if negative then
      if n = 0 then some (.nat 0)
      else if n ≤ maxInteger + 1 then some (.number (.negative n))
      else none
    else if n ≤ maxInteger then some (.nat n) else none

/-- The floating-point number that a word spells. -/
def float? (word : List Char) : Option Json :=
  match String.ofList word with
  | "inf" | "+inf" => some (.number (.float (1 / 0)))
  | "-inf" => some (.number (.float (-1 / 0)))
  | "nan" | "+nan" | "-nan" => some (.number (.float (0 / 0)))
  | _ => do
    let literal ← Decimal.Literal.ofText? (← ungroup? Char.isDigit word)
    if !literal.whole.isEmpty && isCanonical literal.whole && literal.fraction != some [] &&
        (literal.fraction.isSome || literal.exponent.isSome) then
      some (.number literal.number)
    else none

/-- The number that exactly `n` digits spell. -/
def fixed? (n : Nat) (cs : List Char) : Option Nat :=
  if cs.length = n ∧ cs.all Char.isDigit then ofDigits? 10 cs else none

/-- The number of days of a month. -/
def daysOf (year month : Nat) : Nat :=
  if month = 2 then if year % 4 = 0 ∧ (year % 100 ≠ 0 ∨ year % 400 = 0) then 29 else 28
  else if month = 4 ∨ month = 6 ∨ month = 9 ∨ month = 11 then 30 else 31

/-- The word is a date. -/
def isDate (word : List Char) : Bool :=
  match fixed? 4 (word.take 4), word.drop 4 with
  | some year, '-' :: m₁ :: m₂ :: '-' :: day =>
    match fixed? 2 [m₁, m₂], fixed? 2 day with
    | some month, some day =>
      1 ≤ month && month ≤ 12 && 1 ≤ day && day ≤ daysOf year month
    | _, _ => false
  | _, _ => false

/-- Two digits that count up to `max`. -/
def isUpTo (max : Nat) (a b : Char) : Bool :=
  match fixed? 2 [a, b] with
  | some n => n ≤ max
  | none => false

/-- The word is a time of day. -/
def isTime (word : List Char) : Bool :=
  match word with
  | h₁ :: h₂ :: ':' :: m₁ :: m₂ :: ':' :: s₁ :: s₂ :: rest =>
    isUpTo 23 h₁ h₂ && isUpTo 59 m₁ m₂ && isUpTo 60 s₁ s₂ &&
      match rest with
      | [] => true
      | '.' :: digits => !digits.isEmpty && digits.all Char.isDigit
      | _ => false
  | _ => false

/-- The word is a time of day, perhaps with its distance from Greenwich. -/
def isZonedTime (word : List Char) : Bool :=
  match word.reverse with
  | m₂ :: m₁ :: ':' :: h₂ :: h₁ :: mark :: rest =>
    if mark == '+' || mark == '-' then isUpTo 23 h₁ h₂ && isUpTo 59 m₁ m₂ && isTime rest.reverse
    else isTime word || isZulu word
  | _ => isZulu word
where
  /-- The word is a time in Greenwich. -/
  isZulu (word : List Char) : Bool :=
    match word.reverse with
    | z :: rest => (z == 'Z' || z == 'z') && isTime rest.reverse
    | [] => false

/-- The word is a date, a time of day, or both with a letter between them. -/
def isDateTime (word : List Char) : Bool :=
  isDate word || isTime word ||
    match word.drop 10 with
    | mark :: time => (mark == 'T' || mark == 't') && isDate (word.take 10) && isZonedTime time
    | [] => false

/-- The value that a word without quotes spells. A date or time is an object with a single member.
-/
def word? (word : List Char) : Option Json :=
  match String.ofList word with
  | "true" => some (.bool true)
  | "false" => some (.bool false)
  | text =>
    if isDateTime word then some (.ofMembers [("datetime", .string text)])
    else (integer? word).or (float? word)

end ServiceBroker.Toml

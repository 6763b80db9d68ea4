import ServiceBroker.Decimal.Literal
import ServiceBroker.Json.Merge
import ServiceBroker.Text.Blank
import ServiceBroker.Text.Hex
import ServiceBroker.Text.Split

/-!
# Settings from the environment

An environment variable whose name starts with a certain prefix sets one value. The rest of its name
is the path to the value, with two underscores between the parts. Its content is read as a truth
value, a number, a quoted string, a list or a table when it is in order as one of them, and else as
a string.

## Main definitions

* `Variable.value`: the value that the content of a variable spells
* `Variable.path?`: the path to the value that a variable sets
* `Variable.tree`: all the values that variables set
-/

namespace ServiceBroker.Variable

/-- The character is white space of ASCII. -/
def isSpace (c : Char) : Bool :=
  c == ' ' || c == '\t' || c == '\n' || c == '\x0d' || c == '\x0c'

/-- The character ends a value without quotes. -/
def isSeparator (c : Char) : Bool :=
  c == ',' || c == '\x7b' || c == '\x7d' || c == '[' || c == ']'

/-- The character may stand in the name of a member. -/
def isNameChar (c : Char) : Bool := c.isAlphanum || c == '_' || c == '-'

/-- The character with the code point that digits spell. -/
def charOf? (digits : List Char) : Option Char := do
  let n ← digits.foldl (fun n? c => do return 16 * (← n?) + (← Hex.ofChar? c)) (some 0)
  if n.isValidChar then some (Char.ofNat n) else none

/-- The rest of a string between quotes, after the characters `taken` (the latest first), and what
follows it. One step of the fuel goes to each character. -/
def quoted? : Nat → List Char → List Char → Option (String × List Char)
  | 0, _, _ => none
  | fuel + 1, taken, text =>
    match text with
    | '"' :: rest => some (String.ofList taken.reverse, rest)
    | '\\' :: 'u' :: rest => escaped fuel taken (charOf? (rest.take 4)) 4 rest
    | '\\' :: 'U' :: rest => escaped fuel taken (charOf? (rest.take 8)) 8 rest
    | '\\' :: c :: rest =>
      match c with
      | 'b' => quoted? fuel ('\x08' :: taken) rest
      | 'f' => quoted? fuel ('\x0c' :: taken) rest
      | 'n' => quoted? fuel ('\n' :: taken) rest
      | 'r' => quoted? fuel ('\x0d' :: taken) rest
      | 't' => quoted? fuel ('\t' :: taken) rest
      | '"' | '\\' => quoted? fuel (c :: taken) rest
      | _ => none
    | c :: rest =>
      if c == '\t' || (32 ≤ c.toNat && c.toNat ≠ 127) then quoted? fuel (c :: taken) rest else none
    | [] => none
where
  /-- Go on after an escape of `n` digits. -/
  escaped (fuel : Nat) (taken : List Char) (c? : Option Char) (n : Nat) (rest : List Char) :
      Option (String × List Char) :=
    match c? with
    | some c => if n ≤ rest.length then quoted? fuel (c :: taken) (rest.drop n) else none
    | none => none

/-- The integer of 64 bits that a word spells. -/
def integer? (word : List Char) : Option Json :=
  let (negative, digits) := Decimal.Literal.sign word
  if digits.isEmpty || !digits.all Char.isDigit then none
  else
    let n := digits.foldl (fun n c => 10 * n + (c.toNat - 48)) 0
    if negative then
      if n = 0 then some (.nat 0)
      else if n ≤ 9223372036854775808 then some (.number (.negative n)) else none
    else if n ≤ 18446744073709551615 then some (.nat n) else none

/-- The value that a word without quotes spells. Only a word with a point can be a fraction. -/
def word (cs : List Char) : Json :=
  let fraction :=
    if cs.contains '.' then (Decimal.Literal.ofText? cs).map (.number ·.number) else none
  ((fraction.or (integer? cs))).getD (.string (String.ofList cs))

/-- What follows a word at the head of a text. -/
def after? (expected : String) (text : List Char) : Option (List Char) :=
  if expected.toList.isPrefixOf text then some (text.drop expected.length) else none

mutual

/-- The value at the head of a text, and what follows it and the white space after it. Every step
takes one from the fuel. -/
def value? : Nat → List Char → Option (Json × List Char)
  | 0, _ => none
  | fuel + 1, text =>
    let text := text.dropWhile isSpace
    let found : Option (Json × List Char) :=
      match after? "true" text with
      | some rest => some (.bool true, rest)
      | none =>
        match after? "false" text with
        | some rest => some (.bool false, rest)
        | none =>
          match text with
          | '\x7b' :: rest => pairs? fuel [] rest
          | '[' :: rest => items? fuel [] rest
          | '"' :: rest =>
            (quoted? (rest.length + 1) [] rest).map fun (s, rest) => (.string s, rest)
          | '\'' :: c :: '\'' :: rest => some (.string (String.singleton c), rest)
          | '\'' :: _ => none
          | text =>
            let (found, rest) := text.span fun c => !isSeparator c
            some (word (Text.trim found), rest)
    found.map fun (v, rest) => (v, rest.dropWhile isSpace)

/-- The rest of a list, after the items `taken` (the latest first), and what follows it. -/
def items? : Nat → List Json → List Char → Option (Json × List Char)
  | 0, _, _ => none
  | fuel + 1, taken, text =>
    match text with
    | ']' :: rest => some (.array taken.reverse, rest)
    | text =>
      match value? fuel text with
      | some (v, ',' :: rest) => items? fuel (v :: taken) rest
      | some (v, ']' :: rest) => some (.array (v :: taken).reverse, rest)
      | _ => none

/-- The rest of a table, after the members `taken`, and what follows it. -/
def pairs? : Nat → List (String × Json) → List Char → Option (Json × List Char)
  | 0, _, _ => none
  | fuel + 1, taken, text =>
    match text with
    | '\x7d' :: rest => some (.ofMembers taken, rest)
    | text =>
      let name := match text.dropWhile isSpace with
        | '"' :: rest => quoted? (rest.length + 1) [] rest
        | text =>
          let (name, rest) := text.span isNameChar
          if name.isEmpty then none else some (String.ofList name, rest)
      match name with
      | none => none
      | some (name, rest) =>
        match rest.dropWhile isSpace with
        | '=' :: rest =>
          match value? fuel rest with
          | some (v, ',' :: rest) => pairs? fuel (taken ++ [(name, v)]) rest
          | some (v, '\x7d' :: rest) => some (.ofMembers (taken ++ [(name, v)]), rest)
          | _ => none
        | _ => none

end

/-- The value that the content of a variable spells. -/
def value (content : String) : Json :=
  match value? (2 * content.length + 2) content.toList with
  | some (v, []) => v
  | _ => .string content

/-- The prefix of the names that set values. -/
def namePrefix : String := "OSBRIDGE_"

/-- A text with a point for every two underscores. -/
def points : List Char → List Char
  | '_' :: '_' :: rest => '.' :: points rest
  | c :: rest => c :: points rest
  | [] => []

/-- The path to the value that a variable sets, if it sets one. The case of letters does not count,
and every part of the path has to be there. -/
def path? (name : String) : Option (List String) :=
  let cs := (Text.trim name.toList).map Char.toLower
  match after? (namePrefix.map Char.toLower) cs with
  | none => none
  | some rest =>
    let parts := splitAt (· == '.') (Text.trim (points rest))
    -- Two underscores at an end, or four in a row, leave a part empty.
    if parts.any List.isEmpty then none else some (parts.map String.ofList)

/-- All the values that variables set; later ones are laid over earlier ones. -/
def tree (environment : List (String × String)) : Json :=
  environment.foldl (fun tree v =>
    match path? v.1 with
    | some path => tree.overlay (.nested path (value v.2))
    | none => tree) (.object [])

end ServiceBroker.Variable

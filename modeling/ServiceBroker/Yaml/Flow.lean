import ServiceBroker.Json.Basic
import ServiceBroker.Text.Utf8

/-!
# YAML in flow style

A value in flow style is a scalar, or a list or mapping between brackets. Scalars may be quoted; a
plain one is a truth value, an integer or nothing if it looks like one, and a string otherwise.

## Main definitions

* `Yaml.plain`: the value of a plain scalar
* `Yaml.quoted?`: a quoted scalar at the head of a text
* `Yaml.flow?`: the value that a text in flow style spells
-/

namespace ServiceBroker.Yaml

/-- The character is a blank or ends a line. -/
def isSpace (c : Char) : Bool := c == ' ' || c == '\t' || c == '\n'

/-- A text without the blanks at its two ends. -/
def strip (cs : List Char) : List Char :=
  ((cs.dropWhile isSpace).reverse.dropWhile isSpace).reverse

/-- The number that decimal digits spell. -/
def natural? (cs : List Char) : Option Nat :=
  if cs ≠ [] ∧ cs.all Char.isDigit ∧ (cs.head? ≠ some '0' ∨ cs = ['0']) then
    some (cs.foldl (fun n c => 10 * n + (c.toNat - 48)) 0)
  else none

/-- The text spells a number with a fraction or an exponent. -/
def isFraction (cs : List Char) : Bool :=
  let digits := cs.dropWhile fun c => c == '-' || c == '+'
  (digits.any Char.isDigit && digits.all fun c =>
      c.isDigit || c == '.' || c == 'e' || c == 'E' || c == '-' || c == '+') &&
    (digits.head?.map fun c => c.isDigit || c == '.') == some true

/-- The value of a plain scalar. -/
def plain (cs : List Char) : Json :=
  match String.ofList cs with
  | "" | "~" | "null" | "Null" | "NULL" => .null
  | "true" | "True" | "TRUE" => .bool true
  | "false" | "False" | "FALSE" => .bool false
  | text =>
    match cs with
    | '-' :: digits =>
      match natural? digits with
      | some n => .number (.negative n)
      | none => if isFraction cs then .number (.float 0) else .string text
    | _ =>
      match natural? cs with
      | some n => .nat n
      | none => if isFraction cs then .number (.float 0) else .string text

/-- The rest of a text between single quotes, in which a quote is written twice, and what follows.
-/
def singleQuoted? (taken : List Char) : List Char → Option (String × List Char)
  | '\'' :: '\'' :: rest => singleQuoted? ('\'' :: taken) rest
  | '\'' :: rest => some (String.ofList taken.reverse, rest)
  | c :: rest => singleQuoted? (c :: taken) rest
  | [] => none

/-- The character that a letter after a backslash stands for. -/
def escaped? (c : Char) : Option Char :=
  match c with
  | 'n' => some '\n'
  | 't' => some '\t'
  | 'r' => some '\r'
  | '0' => some '\x00'
  | '"' | '\\' | '/' | ' ' => some c
  | _ => none

/-- The rest of a text between double quotes, and what follows. -/
def doubleQuoted? (taken : List Char) : List Char → Option (String × List Char)
  | '\\' :: c :: rest =>
    match escaped? c with
    | some c => doubleQuoted? (c :: taken) rest
    | none => none
  | '"' :: rest => some (String.ofList taken.reverse, rest)
  | c :: rest => doubleQuoted? (c :: taken) rest
  | [] => none

/-- A quoted scalar at the head of a text, and what follows. -/
def quoted? : List Char → Option (String × List Char)
  | '\'' :: rest => singleQuoted? [] rest
  | '"' :: rest => doubleQuoted? [] rest
  | _ => none

/-- The character has a meaning in flow style. -/
def isIndicator (c : Char) : Bool :=
  c == ',' || c == '[' || c == ']' || c == '\x7b' || c == '\x7d'

/-- No plain scalar starts with this character. -/
def startsNoPlain (c : Char) : Bool :=
  isIndicator c || "&*!|>%@`\"'#".toList.contains c

/-- A plain scalar at the head of a text in flow style, and what follows: it ends before an
indicator and before a colon that a blank or an indicator follows. -/
def plainHead : List Char → List Char × List Char
  | [] => ([], [])
  | ':' :: c :: rest =>
    if isSpace c || isIndicator c then ([], ':' :: c :: rest)
    else
      let (front, back) := plainHead (c :: rest)
      (':' :: front, back)
  | [':'] => ([], [':'])
  | c :: rest =>
    if isIndicator c then ([], c :: rest)
    else
      let (front, back) := plainHead rest
      (c :: front, back)

/-- A scalar at the head of a text in flow style, and what follows. -/
def scalar? (text : List Char) : Option (Json × List Char) :=
  match quoted? text with
  | some (s, rest) => some (.string s, rest)
  | none =>
    if (text.head?.map startsNoPlain).getD true then none
    else
      let (front, back) := plainHead text
      some (plain (strip front), back)

/-- The text of a scalar that is used as a key. -/
def keyText? : Json → Option String
  | .string s => some s
  | .bool true => some "true"
  | .bool false => some "false"
  | .number (.natural n) => some (toString n)
  | .null => some "~"
  | _ => none

mutual

/-- A value at the head of a text in flow style, and what follows. Every step takes one from the
fuel. -/
def value? : Nat → List Char → Option (Json × List Char)
  | 0, _ => none
  | fuel + 1, text =>
    match text.dropWhile isSpace with
    | '[' :: rest => items? fuel [] rest
    | '\x7b' :: rest => pairs? fuel [] rest
    | rest => scalar? rest

/-- The rest of a list, and what follows it. -/
def items? : Nat → List Json → List Char → Option (Json × List Char)
  | 0, _, _ => none
  | fuel + 1, taken, text =>
    match text.dropWhile isSpace with
    | ']' :: rest => some (.array taken.reverse, rest)
    | start =>
      match value? fuel start with
      | none => none
      | some (v, rest) =>
        match rest.dropWhile isSpace with
        | ',' :: rest => items? fuel (v :: taken) rest
        | ']' :: rest => some (.array (v :: taken).reverse, rest)
        | _ => none

/-- The rest of a mapping, and what follows it. -/
def pairs? : Nat → List (String × Json) → List Char → Option (Json × List Char)
  | 0, _, _ => none
  | fuel + 1, taken, text =>
    match text.dropWhile isSpace with
    | '\x7d' :: rest => some (.ofMembers taken.reverse, rest)
    | start =>
      match scalar? start with
      | none => none
      | some (key, rest) =>
        match keyText? key with
        | none => none
        | some key =>
          if taken.any fun m => m.1 == key then none
          else
            match rest.dropWhile isSpace with
            | ':' :: rest => pair? fuel taken key rest
            | ',' :: rest => pairs? fuel ((key, .null) :: taken) rest
            | '\x7d' :: rest => some (.ofMembers ((key, .null) :: taken).reverse, rest)
            | _ => none

/-- The rest of a mapping from the value of a key on, and what follows it. -/
def pair? : Nat → List (String × Json) → String → List Char → Option (Json × List Char)
  | 0, _, _, _ => none
  | fuel + 1, taken, key, text =>
    match text.dropWhile isSpace with
    | ',' :: rest => pairs? fuel ((key, .null) :: taken) rest
    | '\x7d' :: rest => some (.ofMembers ((key, .null) :: taken).reverse, rest)
    | start =>
      match value? fuel start with
      | none => none
      | some (v, rest) =>
        match rest.dropWhile isSpace with
        | ',' :: rest => pairs? fuel ((key, v) :: taken) rest
        | '\x7d' :: rest => some (.ofMembers ((key, v) :: taken).reverse, rest)
        | _ => none

end

/-- The value that a text in flow style spells. There are at most three steps to a character. -/
def flow? (text : List Char) : Option Json :=
  match value? (3 * text.length + 3) text with
  | some (v, rest) => if (strip rest).isEmpty then some v else none
  | none => none

end ServiceBroker.Yaml

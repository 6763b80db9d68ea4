import ServiceBroker.Toml.Scalar
import ServiceBroker.Toml.Table

/-!
# TOML texts

A text is a list of statements, one to a line: a header names the table that the following lines
belong to, and any other statement gives a value to a key. The reader tells a text that is in order
from one that is not, and does not say what is wrong with it.

## Main definitions

* `Toml.Statement`: one statement
* `Toml.statements?`: the statements of a text
* `Toml.ofText?`: the tree of tables that a text spells, as an object
-/

namespace ServiceBroker.Toml

/-- The character may stand in a key without quotes. -/
def isBare (c : Char) : Bool := c.isAlphanum || c == '_' || c == '-'

/-- One part of a dotted key, and what follows it. -/
def keyPart? : List Char → Option (String × List Char)
  | '"' :: rest => basic? (rest.length + 1) [] rest
  | '\'' :: rest => literal? [] rest
  | text =>
    let (part, rest) := text.span isBare
    if part.isEmpty then none else some (String.ofList part, rest)

/-- A dotted key as its path and its last part, and what follows it and the blanks after it. One
step of the fuel goes to each part. -/
def key? : Nat → List Char → Option (List String × String × List Char)
  | 0, _ => none
  | fuel + 1, text => do
    let (part, rest) ← keyPart? (text.dropWhile isBlank)
    match rest.dropWhile isBlank with
    | '.' :: rest =>
      let (path, last, rest) ← key? fuel rest
      return (part :: path, last, rest)
    | rest => return ([], part, rest)

/-- A text from the first character on that is neither white space nor part of a comment. -/
def skip (inComment : Bool) : List Char → List Char
  | [] => []
  | '\x0d' :: '\n' :: rest => skip false rest
  | c :: rest =>
    if c = '\n' then skip false rest
    else if inComment then if isText c then skip true rest else c :: rest
    else if isBlank c then skip false rest
    else if c = '#' then skip true rest
    else c :: rest

/-- The character may stand in a word without quotes. -/
def isWordChar (c : Char) : Bool :=
  c.isAlphanum || c == '_' || c == '+' || c == '-' || c == '.' || c == ':'

/-- A word without quotes, and what follows it. A date and a time with a blank between them are one
word, with a letter in the place of the blank. -/
def word (text : List Char) : List Char × List Char :=
  let (first, rest) := text.span isWordChar
  match rest with
  | ' ' :: c :: rest =>
    if isDate first && c.isDigit then
      let (second, rest) := (c :: rest).span isWordChar
      (first ++ 'T' :: second, rest)
    else (first, ' ' :: c :: rest)
  | rest => (first, rest)

mutual

/-- The value at the head of a text, and what follows it. Every step takes one from the fuel. -/
def value? : Nat → List Char → Option (Json × List Char)
  | 0, _ => none
  | fuel + 1, text =>
    match text with
    | '[' :: rest => items? fuel [] (skip false rest)
    | '\x7b' :: rest =>
      match rest.dropWhile isBlank with
      | '\x7d' :: rest => some (.ofMembers [], rest)
      | rest => pairs? fuel .nil rest
    | '"' :: _ | '\'' :: _ => (string? text).map fun (s, rest) => (.string s, rest)
    | _ =>
      let (found, rest) := word text
      (word? found).map fun v => (v, rest)

/-- The rest of a list, after the items `taken` (the latest first), and what follows it. -/
def items? : Nat → List Json → List Char → Option (Json × List Char)
  | 0, _, _ => none
  | fuel + 1, taken, text =>
    match text with
    | ']' :: rest => some (.array taken.reverse, rest)
    | _ =>
      match value? fuel text with
      | none => none
      | some (v, rest) =>
        match skip false rest with
        | ',' :: rest => items? fuel (v :: taken) (skip false rest)
        | ']' :: rest => some (.array (v :: taken).reverse, rest)
        | _ => none

/-- The rest of a table between braces, and what follows it. -/
def pairs? : Nat → Entries → List Char → Option (Json × List Char)
  | 0, _, _ => none
  | fuel + 1, taken, text =>
    match key? (text.length + 1) text with
    | some (path, last, '=' :: rest) =>
      match value? fuel (rest.dropWhile isBlank) with
      | none => none
      | some (v, rest) =>
        match taken.assign? path last v with
        | none => none
        | some taken =>
          match rest.dropWhile isBlank with
          | ',' :: rest => pairs? fuel taken rest
          | '\x7d' :: rest => some (taken.toJson, rest)
          | _ => none
    | _ => none

end

/-- One statement. -/
inductive Statement where
  | table (path : List String) (key : String)
  | item (path : List String) (key : String)
  | assignment (path : List String) (key : String) (value : Json)

/-- What follows the rest of a line, which holds nothing but blanks and perhaps a comment. -/
def lineEnd? (text : List Char) : Option (List Char) :=
  let text := text.dropWhile isBlank
  let text := match text with
    | '#' :: rest => rest.dropWhile isText
    | text => text
  match text with
  | [] => some []
  | text => newline? text

/-- The statement at the head of a text, and what follows its line. -/
def statement? (text : List Char) : Option (Statement × List Char) := do
  let fuel := text.length + 1
  match text with
  | '[' :: '[' :: rest =>
    match ← key? fuel rest with
    | (path, key, ']' :: ']' :: rest) => return (.item path key, ← lineEnd? rest)
    | _ => none
  | '[' :: rest =>
    match ← key? fuel rest with
    | (path, key, ']' :: rest) => return (.table path key, ← lineEnd? rest)
    | _ => none
  | _ =>
    match ← key? fuel text with
    | (path, key, '=' :: rest) =>
      let (v, rest) ← value? (2 * fuel) (rest.dropWhile isBlank)
      return (.assignment path key v, ← lineEnd? rest)
    | _ => none

/-- The statements of a text. One step of the fuel goes to each. -/
def statements? : Nat → List Char → Option (List Statement)
  | 0, _ => none
  | fuel + 1, text =>
    match skip false text with
    | [] => some []
    | text => do
      let (s, rest) ← statement? text
      return s :: (← statements? fuel rest)

/-- The tree that statements build on `es`, if the table that was named last has the path
`current`. -/
def build? (current : List String) (es : Entries) : List Statement → Option Entries
  | [] => some es
  | .table path key :: rest => do build? (path ++ [key]) (← es.open? path key) rest
  | .item path key :: rest => do build? (path ++ [key]) (← es.append? path key) rest
  | .assignment path key v :: rest => do
    build? current (← es.changeNamed? current fun inner => inner.assign? path key v) rest

/-- The tree of tables that a text spells, as an object. A mark of the byte order may come first. -/
def ofText? (text : List Char) : Option Json := do
  let text := match text with
    | '\uFEFF' :: rest => rest
    | text => text
  return (← build? [] .nil (← statements? (text.length + 1) text)).toJson

end ServiceBroker.Toml

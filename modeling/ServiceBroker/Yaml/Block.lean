import ServiceBroker.Text.Split
import ServiceBroker.Yaml.Flow

/-!
# YAML in block style

In block style the indentation of lines gives a text its structure. A line starts an item of a list
or an entry of a mapping; the lines that are indented further belong to it.

## Main definitions

* `Yaml.Line`: the content of a line with its indentation
* `Yaml.lines?`: the lines of a text that count
* `Yaml.documents?`: the values of the documents in a text
-/

namespace ServiceBroker.Yaml

/-- The content of a line with its indentation. -/
structure Line where
  indent : Nat
  text : List Char
  deriving DecidableEq, Repr

/-- Where quotes and brackets stand while a line is scanned: inside which quotes, and in how many
brackets. -/
structure Nesting where
  quote? : Option Char
  depth : Int
  deriving DecidableEq, Repr

/-- Nothing is open. -/
def Nesting.none : Nesting := ⟨Option.none, 0⟩

/-- The nesting after a character, of which `before` is the one before. -/
def Nesting.step (n : Nesting) (before c : Char) : Nesting :=
  match n.quote? with
  | some q => if c = q ∧ ¬(q = '"' ∧ before = '\\') then { n with quote? := Option.none } else n
  | Option.none =>
    if (c == '"' || c == '\'') && (isSpace before || isIndicator before) then
      { n with quote? := some c }
    else if c == '[' || c == '\x7b' then { n with depth := n.depth + 1 }
    else if c == ']' || c == '\x7d' then { n with depth := n.depth - 1 }
    else n

/-- A line without the comment at its end, and the nesting after it. -/
def uncomment (n : Nesting) (before : Char) : List Char → List Char × Nesting
  | [] => ([], n)
  | c :: rest =>
    if c = '#' ∧ n.quote?.isNone ∧ isSpace before then ([], n)
    else
      let (text, after) := uncomment (n.step before c) c rest
      (c :: text, after)

/-- The lines of a text that count. A line in which brackets or quotes stay open goes on in the next
one; nothing if they stay open at the end, or if a tab is used to indent. -/
def joined? (held : Option (Line × Nesting)) : List (List Char) → Option (List Line)
  | [] => if held.isSome then none else some []
  | raw :: rest =>
    match held with
    | some (line, nesting) =>
      let (text, after) := uncomment nesting ' ' raw
      let line := { line with text := line.text ++ ' ' :: strip text }
      if after = .none then (joined? none rest).map (line :: ·)
      else joined? (some (line, after)) rest
    | none =>
      let indent := (raw.takeWhile (· == ' ')).length
      let (text, after) := uncomment .none ' ' (raw.drop indent)
      if (strip text).isEmpty then joined? none rest
      else if text.head? = some '\t' then none
      else
        let line : Line := ⟨indent, strip text⟩
        if after.quote?.isNone && after.depth ≤ 0 then (joined? none rest).map (line :: ·)
        else joined? (some (line, after)) rest

/-- The lines of a text that count. -/
def lines? (text : List Char) : Option (List Line) :=
  joined? none ((splitAt (· == '\n') text).map fun raw =>
    if raw.getLast? = some '\r' then raw.dropLast else raw)

/-- The key at the head of a line, and what follows its colon. -/
def key? (text : List Char) : Option (String × List Char) :=
  match scalar? text with
  | none => none
  | some (key, rest) =>
    match rest.dropWhile isSpace with
    | ':' :: rest =>
      if rest.isEmpty || rest.head?.map isSpace == some true then
        (keyText? key).map fun key => (key, strip rest)
      else none
    | _ => none

/-- What follows the hyphen at the head of a line, and how far it stands from the hyphen. -/
def dash? : List Char → Option (Nat × List Char)
  | ['-'] => some (2, [])
  | '-' :: ' ' :: rest =>
    let blanks := (rest.takeWhile (· == ' ')).length
    some (blanks + 2, rest.drop blanks)
  | _ => none

/-- A colon that a blank follows, or the end. -/
def hasKeyMark : List Char → Bool
  | [] => false
  | [c] => c == ':'
  | c :: d :: rest => (c == ':' && isSpace d) || hasKeyMark (d :: rest)

/-- The value that one line spells. A plain scalar takes all of it. -/
def inline? (text : List Char) : Option Json :=
  match text with
  | [] => some .null
  | c :: _ =>
    if (quoted? text).isSome || c == '[' || c == '\x7b' then flow? text
    else if startsNoPlain c || hasKeyMark text then none
    else some (plain text)

/-- The lines at the head that are indented further than `n`, and the others. -/
def deeper (n : Nat) (lines : List Line) : List Line × List Line :=
  lines.span fun line => n < line.indent

mutual

/-- The value that lines spell. Every step takes one from the fuel. -/
def block? : Nat → List Line → Option Json
  | 0, _ => none
  | _, [] => some .null
  | fuel + 1, line :: rest =>
    if (dash? line.text).isSome then (list? fuel line.indent (line :: rest)).map .array
    else if (key? line.text).isSome then
      (mapping? fuel line.indent [] (line :: rest)).map .ofMembers
    else if rest.isEmpty then inline? line.text else none

/-- The items of a list whose hyphens are indented by `n`. -/
def list? : Nat → Nat → List Line → Option (List Json)
  | 0, _, _ => none
  | _, _, [] => some []
  | fuel + 1, n, line :: rest =>
    if line.indent ≠ n then none
    else
      match dash? line.text with
      | none => none
      | some (offset, text) =>
        let (inner, rest) := deeper n rest
        let first := if text.isEmpty then [] else [⟨n + offset, text⟩]
        match block? fuel (first ++ inner), list? fuel n rest with
        | some v, some vs => some (v :: vs)
        | _, _ => none

/-- The members of a mapping whose keys are indented by `n`, after those in `taken`. -/
def mapping? : Nat → Nat → List (String × Json) → List Line → Option (List (String × Json))
  | 0, _, _, _ => none
  | _, _, taken, [] => some taken.reverse
  | fuel + 1, n, taken, line :: rest =>
    if line.indent ≠ n then none
    else
      match key? line.text with
      | none => none
      | some (key, text) =>
        if taken.any fun m => m.1 == key then none
        else if text.isEmpty then
          let (inner, rest) := match deeper n rest with
            -- The hyphens of a list under a key need not be indented.
            | ([], rest) =>
              rest.span fun l => n < l.indent || (l.indent == n && (dash? l.text).isSome)
            | found => found
          match block? fuel inner with
          | some v => mapping? fuel n ((key, v) :: taken) rest
          | none => none
        else
          match inline? text with
          | some v => mapping? fuel n ((key, v) :: taken) rest
          | none => none

end

/-- The line separates documents. -/
def isSeparator (line : Line) : Bool := line.indent == 0 && line.text == ['-', '-', '-']

/-- The values of the documents in a text; a text without content holds none. -/
def documents? (text : List Char) : Option (List Json) := do
  let lines ← lines? text
  let groups := (splitAt isSeparator lines).filter fun group => !group.isEmpty
  groups.mapM fun group => block? (2 * text.length + 2) group

end ServiceBroker.Yaml

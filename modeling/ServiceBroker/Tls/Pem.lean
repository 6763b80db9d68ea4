import ServiceBroker.Text.Base64
import ServiceBroker.Text.Split

/-!
# PEM texts

A PEM text holds sections between a line that begins and a line that ends them. What stands outside
the sections does not count, and neither do sections with a label that is not known.

## Main definitions

* `Pem.Kind`, `Pem.Section`: the sections that are known
* `Pem.sections?`: the sections of a text
-/

namespace ServiceBroker.Pem

/-- What a section holds. -/
inductive Kind where
  | certificate
  | privateKey
  | rsaPrivateKey
  | ecPrivateKey
  | other
  deriving DecidableEq, Repr

/-- A section with its content decoded. -/
structure Section where
  kind : Kind
  content : List UInt8
  deriving DecidableEq, Repr

/-- What a section with a given label holds. -/
def Kind.ofLabel? (label : String) : Option Kind :=
  match label with
  | "CERTIFICATE" => some .certificate
  | "PRIVATE KEY" => some .privateKey
  | "RSA PRIVATE KEY" => some .rsaPrivateKey
  | "EC PRIVATE KEY" => some .ecPrivateKey
  | "PUBLIC KEY" | "X509 CRL" | "CERTIFICATE REQUEST" | "ECHCONFIG" => some .other
  | _ => none

/-- How a line that begins a section starts. -/
def beginMark : List Char := "-----BEGIN ".toList

/-- The label in a line that begins a section: what is left without the five hyphens at its end,
which blanks may stand between or after. -/
def labelOf? (line : List Char) : Option (List Char) :=
  let (tail, kept) := line.reverse.span fun c => c == '-' || c == ' '
  if tail.count '-' = 5 then
    some ((kept.reverse ++ (tail.reverse.takeWhile (· == ' '))).drop beginMark.length)
  else none

/-- How a line that ends a section starts. -/
def endMark (label : List Char) : List Char := "-----END ".toList ++ label ++ "-----".toList

/-- The content that the lines of a section spell. -/
def content? (body : List Char) : Option (List UInt8) :=
  Base64.decode? (body.filter fun c => !(c == ' ' || c == '\t'))

/-- The sections that lines hold; nothing if one of them is ill-formed or is not ended. The section
that is being read has the label `label?` and `body` so far. -/
def sectionsOf? (label? : Option (List Char)) (body : List Char) :
    List (List Char) → Option (List Section)
  | [] => if label?.isSome then none else some []
  | line :: rest =>
    -- A line that begins a section does so inside another one, too.
    if beginMark.isPrefixOf line then
      match labelOf? line with
      | some label => sectionsOf? (some label) body rest
      | none => none
    else
      match label? with
      | none => sectionsOf? none body rest
      | some label =>
        if (endMark label).isPrefixOf line then
          match Kind.ofLabel? (String.ofList label) with
          | none => sectionsOf? none [] rest
          | some kind => do
            let content ← content? body
            let sections ← sectionsOf? none [] rest
            return ⟨kind, content⟩ :: sections
        else sectionsOf? (some label) (body ++ line) rest

/-- The sections of a text; nothing if it is ill-formed. -/
def sections? (text : List UInt8) : Option (List Section) :=
  let chars := text.map fun b => Char.ofNat b.toNat
  sectionsOf? none [] (splitAt (fun c => c == '\n' || c == '\r') chars)

end ServiceBroker.Pem

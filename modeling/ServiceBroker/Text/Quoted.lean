import ServiceBroker.Text.Visible

/-!
# Quoted text in messages

Texts that come from outside are quoted when a message names them, so that white space, controls
and combining characters can be seen.

## Main definitions

* `Text.quote`: a text between double quotes
* `Text.quoteChar`: one character between single quotes
-/

namespace ServiceBroker.Text

/-- A number in lower-case hexadecimal, without leading zeros. -/
def hex (n : Nat) : String := String.ofList (Nat.toDigits 16 n)

/-- A character inside a quotation whose mark is `mark`. -/
def escape (mark c : Char) : String :=
  if c = '\x00' then "\\0"
  else if c = '\t' then "\\t"
  else if c = '\r' then "\\r"
  else if c = '\n' then "\\n"
  else if c = '\\' || c = mark then String.ofList ['\\', c]
  else if isVisible c then String.singleton c
  else "\\u\x7b" ++ hex c.toNat ++ "\x7d"

/-- A text between double quotes, with what cannot be seen written as an escape. -/
def quote (s : String) : String :=
  "\"" ++ String.join (s.toList.map (escape '"')) ++ "\""

/-- A character between single quotes, with what cannot be seen written as an escape. -/
def quoteChar (c : Char) : String := "'" ++ escape '\'' c ++ "'"

end ServiceBroker.Text

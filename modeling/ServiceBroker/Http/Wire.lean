import ServiceBroker.Http.Message
import ServiceBroker.Http.Status
import ServiceBroker.Json.Printer
import ServiceBroker.Text.Utf8

/-!
# HTTP messages as bytes

A request is a head of lines, an empty line, and a body whose length the head gives.

## Main definitions

* `Http.Wire.next`: the request at the head of some bytes
* `Http.Wire.write`: the bytes of a response
-/

namespace ServiceBroker.Http.Wire

/-- The outcome of reading a request: more bytes are needed, the bytes are not in order, or a
request with the bytes that follow it. -/
inductive Next where
  | incomplete
  | malformed
  | request (r : Request) (rest : List UInt8)

/-- What stands before the first empty line, and what stands after it. -/
def splitHead? : List UInt8 → Option (List UInt8 × List UInt8)
  | [] => none
  | 13 :: 10 :: 13 :: 10 :: rest => some ([], rest)
  | b :: rest => (splitHead? rest).map fun (front, back) => (b :: front, back)

/-- The lines of a head. -/
def lines (head : List UInt8) : List (List UInt8) :=
  (splitAt (· == 10) head).map fun line => if line.getLast? = some 13 then line.dropLast else line

/-- A text of bytes, each of them a character. -/
def chars (bs : List UInt8) : List Char := bs.map fun b => Char.ofNat b.toNat

/-- The byte is a blank. -/
def isBlank (b : UInt8) : Bool := b == 32 || b == 9

/-- Bytes without the blanks at their two ends. -/
def strip (bs : List UInt8) : List UInt8 :=
  ((bs.dropWhile isBlank).reverse.dropWhile isBlank).reverse

/-- The name and the value of a header. -/
def header (line : List UInt8) : String × List UInt8 :=
  let (name, value) := cutAt (· == 58) line
  (String.ofList (chars name), strip value)

/-- The request that the lines of a head describe, still without its body. -/
def ofHead? (head : List UInt8) : Option Request :=
  match lines head with
  | [] => none
  | first :: others =>
    match splitAt (· == ' ') (chars first) with
    | [method, target, _] =>
      some ⟨String.ofList method, .ofText target, others.map header, []⟩
    | _ => none

/-- The length that a head gives for the body. -/
def bodyLength? (r : Request) : Option Nat :=
  match r.header? "content-length" with
  | none => some 0
  | some value => (String.ofList (chars value)).toNat?

/-- The request at the head of some bytes. -/
def next (bs : List UInt8) : Next :=
  match splitHead? bs with
  | none => .incomplete
  | some (head, rest) =>
    match ofHead? head with
    | none => .malformed
    | some r =>
      match bodyLength? r with
      | none => .malformed
      | some n =>
        if rest.length < n then .incomplete
        else .request { r with body := rest.take n } (rest.drop n)

/-- The text of a body. -/
def bodyText : Body → String
  | .empty => ""
  | .json value => value.render
  | .text content => content
  | .lines content => String.join (content.map (· ++ "\n"))

/-- The bytes of a response. -/
def write (r : Response) : List UInt8 :=
  let body := Utf8.bytes (bodyText r.body)
  let status := s!"HTTP/1.1 {describeStatus r.status}"
  let type := (r.contentType.map fun t => s!"content-type: {t}").toList
  let allow := if r.allow.isEmpty then [] else ["allow: " ++ String.intercalate "," r.allow]
  let head := status :: (type ++ allow ++ [s!"content-length: {body.length}", ""])
  Utf8.bytes (String.join (head.map (· ++ "\r\n"))) ++ body

end ServiceBroker.Http.Wire

import ServiceBroker.Text.Hex
import ServiceBroker.Text.Split

/-!
# IP addresses

## Main definitions

* `Ipv4`, `Ipv4.parse?`: an IPv4 address, and the address that a host name ending in a number spells
* `Ipv6`, `Ipv6.parse?`, `Ipv6.write`: an IPv6 address with its literals and its shortest literal
* `Ipv6.display`: the literal in texts, in which an IPv4 address is kept as such
-/

namespace ServiceBroker

/-- The digit character is decimal. -/
def isDecimalDigit (c : Char) : Bool := '0' ≤ c && c ≤ '9'

/-- The number that decimal digits spell. -/
def ofDecimalDigits (cs : List Char) : Nat := cs.foldl (fun n c => 10 * n + (c.toNat - 48)) 0

/-- An IPv4 address as a number of 32 bits. -/
structure Ipv4 where
  value : Nat
  deriving DecidableEq, Repr

namespace Ipv4

/-- The number that one part of an address spells: hexadecimal after `0x`, octal after any other
leading zero, else decimal. -/
def part? (cs : List Char) : Option Nat :=
  let digits (radix : Nat) (ds : List Char) : Option Nat :=
    ds.foldl (fun n? c => do
      let n ← n?
      let d ← Hex.ofChar? c
      if d < radix then some (n * radix + d) else none) (some 0)
  match cs with
  | [] => none
  | '0' :: 'x' :: ds | '0' :: 'X' :: ds => digits 16 ds
  | '0' :: d :: ds => digits 8 (d :: ds)
  | ds => digits 10 ds

/-- The last part of the name, one trailing point aside, is a number. -/
def endsInNumber (cs : List Char) : Bool :=
  let parts := (splitAt (· == '.') cs).reverse
  let last? := match parts with
    | [] :: last :: _ => some last
    | [[]] => none
    | last :: _ => some last
    | [] => none
  match last? with
  | none => false
  | some last => (!last.isEmpty && last.all isDecimalDigit) || (part? last).isSome

/-- The address that a name spells: one to four parts, of which the last fills up the rest. -/
def parse? (cs : List Char) : Option Ipv4 := do
  let parts := splitAt (· == '.') cs
  let parts := if parts.getLast? = some [] then parts.dropLast else parts
  if 4 < parts.length then none
  let numbers ← parts.mapM part?
  let last ← numbers.getLast?
  let front := numbers.dropLast
  -- The last part has as many bytes as the others leave over.
  if front.any (255 < ·) then none
  if Nat.pow 256 (4 - front.length) ≤ last then none
  let high := front.zipIdx.foldl (fun n d => n + d.1 * Nat.pow 256 (3 - d.2)) 0
  some ⟨high + last⟩

/-- The address as four decimal numbers. -/
def write (a : Ipv4) : List Char :=
  let number (n : Nat) : List Char := Nat.toDigits 10 (n % 256)
  number (a.value / 16777216) ++ '.' :: number (a.value / 65536) ++ '.' ::
    number (a.value / 256) ++ '.' :: number a.value

end Ipv4

/-- An IPv6 address as eight pieces of sixteen bits. -/
structure Ipv6 where
  pieces : List UInt16
  deriving DecidableEq, Repr

namespace Ipv6

/-- One piece: one to four hexadecimal digits. -/
def piece? (cs : List Char) : Option UInt16 :=
  if cs.isEmpty || 4 < cs.length then none
  else do
    let digits ← cs.mapM Hex.ofChar?
    return UInt16.ofNat (digits.foldl (fun n d => 16 * n + d) 0)

/-- One number of a dotted quad: zero to 255 without leading zeros. -/
def quad? (cs : List Char) : Option Nat :=
  if cs.isEmpty || 3 < cs.length || !cs.all isDecimalDigit then none
  else if cs.head? = some '0' && 1 < cs.length then none
  else if 255 < ofDecimalDigits cs then none
  else some (ofDecimalDigits cs)

/-- The two pieces that a dotted quad stands for. -/
def dotted? (cs : List Char) : Option (List UInt16) := do
  match ← (splitAt (· == '.') cs).mapM quad? with
  | [a, b, c, d] => some [UInt16.ofNat (256 * a + b), UInt16.ofNat (256 * c + d)]
  | _ => none

/-- Pieces with colons between them; the last may be a dotted quad if `quad` allows it. -/
def pieces? (quad : Bool) : List (List Char) → Option (List UInt16)
  | [] => some []
  | [last] =>
    match piece? last with
    | some p => some [p]
    | none => if quad then dotted? last else none
  | cs :: rest => do return (← piece? cs) :: (← pieces? quad rest)

/-- A text cut at its first double colon. -/
def splitGap? : List Char → Option (List Char × List Char)
  | [] => none
  | ':' :: ':' :: rest => some ([], rest)
  | c :: rest => (splitGap? rest).map fun (head, tail) => (c :: head, tail)

/-- Pieces with colons between them, or none for an empty text. -/
def side? (quad : Bool) (cs : List Char) : Option (List UInt16) :=
  if cs.isEmpty then some [] else pieces? quad (splitAt (· == ':') cs)

/-- The address that a literal without brackets spells. A double colon stands for at least one piece
of zeros. -/
def parse? (cs : List Char) : Option Ipv6 :=
  match splitGap? cs with
  | none => do
    let all ← side? true cs
    if all.length = 8 then some ⟨all⟩ else none
  | some (head, tail) => do
    let front ← side? false head
    let back ← side? true tail
    let n := front.length + back.length
    if n ≤ 7 then some ⟨front ++ List.replicate (8 - n) 0 ++ back⟩ else none

/-- The length of the run of zeros at the head of a list. -/
def zeros (ps : List UInt16) : Nat := (ps.takeWhile (· == 0)).length

/-- The start and length of the first longest run of zeros; `start` is the place of the head. -/
def longestRun (start : Nat) : List UInt16 → Nat × Nat
  | [] => (start, 0)
  | p :: rest =>
    let later := longestRun (start + 1) rest
    let here := zeros (p :: rest)
    if later.2 ≤ here then (start, here) else later

/-- Pieces in hexadecimal with colons between them. -/
def join : List UInt16 → List Char
  | [] => []
  | [p] => Nat.toDigits 16 p.toNat
  | p :: rest => Nat.toDigits 16 p.toNat ++ ':' :: join rest

/-- The shortest literal of an address: the first longest run of at least two zeros is a double
colon. -/
def write (a : Ipv6) : List Char :=
  let (start, n) := longestRun 0 a.pieces
  if 2 ≤ n then
    join (a.pieces.take start) ++ ':' :: ':' :: join (a.pieces.drop (start + n))
  else join a.pieces

/-- The IPv4 address that an address stands for. -/
def mapped? (a : Ipv6) : Option Ipv4 :=
  if a.pieces.take 6 = [0, 0, 0, 0, 0, 0xFFFF] then
    some ⟨(a.pieces.drop 6).foldl (fun n p => 65536 * n + p.toNat) 0⟩
  else none

/-- The literal of an address in a text: its shortest one, unless it stands for an IPv4 address. -/
def display (a : Ipv6) : List Char :=
  match a.mapped? with
  | some v4 => "::ffff:".toList ++ v4.write
  | none => a.write

end Ipv6

end ServiceBroker

import ServiceBroker.Text.Utf8
import ServiceBroker.Url.Address

/-!
# Domain names

A name on the web is compared without regard to case and may hold letters beyond ASCII, which are
sent in Punycode.

## Main definitions

* `Domain.punycode`: the ASCII form of a label
* `Domain.toAscii?`: the ASCII form of a name
-/

namespace ServiceBroker.Domain

/-- The digit that counts `n`, for `n` below thirty-six. -/
def digit (n : Nat) : Char := if n < 26 then Char.ofNat (97 + n) else Char.ofNat (22 + n)

/-- The part of a bias that is left after dividing by thirty-five while the number is above 455. -/
def adaptLoop (delta k : Nat) : Nat :=
  if 455 < delta then adaptLoop (delta / 35) (k + 36) else k + 36 * delta / (delta + 38)
termination_by delta

/-- The bias after a delta has been written. -/
def adapt (delta points : Nat) (first : Bool) : Nat :=
  let delta := if first then delta / 700 else delta / 2
  adaptLoop (delta + delta / points) 0

/-- A delta as digits of a varying base. -/
def writeDelta (q k bias : Nat) : List Char :=
  let t := min 26 (max 1 (k - bias))
  if h : q < t then [digit q]
  else
    have : (q - t) / (36 - t) < q := by
      have : 1 ≤ t := by simp only [t]; omega
      have := Nat.div_le_self (q - t) (36 - t)
      omega
    digit (t + (q - t) % (36 - t)) :: writeDelta ((q - t) / (36 - t)) (k + 36) bias
termination_by q

/-- The state of writing a label. -/
structure Progress where
  next : Nat := 128
  delta : Nat := 0
  bias : Nat := 72
  handled : Nat
  out : List Char

/-- Pass over one character while those equal to `m` are being written. -/
def Progress.visit (basic m : Nat) (p : Progress) (c : Nat) : Progress :=
  if c < m then { p with delta := p.delta + 1 }
  else if c = m then
    { p with
      out := p.out ++ writeDelta p.delta 36 p.bias
      bias := adapt p.delta (p.handled + 1) (p.handled = basic)
      delta := 0
      handled := p.handled + 1 }
  else p

/-- Write every occurrence of the code point `m`. -/
def Progress.write (label : List Nat) (basic : Nat) (p : Progress) (m : Nat) : Progress :=
  let p := { p with delta := p.delta + (m - p.next) * (p.handled + 1) }
  let p := label.foldl (Progress.visit basic m) p
  { p with delta := p.delta + 1, next := m + 1 }

/-- A label in Punycode: its ASCII characters, then the others as digits. -/
def punycode (label : List Char) : List Char :=
  let basic := label.filter (·.toNat < 128)
  let codes := label.map Char.toNat
  let others := ((codes.filter (128 ≤ ·)).mergeSort (· ≤ ·)).eraseDups
  let start : Progress :=
    { handled := basic.length, out := if basic.isEmpty then [] else basic ++ ['-'] }
  (others.foldl (Progress.write codes basic.length) start).out

/-- A character as names are compared: lower case, with wide forms of ASCII made narrow, and none
for a character that does not count. -/
def fold (c : Char) : Option Char :=
  let n := c.toNat
  if 65 ≤ n ∧ n ≤ 90 then some (Char.ofNat (n + 32))
  else if n < 128 then some c
  else if n = 0xAD ∨ n = 0x200B ∨ n = 0x2060 ∨ n = 0xFEFF then none
  else if n = 0x3002 ∨ n = 0xFF0E ∨ n = 0xFF61 then some '.'
  else if 0xFF21 ≤ n ∧ n ≤ 0xFF3A then some (Char.ofNat (n - 0xFEC0))
  else if 0xFF01 ≤ n ∧ n ≤ 0xFF5E then some (Char.ofNat (n - 0xFEE0))
  else if (0xC0 ≤ n ∧ n ≤ 0xDE ∧ n ≠ 0xD7) ∨ (0x391 ≤ n ∧ n ≤ 0x3A9) ∨ (0x410 ≤ n ∧ n ≤ 0x42F) then
    some (Char.ofNat (n + 32))
  else if 0x400 ≤ n ∧ n ≤ 0x40F then some (Char.ofNat (n + 80))
  else if 0x100 ≤ n ∧ n ≤ 0x137 ∧ n % 2 = 0 ∧ n ≠ 0x130 then some (Char.ofNat (n + 1))
  else some c

/-- The ASCII character may not stand in a name. -/
def isForbidden (c : Char) : Bool :=
  c.toNat ≤ 32 || c.toNat = 127 || "%#/:<>?@[\\]^|".toList.contains c

/-- The ASCII form of one label. -/
def label? (cs : List Char) : Option (List Char) :=
  -- A label that claims to be in Punycode has to hold something.
  if cs.any isForbidden then none
  else if cs.all (·.toNat < 128) then
    match cs with
    | 'x' :: 'n' :: '-' :: '-' :: [] => none
    | cs => some cs
  else some ('x' :: 'n' :: '-' :: '-' :: punycode cs)

/-- The ASCII form of the name that bytes spell. -/
def toAscii? (bytes : List UInt8) : Option (List Char) := do
  let cs ← Utf8.decode? bytes
  let labels ← (splitAt (· == '.') (cs.filterMap fold)).mapM label?
  return List.intercalate ['.'] labels

end ServiceBroker.Domain

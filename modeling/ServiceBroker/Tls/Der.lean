/-!
# DER

Certificates and keys are trees of items, each with a tag, a length and a content.

## Main definitions

* `Der.Item`: one item
* `Der.next?`: the item at the head of some bytes
* `Der.items?`: the items that some bytes consist of

## Main results

* `Der.length_next?`: reading an item consumes at least one byte
-/

namespace ServiceBroker.Der

/-- One item. -/
structure Item where
  tag : UInt8
  content : List UInt8
  deriving DecidableEq, Repr

/-- The tag of a sequence. -/
def sequenceTag : UInt8 := 0x30

/-- The tag of an integer. -/
def integerTag : UInt8 := 0x02

/-- The tag of a truth value. -/
def boolTag : UInt8 := 0x01

/-- The tag of a string of bits. -/
def bitsTag : UInt8 := 0x03

/-- The tag of a string of bytes. -/
def bytesTag : UInt8 := 0x04

/-- The tag of the name of an algorithm or the like. -/
def nameTag : UInt8 := 0x06

/-- The tag of the part with a given number where parts are optional. -/
def partTag (n : UInt8) : UInt8 := 0xA0 + n

/-- The number that bytes spell, the highest first. -/
def ofBytes (bs : List UInt8) : Nat := bs.foldl (fun n b => 256 * n + b.toNat) 0

/-- The length at the head of some bytes, in its shortest form, and the bytes after it. -/
def length? : List UInt8 → Option (Nat × List UInt8)
  | [] => none
  | b :: rest =>
    if b < 0x80 then some (b.toNat, rest)
    else
      let count := b.toNat - 0x80
      let digits := rest.take count
      let n := ofBytes digits
      if 1 ≤ count ∧ count ≤ 4 ∧ digits.length = count ∧ 128 ≤ n ∧
          Nat.pow 256 (count - 1) ≤ n then
        some (n, rest.drop count)
      else none

/-- The item at the head of some bytes, and the bytes after it. -/
def next? : List UInt8 → Option (Item × List UInt8)
  | [] => none
  | tag :: rest =>
    if tag &&& 0x1F = 0x1F then none
    else
      match length? rest with
      | none => none
      | some (n, body) =>
        if n ≤ body.length then some (⟨tag, body.take n⟩, body.drop n) else none

/-- What stands after a length is no longer than what stood before. -/
theorem length_length? {bs rest : List UInt8} {n : Nat} (h : length? bs = some (n, rest)) :
    rest.length ≤ bs.length := by
  unfold length? at h
  split at h
  · simp at h
  · split at h
    · simp only [Option.some.injEq, Prod.mk.injEq] at h
      obtain ⟨-, rfl⟩ := h
      simp
    · simp only at h
      split at h
      · simp only [Option.some.injEq, Prod.mk.injEq] at h
        obtain ⟨-, rfl⟩ := h
        simp only [List.length_drop, List.length_cons]
        omega
      · simp at h

/-- Reading an item consumes at least one byte. -/
theorem length_next? {bs rest : List UInt8} {item : Item} (h : next? bs = some (item, rest)) :
    rest.length < bs.length := by
  unfold next? at h
  split at h
  · simp at h
  · split at h
    · simp at h
    · split at h
      · simp at h
      · rename_i hl
        have := length_length? hl
        split at h
        · simp only [Option.some.injEq, Prod.mk.injEq] at h
          obtain ⟨-, rfl⟩ := h
          simp only [List.length_drop, List.length_cons]
          omega
        · simp at h

/-- The items that some bytes consist of. -/
def items? (bs : List UInt8) : Option (List Item) :=
  match bs with
  | [] => some []
  | b :: bs' =>
    match h : next? (b :: bs') with
    | none => none
    | some (item, rest) =>
      have : rest.length ≤ bs'.length := Nat.le_of_lt_succ (length_next? h)
      (items? rest).map (item :: ·)
termination_by bs.length

/-- The items in a sequence that some bytes consist of. -/
def sequence? (bs : List UInt8) : Option (List Item) :=
  match next? bs with
  | some (item, []) => if item.tag = sequenceTag then items? item.content else none
  | _ => none

/-- The items in an item with a given tag. -/
def Item.inside? (tag : UInt8) (item : Item) : Option (List Item) :=
  if item.tag = tag then items? item.content else none

/-- The content of an item with a given tag. -/
def Item.content? (tag : UInt8) (item : Item) : Option (List UInt8) :=
  if item.tag = tag then some item.content else none

end ServiceBroker.Der

import Mathlib.Tactic.SplitIfs
import ServiceBroker.Proofs.Text.Ascii
import ServiceBroker.Text.Hex

/-!
# Hexadecimal digits and the bytes that they spell

A digit stands for half a byte. Which digits a list of bytes is spelled with is settled up to their
letter case, and so is which bytes a text of digits spells.

## Main definitions

* `Hex.IsDigit`: the code of a hexadecimal digit
* `Hex.halves`: the halves of bytes, for each of which there is one digit

## Main results

* `Hex.isSome_value?_iff`: which bytes count something
* `Hex.map_toLower_eq_map_digit`: a text of digits in lower case
-/

namespace ServiceBroker.Hex

/-- The code of a hexadecimal digit, in either letter case. -/
def IsDigit (code : Nat) : Prop :=
  ('0'.toNat ≤ code ∧ code ≤ '9'.toNat) ∨ ('A'.toNat ≤ code ∧ code ≤ 'F'.toNat) ∨
    ('a'.toNat ≤ code ∧ code ≤ 'f'.toNat)

instance (code : Nat) : Decidable (IsDigit code) := inferInstanceAs (Decidable (_ ∨ _ ∨ _))

theorem isDigit_iff {code : Nat} : IsDigit code ↔ (48 ≤ code ∧ code ≤ 57) ∨
    (65 ≤ code ∧ code ≤ 70) ∨ (97 ≤ code ∧ code ≤ 102) := Iff.rfl

theorem IsDigit.lt {code : Nat} (h : IsDigit code) : code < 128 := by
  rw [isDigit_iff] at h
  omega

/-- The bytes that count something are the digits. -/
theorem isSome_value?_iff {b : UInt8} : (value? b).isSome ↔ IsDigit b.toNat := by
  rw [isDigit_iff]
  unfold value?
  dsimp only
  split_ifs
  · exact iff_of_true rfl (by omega)
  · exact iff_of_true rfl (by omega)
  · exact iff_of_true rfl (by omega)
  · exact iff_of_false nofun (by omega)

/-- The halves of bytes, for each of which there is one digit. -/
def halves (bytes : List UInt8) : List Nat := bytes.flatMap fun b => [b.toNat / 16, b.toNat % 16]

@[simp] theorem halves_nil : halves [] = [] := rfl

@[simp] theorem halves_cons (b : UInt8) (bytes : List UInt8) :
    halves (b :: bytes) = b.toNat / 16 :: b.toNat % 16 :: halves bytes := rfl

@[simp] theorem length_halves (bytes : List UInt8) : (halves bytes).length = 2 * bytes.length := by
  simp [halves, List.length_flatMap, List.map_const', Nat.mul_comm]

theorem lt_of_mem_halves {bytes : List UInt8} {n : Nat} (h : n ∈ halves bytes) : n < 16 := by
  obtain ⟨b, -, hn⟩ := List.mem_flatMap.mp h
  have hb := b.toNat_lt
  simp only [List.mem_cons, List.not_mem_nil, or_false] at hn
  omega

/-- Bytes are told apart by their halves. -/
theorem halves_injective {bytes bytes' : List UInt8} (h : halves bytes = halves bytes') :
    bytes = bytes' := by
  induction bytes generalizing bytes' with
  | nil =>
    cases bytes' with
    | nil => rfl
    | cons b' bytes' => cases h
  | cons b bytes ih =>
    cases bytes' with
    | nil => cases h
    | cons b' bytes' =>
      simp only [halves_cons, List.cons.injEq] at h
      obtain ⟨hhigh, hlow, hrest⟩ := h
      have hb : b.toNat = b'.toNat := by omega
      rw [ih hrest, UInt8.toNat_inj.mp hb]

theorem lower_eq_map_digit (bytes : List UInt8) : lower bytes = (halves bytes).map digit := by
  rw [halves, List.map_flatMap]
  rfl

theorem value?_digit : ∀ n < 16, value? (digit n).toUInt8 = some n := by decide

/-- The digits that bytes are written with are ASCII characters other than the hyphen. -/
theorem toNat_digit_lt : ∀ n < 16, (digit n).toNat < 128 ∧ digit n ≠ '-' := by decide

theorem lt_of_mem_lower {bytes : List UInt8} {c : Char} (h : c ∈ lower bytes) :
    c.toNat < 128 ∧ c ≠ '-' := by
  rw [lower_eq_map_digit] at h
  obtain ⟨n, hn, rfl⟩ := List.mem_map.mp h
  exact toNat_digit_lt n (lt_of_mem_halves hn)

/-- The digits that bytes are written with are read back. -/
theorem map_value?_lower (bytes : List UInt8) :
    (lower bytes).map (fun c => value? c.toUInt8) = (halves bytes).map some := by
  rw [lower_eq_map_digit, List.map_map]
  exact List.map_congr_left fun n hn => value?_digit n (lt_of_mem_halves hn)

/-- Bytes are told apart by their digits. -/
theorem lower_injective {bytes bytes' : List UInt8} (h : lower bytes = lower bytes') :
    bytes = bytes' := by
  have hread := map_value?_lower bytes
  rw [h, map_value?_lower] at hread
  exact halves_injective ((List.map_inj_right fun _ _ => Option.some.inj).mp hread).symm

/-- A digit in lower case is the one that counts the same. -/
theorem toLower_eq_digit {c : Char} {n : Nat} (hc : c.toNat < 128)
    (h : value? c.toUInt8 = some n) : c.toLower = digit n := by
  have hall : ∀ c : Char, c.toNat < 128 → ∀ n ∈ value? c.toUInt8, c.toLower = digit n :=
    Utf8.forall_ascii (by decide)
  exact hall c hc n h

/-- A text of digits in lower case is made of the digits that count the same. -/
theorem map_toLower_eq_map_digit {cs : List Char} {ns : List Nat} (hcs : ∀ c ∈ cs, c.toNat < 128)
    (h : cs.map (fun c => value? c.toUInt8) = ns.map some) : cs.map Char.toLower = ns.map digit := by
  induction cs generalizing ns with
  | nil =>
    obtain rfl : ns = [] := List.map_eq_nil_iff.mp h.symm
    rfl
  | cons c cs ih =>
    cases ns with
    | nil => cases h
    | cons n ns =>
      simp only [List.map_cons, List.cons.injEq] at h ⊢
      exact ⟨toLower_eq_digit (hcs c List.mem_cons_self) h.1,
        ih (fun d hd => hcs d (List.mem_cons_of_mem c hd)) h.2⟩

/-- A character is a digit in either case. -/
theorem isDigit_toLower_iff {c : Char} : IsDigit c.toLower.toNat ↔ IsDigit c.toNat := by
  unfold Char.toLower
  split
  · next hupper =>
    have hlow : 65 ≤ c.val.toNat := UInt32.le_iff_toNat_le.mp hupper.1
    have hhigh : c.val.toNat ≤ 90 := UInt32.le_iff_toNat_le.mp hupper.2
    have hval : (c.val + ('a'.val - 'A'.val)).toNat = c.val.toNat + 32 := by
      rw [UInt32.toNat_add]
      exact Nat.mod_eq_of_lt (show c.val.toNat + 32 < 2 ^ 32 by omega)
    simp only [isDigit_iff, Char.toNat, hval]
    omega
  · rfl

end ServiceBroker.Hex

import ServiceBroker.Proofs.Text.Ascii

/-!
# UTF-8 is read back

The lead byte of a character tells how many bytes follow and in which range the first of them lies.
These ranges are such that a character is only read from the bytes that are written of it, so bytes
are read as a text exactly if they are the bytes of that text.

## Main definitions

* `Utf8.Spells`: the bytes of each character

## Main results

* `Utf8.lead?_eq`: the ranges after each lead byte
* `Utf8.next?_eq_some_iff`: which bytes are read as a character
* `Utf8.decode?_eq_some_iff`: which bytes are read as a text
-/

namespace ServiceBroker.Utf8

variable {bytes rest : List UInt8} {a b c d lo hi : UInt8} {char : Char} {text : List Char}
  {n : Nat}

/-! ### Characters -/

/-- The ranges after each lead byte. -/
theorem lead?_eq (a : UInt8) : lead? a =
    if a.toNat < 0x80 then some (0, 0, 0)
    else if a.toNat < 0xC2 then none
    else if a.toNat < 0xE0 then some (1, 0x80, 0xBF)
    else if a.toNat < 0xF0 then
      some (2, if a.toNat = 0xE0 then 0xA0 else 0x80, if a.toNat = 0xED then 0x9F else 0xBF)
    else if a.toNat < 0xF5 then
      some (3, if a.toNat = 0xF0 then 0x90 else 0x80, if a.toNat = 0xF4 then 0x8F else 0xBF)
    else none := by
  unfold lead?
  simp only [UInt8.lt_iff_toNat_lt, beq_iff_eq, ← UInt8.toNat_inj]
  simp only [UInt8.reduceToNat]
  grind

theorem lead?_eq_zero_iff : lead? a = some (0, lo, hi) ↔ a.toNat < 0x80 ∧ lo = 0 ∧ hi = 0 := by
  rw [lead?_eq]
  grind

theorem lead?_eq_one_iff : lead? a = some (1, lo, hi) ↔
    (0xC2 ≤ a.toNat ∧ a.toNat < 0xE0) ∧ lo = 0x80 ∧ hi = 0xBF := by
  rw [lead?_eq]
  grind

theorem lead?_eq_two_iff : lead? a = some (2, lo, hi) ↔ (0xE0 ≤ a.toNat ∧ a.toNat < 0xF0) ∧
    lo = (if a.toNat = 0xE0 then 0xA0 else 0x80) ∧ hi = if a.toNat = 0xED then 0x9F else 0xBF := by
  rw [lead?_eq]
  grind

theorem lead?_eq_three_iff : lead? a = some (3, lo, hi) ↔ (0xF0 ≤ a.toNat ∧ a.toNat < 0xF5) ∧
    lo = (if a.toNat = 0xF0 then 0x90 else 0x80) ∧ hi = if a.toNat = 0xF4 then 0x8F else 0xBF := by
  rw [lead?_eq]
  grind

/-- The byte continues a character. -/
theorem isContinuation_iff : isContinuation b ↔ 0x80 ≤ b.toNat ∧ b.toNat < 0xC0 := by
  simp [isContinuation, UInt8.le_iff_toNat_le, UInt8.lt_iff_toNat_lt]

/-- The first byte after the lead byte lies in the range that this announces. -/
theorem inRange_iff : (lo ≤ b && b ≤ hi) = true ↔ lo.toNat ≤ b.toNat ∧ b.toNat ≤ hi.toNat := by
  simp [UInt8.le_iff_toNat_le]

/-- A number that is no surrogate and not beyond the last code point is that of a character. -/
theorem toNat_ofNat (h : n < 0xD800 ∨ 0xDFFF < n ∧ n < 0x110000) :
    (Char.ofNat n).val.toNat = n := by
  rw [Char.ofNat, dif_pos h]
  rfl

/-- No character is a surrogate or beyond the last code point. -/
theorem toNat_lt (c : Char) : c.toNat < 0xD800 ∨ 0xDFFF < c.toNat ∧ c.toNat < 0x110000 := c.valid

/-! ### Bytes of a character -/

/-- The bytes spell the character with the given code point, and not in more bytes than it takes. -/
inductive Spells : List UInt8 → Nat → Prop where
  | one {a : UInt8} {n : Nat} : a.toNat < 0x80 → n = a.toNat → Spells [a] n
  | two {a b : UInt8} {n : Nat} : 0xC2 ≤ a.toNat ∧ a.toNat < 0xE0 →
      0x80 ≤ b.toNat ∧ b.toNat < 0xC0 → n = a.toNat % 32 * 64 + b.toNat % 64 → Spells [a, b] n
  | three {a b c : UInt8} {n : Nat} : 0xE0 ≤ a.toNat ∧ a.toNat < 0xF0 →
      0x80 ≤ b.toNat ∧ b.toNat < 0xC0 → 0x80 ≤ c.toNat ∧ c.toNat < 0xC0 →
      (a.toNat = 0xE0 → 0xA0 ≤ b.toNat) → (a.toNat = 0xED → b.toNat < 0xA0) →
      n = (a.toNat % 16 * 64 + b.toNat % 64) * 64 + c.toNat % 64 → Spells [a, b, c] n
  | four {a b c d : UInt8} {n : Nat} : 0xF0 ≤ a.toNat ∧ a.toNat < 0xF5 →
      0x80 ≤ b.toNat ∧ b.toNat < 0xC0 → 0x80 ≤ c.toNat ∧ c.toNat < 0xC0 →
      0x80 ≤ d.toNat ∧ d.toNat < 0xC0 →
      (a.toNat = 0xF0 → 0x90 ≤ b.toNat) → (a.toNat = 0xF4 → b.toNat < 0x90) →
      n = ((a.toNat % 8 * 64 + b.toNat % 64) * 64 + c.toNat % 64) * 64 + d.toNat % 64 →
      Spells [a, b, c, d] n

/-- The bytes that are written of a character spell it. -/
theorem spells_encodeChar (char : Char) : Spells (String.utf8EncodeChar char) char.toNat := by
  have hvalid := toNat_lt char
  unfold String.utf8EncodeChar
  simp only [Char.toNat_val]
  split
  · refine .one ?_ ?_ <;> simp only [UInt8.toNat_ofNat'] <;> omega
  · split
    · refine .two ?_ ?_ ?_ <;> simp only [UInt8.toNat_ofNat'] <;> omega
    · split
      · refine .three ?_ ?_ ?_ ?_ ?_ ?_ <;> simp only [UInt8.toNat_ofNat'] <;> omega
      · refine .four ?_ ?_ ?_ ?_ ?_ ?_ ?_ <;> simp only [UInt8.toNat_ofNat'] <;> omega

/-- Bytes that spell a character are what is written of it. -/
theorem encodeChar_of_spells (h : Spells bytes n) :
    String.utf8EncodeChar (Char.ofNat n) = bytes := by
  unfold String.utf8EncodeChar
  cases h with
  | one ha hn =>
    rw [toNat_ofNat (by omega), if_pos (by omega), hn, UInt8.ofNat_toNat]
  | two ha hb hn =>
    rw [toNat_ofNat (by omega), if_neg (by omega), if_pos (by omega)]
    simp only [List.cons.injEq, ← UInt8.toNat_inj, UInt8.toNat_ofNat', and_true]
    omega
  | three ha hb hc hlow hhigh hn =>
    rw [toNat_ofNat (by omega), if_neg (by omega), if_neg (by omega), if_pos (by omega)]
    simp only [List.cons.injEq, ← UInt8.toNat_inj, UInt8.toNat_ofNat', and_true]
    omega
  | four ha hb hc hd hlow hhigh hn =>
    rw [toNat_ofNat (by omega), if_neg (by omega), if_neg (by omega), if_neg (by omega)]
    simp only [List.cons.injEq, ← UInt8.toNat_inj, UInt8.toNat_ofNat', and_true]
    omega

/-- Bytes that spell a character are read as it. -/
theorem next?_append_of_spells (h : Spells bytes n) :
    next? (bytes ++ rest) = some (Char.ofNat n, rest) := by
  cases h with
  | one ha hn =>
    simp only [List.singleton_append, next?, lead?_eq_zero_iff.mpr ⟨ha, rfl, rfl⟩, hn]
  | two ha hb hn =>
    have hrange := @inRange_iff _ 0x80 0xBF |>.mpr ⟨hb.1, Nat.le_of_lt_succ hb.2⟩
    simp only [List.cons_append, List.nil_append, next?, lead?_eq_one_iff.mpr ⟨ha, rfl, rfl⟩,
      hrange, if_true, payload, hn]
  | @three a b c _ ha hb hc hlow hhigh hn =>
    have hrange := @inRange_iff b (if a.toNat = 0xE0 then 0xA0 else 0x80)
      (if a.toNat = 0xED then 0x9F else 0xBF) |>.mpr (by
        constructor <;> split <;> simp only [UInt8.reduceToNat] <;> omega)
    simp only [List.cons_append, List.nil_append, next?, lead?_eq_two_iff.mpr ⟨ha, rfl, rfl⟩,
      hrange, isContinuation_iff.mpr hc, Bool.and_self, if_true, payload, hn]
  | @four a b c d _ ha hb hc hd hlow hhigh hn =>
    have hrange := @inRange_iff b (if a.toNat = 0xF0 then 0x90 else 0x80)
      (if a.toNat = 0xF4 then 0x8F else 0xBF) |>.mpr (by
        constructor <;> split <;> simp only [UInt8.reduceToNat] <;> omega)
    simp only [List.cons_append, List.nil_append, next?, lead?_eq_three_iff.mpr ⟨ha, rfl, rfl⟩,
      hrange, isContinuation_iff.mpr hc, isContinuation_iff.mpr hd, Bool.and_self, if_true, payload,
      hn]

/-- A character is only read from bytes that spell it. -/
theorem exists_spells_of_next? (h : next? bytes = some (char, rest)) :
    ∃ front n, Spells front n ∧ bytes = front ++ rest ∧ char = Char.ofNat n := by
  unfold next? at h
  split at h
  · cases h
  · next a tail =>
    split at h
    · next hlead =>
      cases h
      exact ⟨[a], _, .one (lead?_eq_zero_iff.mp hlead).1 rfl, rfl, rfl⟩
    · next b rest' hlead =>
      obtain ⟨hrange, h⟩ := Option.ite_none_right_eq_some.mp h
      cases h
      obtain ⟨ha, rfl, rfl⟩ := lead?_eq_one_iff.mp hlead
      obtain ⟨hlow, hhigh⟩ := inRange_iff.mp hrange
      exact ⟨[a, b], _, .two ha ⟨hlow, Nat.lt_succ_of_le hhigh⟩ rfl, rfl, rfl⟩
    · next b c rest' hlead =>
      obtain ⟨hrange, h⟩ := Option.ite_none_right_eq_some.mp h
      cases h
      obtain ⟨ha, rfl, rfl⟩ := lead?_eq_two_iff.mp hlead
      rw [Bool.and_eq_true] at hrange
      obtain ⟨hlow, hhigh⟩ := inRange_iff.mp hrange.1
      refine ⟨[a, b, c], _, .three ha ?_ (isContinuation_iff.mp hrange.2) ?_ ?_ rfl, rfl, rfl⟩
      all_goals split at hlow <;> split at hhigh <;> simp only [UInt8.reduceToNat] at hlow hhigh
      all_goals omega
    · next b c d rest' hlead =>
      obtain ⟨hrange, h⟩ := Option.ite_none_right_eq_some.mp h
      cases h
      obtain ⟨ha, rfl, rfl⟩ := lead?_eq_three_iff.mp hlead
      rw [Bool.and_eq_true, Bool.and_eq_true] at hrange
      obtain ⟨hlow, hhigh⟩ := inRange_iff.mp hrange.1.1
      refine ⟨[a, b, c, d], _, .four ha ?_ (isContinuation_iff.mp hrange.1.2)
        (isContinuation_iff.mp hrange.2) ?_ ?_ rfl, rfl, rfl⟩
      all_goals split at hlow <;> split at hhigh <;> simp only [UInt8.reduceToNat] at hlow hhigh
      all_goals omega
    · cases h

/-- A character is read exactly from the bytes that are written of it. -/
theorem next?_eq_some_iff :
    next? bytes = some (char, rest) ↔ bytes = String.utf8EncodeChar char ++ rest := by
  constructor
  · intro h
    obtain ⟨front, n, hspells, rfl, rfl⟩ := exists_spells_of_next? h
    rw [encodeChar_of_spells hspells]
  · rintro rfl
    rw [next?_append_of_spells (spells_encodeChar char), Char.ofNat_toNat]

/-! ### Texts -/

/-- Bytes are read as a text exactly if they are what is written of it. -/
theorem decode?_eq_some_iff : decode? bytes = some text ↔ bytes = encode text := by
  fun_induction decode? bytes generalizing text with
  | case1 =>
    cases text with
    | nil => exact iff_of_true rfl rfl
    | cons char text =>
      refine iff_of_false nofun fun hnil => encodeChar_ne_nil char ?_
      rw [encode_cons] at hnil
      exact (List.append_eq_nil_iff.mp hnil.symm).1
  | case2 b bytes hnext =>
    refine iff_of_false nofun fun hbytes => ?_
    cases text with
    | nil => cases hbytes
    | cons char text =>
      rw [next?_eq_some_iff.mpr hbytes] at hnext
      cases hnext
  | case3 b bytes char rest hnext _ ih =>
    rw [next?_eq_some_iff.mp hnext, Option.map_eq_some_iff]
    constructor
    · rintro ⟨tail, htail, rfl⟩
      rw [encode_cons, ← ih.mp htail]
    · intro h
      cases text with
      | nil => exact absurd (List.append_eq_nil_iff.mp h).1 (encodeChar_ne_nil char)
      | cons char' text =>
        -- The same bytes cannot be read as two characters.
        rw [encode_cons, ← next?_eq_some_iff, next?_eq_some_iff.mpr rfl] at h
        obtain ⟨rfl, rfl⟩ := Prod.mk.inj (Option.some.inj h)
        exact ⟨text, ih.mpr rfl, rfl⟩

end ServiceBroker.Utf8

import ServiceBroker.Proofs.Text.Ascii
import ServiceBroker.Text.Base64

/-!
# Base64 is read back

Three bytes are four digits, and one or two bytes at the end are two or three digits with padding.
Reading is strict, so a text is only read if it is the one written form of what it is read as.

## Main results

* `Base64.value?_eq_some_iff`: what a digit counts
* `Base64.decode?_encode`: decoding reads back what was encoded
* `Base64.decode?_eq_some_iff`: nothing else is read
-/

namespace ServiceBroker.Base64

variable {n : Nat} {c : Char} {text : List Char} {bytes : List UInt8}

/-! ### Digits -/

theorem value?_digit (h : n < 64) : value? (digit n) = some n :=
  (by decide : ∀ n < 64, value? (digit n) = some n) n h

/-- A character beyond ASCII is no digit. -/
theorem value?_of_le (h : 128 ≤ c.toNat) : value? c = none := by
  have hplus : c ≠ '+' := by
    rintro rfl
    exact absurd h (by decide)
  have hslash : c ≠ '/' := by
    rintro rfl
    exact absurd h (by decide)
  rw [value?, if_neg (by omega), if_neg (by omega), if_neg (by omega), if_neg hplus, if_neg hslash]

/-- What a digit counts is less than sixty-four, and tells the digit. -/
theorem value?_eq_some_iff : value? c = some n ↔ n < 64 ∧ c = digit n := by
  constructor
  · intro h
    have hascii : c.toNat < 128 := by
      refine Nat.lt_of_not_le fun hle => ?_
      rw [value?_of_le hle] at h
      cases h
    have hall : ∀ n ∈ value? c, n < 64 ∧ c = digit n :=
      Utf8.forall_ascii (p := fun c => ∀ n ∈ value? c, n < 64 ∧ c = digit n) (by decide) c hascii
    exact hall n h
  · rintro ⟨hn, rfl⟩
    exact value?_digit hn

/-- No digit is padding. -/
theorem digit_ne_pad (h : n < 64) : digit n ≠ '=' :=
  (by decide : ∀ n < 64, digit n ≠ '=') n h

/-! ### Groups -/

/-- Four digits are the bits of three bytes. -/
theorem encode_three (h : n < 16777216) : encode (UInt8.ofNat (n / 65536) ::
    UInt8.ofNat (n / 256 % 256) :: UInt8.ofNat (n % 256) :: bytes) =
      digit (n / 262144) :: digit (n / 4096 % 64) :: digit (n / 64 % 64) :: digit (n % 64) ::
        encode bytes := by
  have hn : ((UInt8.ofNat (n / 65536)).toNat * 256 + (UInt8.ofNat (n / 256 % 256)).toNat) * 256 +
      (UInt8.ofNat (n % 256)).toNat = n := by
    simp only [UInt8.toNat_ofNat']
    omega
  rw [encode, hn]

/-- Three digits are the bits of two bytes, with two zeros after them. -/
theorem encode_two (h : n < 262144) (hzeros : n % 4 = 0) :
    encode [UInt8.ofNat (n / 1024), UInt8.ofNat (n / 4 % 256)] =
      [digit (n / 4096), digit (n / 64 % 64), digit (n % 64), '='] := by
  have hn : ((UInt8.ofNat (n / 1024)).toNat * 256 + (UInt8.ofNat (n / 4 % 256)).toNat) * 4 = n := by
    simp only [UInt8.toNat_ofNat']
    omega
  rw [encode, hn]

/-- Two digits are the bits of one byte, with four zeros after them. -/
theorem encode_one (h : n < 4096) (hzeros : n % 16 = 0) :
    encode [UInt8.ofNat (n / 16)] = [digit (n / 64), digit (n % 64), '=', '='] := by
  have hn : (UInt8.ofNat (n / 16)).toNat * 16 = n := by
    simp only [UInt8.toNat_ofNat']
    omega
  rw [encode, hn]

/-- Four digits that are no padding are read as three bytes. -/
theorem decode?_four {a b c d : Nat} (ha : a < 64) (hb : b < 64) (hc : c < 64) (hd : d < 64) :
    decode? (digit a :: digit b :: digit c :: digit d :: text) =
      let n := ((a * 64 + b) * 64 + c) * 64 + d
      (decode? text).map fun tail =>
        UInt8.ofNat (n / 65536) :: UInt8.ofNat (n / 256 % 256) :: UInt8.ofNat (n % 256) ::
          tail := by
  have hpad : digit d ≠ '=' := digit_ne_pad hd
  rw [decode?]
  · simp only [value?_digit, ha, hb, hc, hd, Option.bind_eq_bind, Option.bind_some]
    cases decode? text <;> rfl
  · exact fun _ h _ => hpad h
  · exact fun h _ => hpad h

/-- Three digits before padding are read as two bytes, if their last two bits are zeros. -/
theorem decode?_three {a b c : Nat} (ha : a < 64) (hb : b < 64) (hc : c < 64) :
    decode? [digit a, digit b, digit c, '='] =
      let n := (a * 64 + b) * 64 + c
      if n % 4 = 0 then some [UInt8.ofNat (n / 1024), UInt8.ofNat (n / 4 % 256)] else none := by
  have hpad : digit c ≠ '=' := digit_ne_pad hc
  rw [decode?]
  · simp only [value?_digit, ha, hb, hc, Option.bind_eq_bind, Option.bind_some]
  · exact hpad

/-- Two digits before padding are read as one byte, if their last four bits are zeros. -/
theorem decode?_two {a b : Nat} (ha : a < 64) (hb : b < 64) :
    decode? [digit a, digit b, '=', '='] =
      let n := a * 64 + b
      if n % 16 = 0 then some [UInt8.ofNat (n / 16)] else none := by
  rw [decode?]
  simp only [value?_digit, ha, hb, Option.bind_eq_bind, Option.bind_some]

/-! ### Texts -/

/-- Decoding reads back what was encoded. -/
theorem decode?_encode (bytes : List UInt8) : decode? (encode bytes) = some bytes := by
  fun_induction encode bytes with
  | case1 a b c rest n ih =>
    have ha : a.toNat < 256 := a.toNat_lt
    have hb : b.toNat < 256 := b.toNat_lt
    have hc : c.toNat < 256 := c.toNat_lt
    have hn : n < 16777216 := by omega
    have hbits : ((n / 262144 * 64 + n / 4096 % 64) * 64 + n / 64 % 64) * 64 + n % 64 = n := by
      omega
    have hfirst : n / 65536 = a.toNat := by omega
    have hsecond : n / 256 % 256 = b.toNat := by omega
    have hthird : n % 256 = c.toNat := by omega
    rw [decode?_four (by omega) (by omega) (by omega) (by omega), ih, hbits]
    simp only [hfirst, hsecond, hthird, UInt8.ofNat_toNat, Option.map_some]
  | case2 a b n => 
    have ha : a.toNat < 256 := a.toNat_lt
    have hb : b.toNat < 256 := b.toNat_lt
    have hbits : (n / 4096 * 64 + n / 64 % 64) * 64 + n % 64 = n := by omega
    have hfirst : n / 1024 = a.toNat := by omega
    have hsecond : n / 4 % 256 = b.toNat := by omega
    have hzeros : n % 4 = 0 := by omega
    rw [decode?_three (by omega) (by omega) (by omega), hbits]
    simp only [hfirst, hsecond, hzeros, UInt8.ofNat_toNat, if_pos]
  | case3 a n =>
    have ha : a.toNat < 256 := a.toNat_lt
    have hbits : n / 64 * 64 + n % 64 = n := by omega
    have hfirst : n / 16 = a.toNat := by omega
    have hzeros : n % 16 = 0 := by omega
    rw [decode?_two (by omega) (by omega), hbits]
    simp only [hfirst, hzeros, UInt8.ofNat_toNat, if_pos]
  | case4 => rfl

/-- Nothing is read but what is written. -/
theorem eq_encode_of_decode? (h : decode? text = some bytes) : text = encode bytes := by
  fun_induction decode? text generalizing bytes with
  | case1 =>
    cases h
    rfl
  | case2 a b =>
    simp only [Option.bind_eq_bind, Option.bind_eq_some_iff, value?_eq_some_iff,
      Option.ite_none_right_eq_some] at h
    obtain ⟨x, ⟨hx, rfl⟩, y, ⟨hy, rfl⟩, hzeros, h⟩ := h
    obtain rfl := Option.some.inj h
    have hx' : (x * 64 + y) / 64 = x := by omega
    have hy' : (x * 64 + y) % 64 = y := by omega
    rw [encode_one (by omega) hzeros, hx', hy']
  | case3 a b c =>
    simp only [Option.bind_eq_bind, Option.bind_eq_some_iff, value?_eq_some_iff,
      Option.ite_none_right_eq_some] at h
    obtain ⟨x, ⟨hx, rfl⟩, y, ⟨hy, rfl⟩, z, ⟨hz, rfl⟩, hzeros, h⟩ := h
    obtain rfl := Option.some.inj h
    have hx' : ((x * 64 + y) * 64 + z) / 4096 = x := by omega
    have hy' : ((x * 64 + y) * 64 + z) / 64 % 64 = y := by omega
    have hz' : ((x * 64 + y) * 64 + z) % 64 = z := by omega
    rw [encode_two (by omega) hzeros, hx', hy', hz']
  | case4 a b c d rest _ _ ih =>
    simp only [Option.bind_eq_bind, Option.bind_eq_some_iff, value?_eq_some_iff] at h
    obtain ⟨x, ⟨hx, rfl⟩, y, ⟨hy, rfl⟩, z, ⟨hz, rfl⟩, w, ⟨hw, rfl⟩, tail, htail, h⟩ := h
    obtain rfl := Option.some.inj h
    have hx' : (((x * 64 + y) * 64 + z) * 64 + w) / 262144 = x := by omega
    have hy' : (((x * 64 + y) * 64 + z) * 64 + w) / 4096 % 64 = y := by omega
    have hz' : (((x * 64 + y) * 64 + z) * 64 + w) / 64 % 64 = z := by omega
    have hw' : (((x * 64 + y) * 64 + z) * 64 + w) % 64 = w := by omega
    rw [encode_three (by omega), hx', hy', hz', hw', ← ih htail]
  | case5 => cases h

/-- A text is read exactly if it is what is written of its bytes. -/
theorem decode?_eq_some_iff : decode? text = some bytes ↔ text = encode bytes := by
  constructor
  · exact eq_encode_of_decode?
  · rintro rfl
    exact decode?_encode bytes

/-- What holds of digits and of padding holds of all that is written. -/
theorem forall_mem_encode {p : Char → Prop} (hdigit : ∀ n < 64, p (digit n)) (hpad : p '=')
    (bytes : List UInt8) : ∀ c ∈ encode bytes, p c := by
  fun_induction encode bytes with
  | case1 a b c rest n ih =>
    have ha : a.toNat < 256 := a.toNat_lt
    have hb : b.toNat < 256 := b.toNat_lt
    have hc : c.toNat < 256 := c.toNat_lt
    simp only [List.forall_mem_cons]
    exact ⟨hdigit _ (by omega), hdigit _ (by omega), hdigit _ (by omega), hdigit _ (by omega), ih⟩
  | case2 a b n =>
    have ha : a.toNat < 256 := a.toNat_lt
    have hb : b.toNat < 256 := b.toNat_lt
    simp only [List.forall_mem_cons]
    exact ⟨hdigit _ (by omega), hdigit _ (by omega), hdigit _ (by omega), hpad, nofun⟩
  | case3 a n =>
    have ha : a.toNat < 256 := a.toNat_lt
    simp only [List.forall_mem_cons]
    exact ⟨hdigit _ (by omega), hdigit _ (by omega), hpad, hpad, nofun⟩
  | case4 => exact nofun

end ServiceBroker.Base64

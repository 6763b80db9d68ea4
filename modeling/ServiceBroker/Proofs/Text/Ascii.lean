import ServiceBroker.Text.Utf8

/-!
# The bytes of ASCII characters

An ASCII character is one byte, and every byte of another character is beyond ASCII. So a text can
be searched for an ASCII character in its bytes.

## Main results

* `Utf8.encodeChar_of_lt`, `Utf8.encode_of_ascii`: ASCII characters are their own bytes
* `Utf8.le_of_mem_encodeChar`: the bytes of other characters
* `Utf8.ascii_of_forall_mem_encode`: a text whose bytes are all ASCII is in ASCII
* `Utf8.eq_of_encode_eq`: a text in ASCII is told by its bytes
-/

namespace ServiceBroker.Utf8

/-- What holds of the characters with the first codes holds of every ASCII character. -/
theorem forall_ascii {p : Char → Prop} (h : ∀ code < 128, p (Char.ofNat code)) :
    ∀ c : Char, c.toNat < 128 → p c := by
  intro c hc
  have hp := h c.toNat hc
  rwa [Char.ofNat_toNat] at hp

@[simp] theorem encode_nil : encode [] = [] := rfl

@[simp] theorem encode_cons (c : Char) (cs : List Char) :
    encode (c :: cs) = String.utf8EncodeChar c ++ encode cs := rfl

@[simp] theorem encode_append (cs ds : List Char) : encode (cs ++ ds) = encode cs ++ encode ds :=
  List.flatMap_append

/-- Every character is at least one byte. -/
theorem encodeChar_ne_nil (c : Char) : String.utf8EncodeChar c ≠ [] := by
  rw [← List.length_pos_iff, String.length_utf8EncodeChar]
  exact Char.utf8Size_pos c

/-- The byte of an ASCII character counts what the character counts. -/
theorem toNat_toUInt8 {c : Char} (h : c.toNat < 128) : c.toUInt8.toNat = c.toNat := by
  rw [Char.toUInt8, UInt32.toNat_toUInt8]
  exact Nat.mod_eq_of_lt (Nat.lt_trans h (by decide))

/-- An ASCII character is one byte. -/
theorem encodeChar_of_lt {c : Char} (h : c.toNat < 128) :
    String.utf8EncodeChar c = [c.toUInt8] := by
  have hc : c.val.toNat ≤ 127 := Nat.le_of_lt_succ h
  rw [String.utf8EncodeChar, if_pos hc]
  refine congrArg (fun b => [b]) (UInt8.toNat_inj.mp ?_)
  rw [toNat_toUInt8 h, UInt8.toNat_ofNat']
  exact Nat.mod_eq_of_lt (Nat.lt_trans h (by decide))

/-- Every byte of a character beyond ASCII is beyond ASCII. -/
theorem le_of_mem_encodeChar {c : Char} (h : 128 ≤ c.toNat) {b : UInt8}
    (hb : b ∈ String.utf8EncodeChar c) : 128 ≤ b.toNat := by
  have hc : ¬ c.val.toNat ≤ 127 := Nat.not_le.mpr h
  rw [String.utf8EncodeChar, if_neg hc] at hb
  split at hb
  · simp only [List.mem_cons, List.not_mem_nil, or_false] at hb
    rcases hb with rfl | rfl <;> simp <;> omega
  · split at hb
    all_goals
      simp only [List.mem_cons, List.not_mem_nil, or_false] at hb
      rcases hb with rfl | rfl | rfl | rfl <;> simp <;> omega

/-- A text in ASCII is its own bytes. -/
theorem encode_of_ascii {cs : List Char} (h : ∀ c ∈ cs, c.toNat < 128) :
    encode cs = cs.map Char.toUInt8 := by
  induction cs with
  | nil => rfl
  | cons c cs ih =>
    rw [encode_cons, encodeChar_of_lt (h c List.mem_cons_self),
      ih fun d hd => h d (List.mem_cons_of_mem c hd)]
    rfl

/-- A text whose bytes are all ASCII is in ASCII itself. -/
theorem ascii_of_forall_mem_encode {cs : List Char} (h : ∀ b ∈ encode cs, b.toNat < 128) :
    ∀ c ∈ cs, c.toNat < 128 := by
  induction cs with
  | nil => simp
  | cons c cs ih =>
    rw [encode_cons] at h
    intro d hd
    rcases List.mem_cons.mp hd with rfl | hd
    · refine Nat.lt_of_not_le fun hge => ?_
      obtain ⟨b, hb⟩ := List.exists_mem_of_ne_nil _ (encodeChar_ne_nil d)
      have hbyte := le_of_mem_encodeChar hge hb
      have hascii := h b (List.mem_append_left _ hb)
      omega
    · exact ih (fun b hb => h b (List.mem_append_right _ hb)) d hd

/-- A text in ASCII is told by its bytes. -/
theorem eq_of_encode_eq {cs ds : List Char} (hds : ∀ d ∈ ds, d.toNat < 128)
    (h : encode cs = encode ds) : cs = ds := by
  have hcs : ∀ c ∈ cs, c.toNat < 128 := by
    refine ascii_of_forall_mem_encode fun b hb => ?_
    rw [h, encode_of_ascii hds] at hb
    obtain ⟨d, hd, rfl⟩ := List.mem_map.mp hb
    rw [toNat_toUInt8 (hds d hd)]
    exact hds d hd
  have hread {es : List Char} (hes : ∀ e ∈ es, e.toNat < 128) :
      (encode es).map (fun b => Char.ofNat b.toNat) = es := by
    rw [encode_of_ascii hes, List.map_map]
    refine (List.map_congr_left fun e he => ?_).trans (List.map_id es)
    rw [Function.comp_apply, toNat_toUInt8 (hes e he), Char.ofNat_toNat, id_eq]
  rw [← hread hcs, ← hread hds, h]

end ServiceBroker.Utf8

import ServiceBroker.Proofs.Text.Ascii
import ServiceBroker.Proofs.Text.Split
import ServiceBroker.Text.Percent

/-!
# Percent encoding is read back, except for percent signs

Encoding leaves the percent sign itself as it is. A text that holds none is read back as it was; in
any other text a percent sign may come to introduce two digits that were never encoded.

## Main definitions

* `Percent.HasEscape`: a percent sign with two hexadecimal digits after it stands in the bytes
* `Percent.decodeStrict?`: decoding for which every percent sign has to introduce two digits

## Main results

* `Percent.decode_encode`: decoding cannot tell an encoded text from the text itself
* `Percent.decodeBytes_eq_self_iff`: bytes decode to themselves exactly if nothing is escaped in them
* `Percent.decode_append_slash`: what slashes keep apart is decoded part by part
* `Percent.decodeStrict?_encode_eq_iff`: strict decoding reads back exactly texts without percent
  signs
-/

namespace ServiceBroker.Percent

/-- The byte is a hexadecimal digit. -/
def IsHexDigit (b : UInt8) : Prop := (Hex.value? b).isSome

instance (b : UInt8) : Decidable (IsHexDigit b) := inferInstanceAs (Decidable (_ = true))

/-- The bytes start with two hexadecimal digits. -/
def StartsWithPair (bs : List UInt8) : Prop :=
  ∃ a b rest, bs = a :: b :: rest ∧ IsHexDigit a ∧ IsHexDigit b

/-- A percent sign with two hexadecimal digits after it stands in the bytes. -/
def HasEscape (bs : List UInt8) : Prop :=
  ∃ before a b after, bs = before ++ 0x25 :: a :: b :: after ∧ IsHexDigit a ∧ IsHexDigit b

/-- A percent sign is no digit. -/
theorem not_isHexDigit_percent : ¬ IsHexDigit 0x25 := by decide

theorem lt_of_isHexDigit {b : UInt8} (h : IsHexDigit b) : b.toNat < 128 := by
  unfold IsHexDigit Hex.value? at h
  grind

/-- An escape stands at the head or after it. -/
theorem hasEscape_cons_iff {c : UInt8} {bs : List UInt8} :
    HasEscape (c :: bs) ↔ (c = 0x25 ∧ StartsWithPair bs) ∨ HasEscape bs := by
  constructor
  · rintro ⟨before, a, b, after, hbs, ha, hb⟩
    cases before with
    | nil =>
      obtain ⟨rfl, rfl⟩ := List.cons.inj hbs
      exact .inl ⟨rfl, a, b, after, rfl, ha, hb⟩
    | cons _ before =>
      obtain ⟨rfl, rfl⟩ := List.cons.inj hbs
      exact .inr ⟨before, a, b, after, rfl, ha, hb⟩
  · rintro (⟨rfl, a, b, after, rfl, ha, hb⟩ | ⟨before, a, b, after, rfl, ha, hb⟩)
    · exact ⟨[], a, b, after, rfl, ha, hb⟩
    · exact ⟨c :: before, a, b, after, rfl, ha, hb⟩

theorem not_hasEscape_nil : ¬ HasEscape [] := by
  rintro ⟨before, a, b, after, h, -⟩
  simp at h

/-- What stands in a text stands in every text around it. -/
theorem HasEscape.of_isInfix {cs ds : List Char} (h : cs <:+: ds)
    (hescape : HasEscape (Utf8.encode cs)) : HasEscape (Utf8.encode ds) := by
  obtain ⟨front, back, rfl⟩ := h
  obtain ⟨before, a, b, after, hbs, ha, hb⟩ := hescape
  refine ⟨Utf8.encode front ++ before, a, b, after ++ Utf8.encode back, ?_, ha, hb⟩
  rw [Utf8.encode_append, Utf8.encode_append, hbs]
  simp only [List.append_assoc, List.cons_append]

/-! ### Decoding byte by byte -/

theorem decodeBytes_pair {a b : UInt8} {x y : Nat} (rest : List UInt8)
    (ha : Hex.value? a = some x) (hb : Hex.value? b = some y) :
    decodeBytes (0x25 :: a :: b :: rest) = UInt8.ofNat (16 * x + y) :: decodeBytes rest := by
  simp only [decodeBytes, ha, hb]

/-- A percent sign that introduces nothing stands for itself. -/
theorem decodeBytes_percent {bs : List UInt8} (h : ¬ StartsWithPair bs) :
    decodeBytes (0x25 :: bs) = 0x25 :: decodeBytes bs := by
  match bs with
  | [] | [_] => rfl
  | a :: b :: rest =>
    simp only [decodeBytes]
    split
    · next x y ha hb =>
      exact absurd ⟨a, b, rest, rfl, by simp [IsHexDigit, ha], by simp [IsHexDigit, hb]⟩ h
    · rfl

theorem decodeBytes_cons {c : UInt8} (h : c ≠ 0x25) (bs : List UInt8) :
    decodeBytes (c :: bs) = c :: decodeBytes bs := by
  rw [decodeBytes]
  rintro _ _ _ rfl
  exact absurd rfl h

/-- Bytes without percent signs stand for themselves. -/
theorem decodeBytes_append {bs : List UInt8} (h : 0x25 ∉ bs) (rest : List UInt8) :
    decodeBytes (bs ++ rest) = bs ++ decodeBytes rest := by
  induction bs with
  | nil => rfl
  | cons c bs ih =>
    obtain ⟨hc, hbs⟩ := not_or.mp (mt List.mem_cons.mpr h)
    rw [List.cons_append, decodeBytes_cons (Ne.symm hc), ih hbs, List.cons_append]

/-- A byte at the head that starts no escape stands for itself. -/
theorem decodeBytes_cons_of_not_escape {c : UInt8} {bs : List UInt8}
    (h : ¬ (c = 0x25 ∧ StartsWithPair bs)) : decodeBytes (c :: bs) = c :: decodeBytes bs := by
  by_cases hc : c = 0x25
  · subst hc
    exact decodeBytes_percent fun hpair => h ⟨rfl, hpair⟩
  · exact decodeBytes_cons hc bs

theorem length_decodeBytes_le (bs : List UInt8) : (decodeBytes bs).length ≤ bs.length := by
  fun_induction decodeBytes bs with
  | case1 => simp
  | case2 a b rest x y ha hb ih =>
    simp only [List.length_cons]
    omega
  | case3 a b rest hpair ih => simpa using ih
  | case4 c rest hpercent ih => simpa using ih

/-- Bytes decode to themselves exactly if nothing is escaped in them. -/
theorem decodeBytes_eq_self_iff (bs : List UInt8) : decodeBytes bs = bs ↔ ¬ HasEscape bs := by
  induction bs with
  | nil => exact iff_of_true rfl not_hasEscape_nil
  | cons c bs ih =>
    rw [hasEscape_cons_iff]
    by_cases hescape : c = 0x25 ∧ StartsWithPair bs
    · obtain ⟨rfl, a, b, rest, rfl, ha, hb⟩ := hescape
      refine iff_of_false (fun h => ?_) (not_not_intro (.inl ⟨rfl, a, b, rest, rfl, ha, hb⟩))
      -- What is decoded is two bytes short of what it was.
      obtain ⟨x, hx⟩ := Option.isSome_iff_exists.mp ha
      obtain ⟨y, hy⟩ := Option.isSome_iff_exists.mp hb
      have hlength := congrArg List.length h
      have hle := length_decodeBytes_le rest
      rw [decodeBytes_pair rest hx hy] at hlength
      simp only [List.length_cons] at hlength
      omega
    · rw [decodeBytes_cons_of_not_escape hescape, List.cons.injEq, ih]
      simp [hescape]

/-! ### Decoding a text part by part -/

/-- Whether two digits come first does not depend on what stands from another character on. -/
theorem startsWithPair_append_cons_iff {c : UInt8} (hc : ¬ IsHexDigit c) (bs rest : List UInt8) :
    StartsWithPair (bs ++ c :: rest) ↔ StartsWithPair bs := by
  constructor
  · rintro ⟨a, b, after, h, ha, hb⟩
    match bs with
    | [] =>
      obtain ⟨rfl, -⟩ := List.cons.inj h
      exact absurd ha hc
    | [_] =>
      obtain ⟨-, h⟩ := List.cons.inj h
      obtain ⟨rfl, -⟩ := List.cons.inj h
      exact absurd hb hc
    | d :: e :: bs =>
      simp only [List.cons_append, List.cons.injEq] at h
      obtain ⟨rfl, rfl, -⟩ := h
      exact ⟨d, e, bs, rfl, ha, hb⟩
  · rintro ⟨a, b, after, rfl, ha, hb⟩
    exact ⟨a, b, after ++ c :: rest, rfl, ha, hb⟩

/-- Bytes can be decoded in two parts if the second one starts with no digit. -/
theorem decodeBytes_append_cons {c : UInt8} (hc : ¬ IsHexDigit c) (bs rest : List UInt8) :
    decodeBytes (bs ++ c :: rest) = decodeBytes bs ++ decodeBytes (c :: rest) := by
  induction hn : bs.length using Nat.strongRecOn generalizing bs with
  | ind n ih =>
    cases bs with
    | nil => rfl
    | cons d bs =>
      rw [List.length_cons] at hn
      by_cases hescape : d = 0x25 ∧ StartsWithPair bs
      · obtain ⟨rfl, a, b, after, rfl, ha, hb⟩ := hescape
        obtain ⟨x, hx⟩ := Option.isSome_iff_exists.mp ha
        obtain ⟨y, hy⟩ := Option.isSome_iff_exists.mp hb
        rw [List.length_cons, List.length_cons] at hn
        simp only [List.cons_append, decodeBytes_pair _ hx hy]
        rw [ih after.length (by omega) after rfl]
      · have hescape' : ¬ (d = 0x25 ∧ StartsWithPair (bs ++ c :: rest)) := by
          rwa [startsWithPair_append_cons_iff hc]
        rw [List.cons_append, decodeBytes_cons_of_not_escape hescape,
          decodeBytes_cons_of_not_escape hescape', ih bs.length (by omega) bs rfl,
          List.cons_append]

/-- A slash stands for itself and keeps what is before it apart from what is after it. -/
theorem decode_append_slash (cs ds : List Char) :
    decode (cs ++ '/' :: ds) = decode cs ++ 0x2F :: decode ds := by
  unfold decode
  rw [Utf8.encode_append, Utf8.encode_cons]
  exact (decodeBytes_append_cons (by decide) _ _).trans
    (congrArg _ (decodeBytes_cons (by decide) _))

/-! ### Reading an encoded text -/

variable {reserved : Char → Bool}

@[simp] theorem encode_nil : encode reserved [] = [] := rfl

theorem encode_cons_of_reserved {c : Char} (h : reserved c) (cs : List Char) :
    encode reserved (c :: cs) =
      (String.utf8EncodeChar c).flatMap encodeByte ++ encode reserved cs := by
  rw [encode, List.flatMap_cons, if_pos h]
  rfl

theorem encode_cons_of_not_reserved {c : Char} (h : ¬ reserved c) (cs : List Char) :
    encode reserved (c :: cs) = c :: encode reserved cs := by
  rw [encode, List.flatMap_cons, if_neg h]
  rfl

@[simp] theorem encode_append (cs ds : List Char) :
    encode reserved (cs ++ ds) = encode reserved cs ++ encode reserved ds := List.flatMap_append

theorem encode_eq_nil_iff {cs : List Char} : encode reserved cs = [] ↔ cs = [] := by
  constructor
  · intro h
    cases cs with
    | nil => rfl
    | cons c cs =>
      by_cases hc : reserved c
      · obtain ⟨b, bs, hbytes⟩ := List.exists_cons_of_ne_nil (Utf8.encodeChar_ne_nil c)
        rw [encode_cons_of_reserved hc, hbytes] at h
        cases h
      · rw [encode_cons_of_not_reserved hc] at h
        cases h
  · rintro rfl
    rfl

/-- What lacks nothing when it is encoded lacks nothing. -/
theorem eq_of_sublist_of_encode_eq {cs ds : List Char} (h : cs.Sublist ds)
    (hencode : encode reserved ds = encode reserved cs) : cs = ds := by
  refine eq_of_sublist_of_length_flatMap_le (fun c hc => ?_) h
    (Nat.le_of_eq (congrArg List.length hencode))
  have hsingle : encode reserved [c] = [] := by rw [encode, List.flatMap_singleton, hc]
  cases encode_eq_nil_iff.mp hsingle

/-- A character of an encoded text is one of the text, or belongs to an encoded byte. -/
theorem mem_encode {c : Char} {cs : List Char} (h : c ∈ encode reserved cs) :
    (c ∈ cs ∧ ¬ reserved c) ∨ c = '%' ∨ ∃ n < 16, c = Hex.upperDigit n := by
  obtain ⟨d, hd, hc⟩ := List.mem_flatMap.mp h
  split at hc
  · obtain ⟨b, -, hc⟩ := List.mem_flatMap.mp hc
    have hb := b.toNat_lt
    simp only [encodeByte, List.mem_cons, List.not_mem_nil, or_false] at hc
    rcases hc with rfl | rfl | rfl
    · exact .inr (.inl rfl)
    · exact .inr (.inr ⟨b.toNat / 16, by omega, rfl⟩)
    · exact .inr (.inr ⟨b.toNat % 16, by omega, rfl⟩)
  · next hreserved =>
    obtain rfl := List.mem_singleton.mp hc
    exact .inl ⟨hd, hreserved⟩

/-- What is encoded does not stand in an encoded text, unless bytes are encoded with it. -/
theorem not_mem_encode {c : Char} (hc : reserved c) (hpercent : ¬ reserved '%')
    (hdigits : ∀ n < 16, ¬ reserved (Hex.upperDigit n)) (cs : List Char) :
    c ∉ encode reserved cs := by
  intro hmem
  rcases mem_encode hmem with ⟨-, hplain⟩ | rfl | ⟨n, hn, rfl⟩
  · exact hplain hc
  · exact hpercent hc
  · exact hdigits n hn hc

/-- The digits that are written are ASCII characters and read back as what they count. -/
theorem value?_upperDigit :
    ∀ n < 16, (Hex.upperDigit n).toNat < 128 ∧
      Hex.value? (Hex.upperDigit n).toUInt8 = some n := by
  decide

/-- An encoded byte is three bytes. -/
theorem utf8_encodeByte (b : UInt8) : Utf8.encode (encodeByte b) =
    [0x25, (Hex.upperDigit (b.toNat / 16)).toUInt8, (Hex.upperDigit (b.toNat % 16)).toUInt8] := by
  have hb := b.toNat_lt
  refine Utf8.encode_of_ascii fun c hc => ?_
  simp only [encodeByte, List.mem_cons, List.not_mem_nil, or_false] at hc
  rcases hc with rfl | rfl | rfl
  · decide
  · exact (value?_upperDigit _ (by omega)).1
  · exact (value?_upperDigit _ (by omega)).1

/-- An encoded byte is read back. -/
theorem decodeBytes_encodeByte (b : UInt8) (rest : List UInt8) :
    decodeBytes (Utf8.encode (encodeByte b) ++ rest) = b :: decodeBytes rest := by
  have hb := b.toNat_lt
  rw [utf8_encodeByte]
  refine (decodeBytes_pair rest (value?_upperDigit _ (by omega)).2
    (value?_upperDigit _ (by omega)).2).trans ?_
  rw [Nat.div_add_mod, UInt8.ofNat_toNat]

/-- Encoded bytes are read back. -/
theorem decodeBytes_encodeBytes (bs rest : List UInt8) :
    decodeBytes (Utf8.encode (bs.flatMap encodeByte) ++ rest) = bs ++ decodeBytes rest := by
  induction bs with
  | nil => rfl
  | cons b bs ih =>
    rw [List.flatMap_cons, Utf8.encode_append, List.append_assoc, decodeBytes_encodeByte, ih,
      List.cons_append]

/-- No byte of another character is that of the percent sign. -/
theorem percent_not_mem_encodeChar {c : Char} (h : c ≠ '%') :
    0x25 ∉ String.utf8EncodeChar c := by
  intro hmem
  by_cases hc : c.toNat < 128
  · rw [Utf8.encodeChar_of_lt hc, List.mem_singleton] at hmem
    have hnat := congrArg UInt8.toNat hmem
    rw [Utf8.toNat_toUInt8 hc] at hnat
    exact h (Char.toNat_inj.mp hnat.symm)
  · have hle := Utf8.le_of_mem_encodeChar (Nat.not_lt.mp hc) hmem
    exact absurd hle (by decide)

/-- The character is a hexadecimal digit. -/
def IsHexChar (c : Char) : Prop := c.toNat < 128 ∧ IsHexDigit c.toUInt8

instance (c : Char) : Decidable (IsHexChar c) := inferInstanceAs (Decidable (_ ∧ _))

/-- An encoded text starts with a digit only if the text does. -/
theorem isHexChar_of_encode_eq_cons {c : Char} {cs : List Char} {a : UInt8} {rest : List UInt8}
    (h : Utf8.encode (encode reserved (c :: cs)) = a :: rest) (ha : IsHexDigit a) :
    IsHexChar c ∧ a = c.toUInt8 ∧ rest = Utf8.encode (encode reserved cs) := by
  obtain ⟨b, bs, hbytes⟩ := List.exists_cons_of_ne_nil (Utf8.encodeChar_ne_nil c)
  by_cases hc : reserved c
  · -- Then it starts with a percent sign.
    rw [encode_cons_of_reserved hc, hbytes, List.flatMap_cons, Utf8.encode_append,
      Utf8.encode_append, utf8_encodeByte] at h
    obtain ⟨rfl, -⟩ := List.cons.inj h
    exact absurd ha not_isHexDigit_percent
  · rw [encode_cons_of_not_reserved hc, Utf8.encode_cons] at h
    by_cases hlt : c.toNat < 128
    · rw [Utf8.encodeChar_of_lt hlt] at h
      obtain ⟨rfl, rfl⟩ := List.cons.inj h
      exact ⟨⟨hlt, ha⟩, rfl, rfl⟩
    · rw [hbytes] at h
      obtain ⟨rfl, -⟩ := List.cons.inj h
      have hle := Utf8.le_of_mem_encodeChar (Nat.not_lt.mp hlt) (hbytes ▸ List.mem_cons_self)
      exact absurd (lt_of_isHexDigit ha) (Nat.not_lt.mpr hle)

/-- An encoded text starts with two digits exactly if the text does. -/
theorem startsWithPair_encode_iff (hr : ∀ c, IsHexChar c → ¬ reserved c) (cs : List Char) :
    StartsWithPair (Utf8.encode (encode reserved cs)) ↔
      ∃ x y rest, cs = x :: y :: rest ∧ IsHexChar x ∧ IsHexChar y := by
  constructor
  · rintro ⟨a, b, rest, h, ha, hb⟩
    match cs with
    | [] => cases h
    | [x] =>
      obtain ⟨-, -, hrest⟩ := isHexChar_of_encode_eq_cons h ha
      cases hrest
    | x :: y :: cs =>
      obtain ⟨hx, -, hrest⟩ := isHexChar_of_encode_eq_cons h ha
      obtain ⟨hy, -, -⟩ := isHexChar_of_encode_eq_cons hrest.symm hb
      exact ⟨x, y, cs, rfl, hx, hy⟩
  · rintro ⟨x, y, rest, rfl, hx, hy⟩
    rw [encode_cons_of_not_reserved (hr x hx), encode_cons_of_not_reserved (hr y hy),
      Utf8.encode_cons, Utf8.encode_cons, Utf8.encodeChar_of_lt hx.1, Utf8.encodeChar_of_lt hy.1]
    exact ⟨_, _, _, rfl, hx.2, hy.2⟩

theorem encode_eq_self {cs : List Char} (h : ∀ c ∈ cs, ¬ reserved c) : encode reserved cs = cs := by
  induction cs with
  | nil => rfl
  | cons c cs ih =>
    rw [encode_cons_of_not_reserved (h c List.mem_cons_self),
      ih fun d hd => h d (List.mem_cons_of_mem c hd)]

/-- Encoding is transparent to decoding: an encoded text decodes to what the text itself decodes
to. -/
theorem decode_encode (hpercent : ¬ reserved '%') (hr : ∀ c, IsHexChar c → ¬ reserved c)
    (cs : List Char) : decode (encode reserved cs) = decode cs := by
  unfold decode
  -- An escape in the text is three characters that are read at once, so the induction is on the
  -- length.
  induction hn : cs.length using Nat.strongRecOn generalizing cs with
  | ind n ih =>
    cases cs with
    | nil => rfl
    | cons c cs =>
      have ih (ds : List Char) (hds : ds.length < (c :: cs).length) :
          decodeBytes (Utf8.encode (encode reserved ds)) = decodeBytes (Utf8.encode ds) :=
        ih ds.length (hn ▸ hds) ds rfl
      by_cases hc : c = '%'
      · subst hc
        rw [encode_cons_of_not_reserved hpercent, Utf8.encode_cons, Utf8.encode_cons]
        change decodeBytes (0x25 :: Utf8.encode (encode reserved cs)) =
          decodeBytes (0x25 :: Utf8.encode cs)
        by_cases hpair : ∃ x y rest, cs = x :: y :: rest ∧ IsHexChar x ∧ IsHexChar y
        · obtain ⟨x, y, rest, rfl, hx, hy⟩ := hpair
          obtain ⟨m, hm⟩ := Option.isSome_iff_exists.mp hx.2
          obtain ⟨n, hn⟩ := Option.isSome_iff_exists.mp hy.2
          rw [encode_cons_of_not_reserved (hr x hx), encode_cons_of_not_reserved (hr y hy)]
          simp only [Utf8.encode_cons, Utf8.encodeChar_of_lt hx.1, Utf8.encodeChar_of_lt hy.1,
            List.cons_append, List.nil_append, decodeBytes_pair _ hm hn]
          rw [ih rest (by simp only [List.length_cons]; omega)]
        · -- The percent sign introduces nothing on either side and stands for itself.
          have hencoded := mt (startsWithPair_encode_iff hr cs).mp hpair
          have hplain : ¬ StartsWithPair (Utf8.encode cs) := by
            -- The text itself is what encoding gives if nothing is reserved.
            have h := @startsWithPair_encode_iff (fun _ => false) (by simp) cs
            rw [encode_eq_self (by simp)] at h
            exact mt h.mp hpair
          rw [decodeBytes_percent hencoded, decodeBytes_percent hplain, ih cs (by simp)]
      · rw [Utf8.encode_cons, decodeBytes_append (percent_not_mem_encodeChar hc)]
        by_cases hreserved : reserved c
        · rw [encode_cons_of_reserved hreserved, Utf8.encode_append, decodeBytes_encodeBytes,
            ih cs (by simp)]
        · rw [encode_cons_of_not_reserved hreserved, Utf8.encode_cons,
            decodeBytes_append (percent_not_mem_encodeChar hc), ih cs (by simp)]

/-! ### Strict decoding -/

/-- The bytes with every `%XX` replaced by the byte that it stands for; nothing if a percent sign
stands there that two digits do not follow. -/
def decodeStrict? : List UInt8 → Option (List UInt8)
  | [] => some []
  | 0x25 :: a :: b :: rest =>
    match Hex.value? a, Hex.value? b with
    | some x, some y => (decodeStrict? rest).map (UInt8.ofNat (16 * x + y) :: ·)
    | _, _ => none
  | c :: rest => if c = 0x25 then none else (decodeStrict? rest).map (c :: ·)

/-- Strict decoding agrees with decoding wherever it gives anything. -/
theorem decodeBytes_of_decodeStrict? {bs ds : List UInt8} (h : decodeStrict? bs = some ds) :
    decodeBytes bs = ds := by
  fun_induction decodeStrict? bs generalizing ds with
  | case1 => exact Option.some.inj h
  | case2 a b rest x y hy hx ih =>
    obtain ⟨rest', hrest, rfl⟩ := Option.map_eq_some_iff.mp h
    rw [decodeBytes_pair rest hx hy, ih hrest]
  | case3 => cases h
  | case4 => cases h
  | case5 c rest hpercent hc ih =>
    obtain ⟨rest', hrest, rfl⟩ := Option.map_eq_some_iff.mp h
    rw [decodeBytes_cons hc, ih hrest]

/-- Strict decoding gives nothing unless every percent sign introduces two digits. -/
theorem startsWithPair_of_decodeStrict? {before after ds : List UInt8}
    (h : decodeStrict? (before ++ 0x25 :: after) = some ds) : StartsWithPair after := by
  generalize hbs : before ++ 0x25 :: after = bs at h
  fun_induction decodeStrict? bs generalizing before ds with
  | case1 => simp at hbs
  | case2 a b rest x y hy hx ih =>
    match before with
    | [] =>
      obtain ⟨-, rfl⟩ := List.cons.inj hbs
      exact ⟨a, b, rest, rfl, by simp [IsHexDigit, hx], by simp [IsHexDigit, hy]⟩
    | [_] =>
      simp only [List.cons_append, List.nil_append, List.cons.injEq] at hbs
      obtain ⟨-, rfl, -⟩ := hbs
      cases hx
    | [_, _] =>
      simp only [List.cons_append, List.nil_append, List.cons.injEq] at hbs
      obtain ⟨-, -, rfl, -⟩ := hbs
      cases hy
    | _ :: _ :: _ :: before =>
      simp only [List.cons_append, List.cons.injEq] at hbs
      obtain ⟨rest', hrest, -⟩ := Option.map_eq_some_iff.mp h
      exact ih hbs.2.2.2 hrest
  | case3 => cases h
  | case4 => cases h
  | case5 c rest hpercent hc ih =>
    cases before with
    | nil => exact absurd (List.cons.inj hbs).1.symm hc
    | cons _ before =>
      obtain ⟨rest', hrest, -⟩ := Option.map_eq_some_iff.mp h
      exact ih (List.cons.inj hbs).2 hrest

theorem decodeStrict?_append {bs : List UInt8} (h : 0x25 ∉ bs) (rest : List UInt8) :
    decodeStrict? (bs ++ rest) = (decodeStrict? rest).map (bs ++ ·) := by
  induction bs with
  | nil => simp
  | cons c bs ih =>
    obtain ⟨hc, hbs⟩ := not_or.mp (mt List.mem_cons.mpr h)
    rw [List.cons_append, decodeStrict?, if_neg (Ne.symm hc), ih hbs, Option.map_map]
    · rfl
    · rintro _ _ _ rfl
      exact absurd rfl hc

theorem decodeStrict?_encodeBytes (bs rest : List UInt8) :
    decodeStrict? (Utf8.encode (bs.flatMap encodeByte) ++ rest) =
      (decodeStrict? rest).map (bs ++ ·) := by
  induction bs with
  | nil => simp
  | cons b bs ih =>
    have hb := b.toNat_lt
    rw [List.flatMap_cons, Utf8.encode_append, List.append_assoc, utf8_encodeByte]
    simp only [List.cons_append, List.nil_append, decodeStrict?,
      (value?_upperDigit (b.toNat / 16) (by omega)).2,
      (value?_upperDigit (b.toNat % 16) (by omega)).2]
    rw [Nat.div_add_mod, UInt8.ofNat_toNat, ih, Option.map_map]
    rfl

/-- Strict decoding reads an encoded text back exactly if the text holds no percent sign. -/
theorem decodeStrict?_encode_eq_iff (hpercent : ¬ reserved '%')
    (hr : ∀ c, IsHexChar c → ¬ reserved c) (cs : List Char) :
    decodeStrict? (Utf8.encode (encode reserved cs)) = some (Utf8.encode cs) ↔ '%' ∉ cs := by
  constructor
  · intro h hmem
    obtain ⟨before, after, rfl⟩ := List.append_of_mem hmem
    -- What follows that percent sign are two digits, and those would not have been read back.
    have hpair : StartsWithPair (Utf8.encode (encode reserved after)) := by
      rw [encode_append, encode_cons_of_not_reserved hpercent, Utf8.encode_append] at h
      exact startsWithPair_of_decodeStrict? h
    obtain ⟨x, y, rest, rfl, hx, hy⟩ := (startsWithPair_encode_iff hr after).mp hpair
    have hself : ¬ HasEscape (Utf8.encode (before ++ '%' :: x :: y :: rest)) := by
      rw [← decodeBytes_eq_self_iff]
      exact (decode_encode hpercent hr _).symm.trans (decodeBytes_of_decodeStrict? h)
    refine hself ⟨Utf8.encode before, x.toUInt8, y.toUInt8, Utf8.encode rest, ?_, hx.2, hy.2⟩
    simp only [Utf8.encode_append, Utf8.encode_cons, Utf8.encodeChar_of_lt hx.1,
      Utf8.encodeChar_of_lt hy.1]
    rfl
  · intro h
    induction cs with
    | nil => rfl
    | cons c cs ih =>
      obtain ⟨hc, hcs⟩ := not_or.mp (mt List.mem_cons.mpr h)
      by_cases hreserved : reserved c
      · rw [encode_cons_of_reserved hreserved, Utf8.encode_append, decodeStrict?_encodeBytes,
          ih hcs]
        rfl
      · rw [encode_cons_of_not_reserved hreserved, Utf8.encode_cons,
          decodeStrict?_append (percent_not_mem_encodeChar (Ne.symm hc)), ih hcs]
        rfl

end ServiceBroker.Percent

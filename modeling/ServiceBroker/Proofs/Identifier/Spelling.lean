import ServiceBroker.Identifier
import ServiceBroker.Proofs.Outcome
import ServiceBroker.Proofs.Text.Hex

/-!
# Which texts spell a UUID

A UUID is spelled by thirty-two hexadecimal digits, with hyphens anywhere. Hyphens are left out
character by character and digits are read byte by byte, so a text that is not in ASCII has to be
seen not to slip through between the two.

## Main definitions

* `Identifier.bare`: a text without its hyphens
* `Identifier.Spelled`: the bytes that a list of digits spells
* `Identifier.Defect.Explains`: what is wrong with a list of bytes that spells no UUID

## Main results

* `Identifier.exists_octets_iff`: which texts spell a UUID
* `Identifier.octets_eq_error_iff`: why the others do not
* `Identifier.lower_of_octets`: what is spelled is told by the text up to hyphens and letter case
-/

namespace ServiceBroker.Identifier

open Hex (IsDigit halves)

variable {id : String} {bs bytes : List UInt8} {defect : Defect}

/-- A text without its hyphens. -/
def bare (id : String) : List Char := id.toList.filter (· ≠ '-')

theorem digits_eq (id : String) : digits id = Utf8.encode (bare id) := rfl

/-- The digits spell these bytes, each of which takes two. -/
def Spelled (bs bytes : List UInt8) : Prop := bs.map Hex.value? = (halves bytes).map some

theorem Spelled.length_eq (h : Spelled bs bytes) : bs.length = 2 * bytes.length := by
  have hlen := congrArg List.length h
  rwa [List.length_map, List.length_map, Hex.length_halves] at hlen

theorem Spelled.unique {bytes' : List UInt8} (h : Spelled bs bytes) (h' : Spelled bs bytes') :
    bytes = bytes' :=
  Hex.halves_injective ((List.map_inj_right fun _ _ => Option.some.inj).mp (h.symm.trans h'))

theorem Spelled.isDigit (h : Spelled bs bytes) : ∀ b ∈ bs, IsDigit b.toNat := by
  intro b hb
  have hvalue := List.mem_map_of_mem (f := Hex.value?) hb
  rw [h] at hvalue
  obtain ⟨n, -, hn⟩ := List.mem_map.mp hvalue
  exact Hex.isSome_value?_iff.mp (hn ▸ rfl)

/-- A byte that is no digit stands at this position, and nothing but digits before it. -/
def IsFirstBad (bs : List UInt8) (byte : UInt8) (position : Nat) : Prop :=
  ∃ before after, bs = before ++ byte :: after ∧ before.length = position ∧
    ¬ IsDigit byte.toNat ∧ ∀ b ∈ before, IsDigit b.toNat

theorem IsFirstBad.not_forall {byte : UInt8} {position : Nat} (h : IsFirstBad bs byte position) :
    ¬ ∀ b ∈ bs, IsDigit b.toNat := by
  obtain ⟨before, after, rfl, -, hbyte, -⟩ := h
  exact fun hall => hbyte (hall byte (by simp))

/-- There is one first byte that is no digit. -/
theorem IsFirstBad.unique {byte byte' : UInt8} {position position' : Nat}
    (h : IsFirstBad bs byte position) (h' : IsFirstBad bs byte' position') :
    byte = byte' ∧ position = position' := by
  obtain ⟨before, after, rfl, rfl, hbyte, hbefore⟩ := h
  obtain ⟨before', after', hbs, rfl, hbyte', hbefore'⟩ := h'
  rcases List.append_eq_append_iff.mp hbs with ⟨rest, rfl, hrest⟩ | ⟨rest, rfl, hrest⟩
  · cases rest with
    | nil =>
      obtain ⟨rfl, -⟩ := List.cons.inj hrest
      exact ⟨rfl, by rw [List.append_nil]⟩
    | cons b rest =>
      obtain ⟨rfl, -⟩ := List.cons.inj hrest
      exact absurd (hbefore' byte (by simp)) hbyte
  · cases rest with
    | nil =>
      obtain ⟨rfl, -⟩ := List.cons.inj hrest
      exact ⟨rfl, by rw [List.append_nil]⟩
    | cons b rest =>
      obtain ⟨rfl, -⟩ := List.cons.inj hrest
      exact absurd (hbefore byte' (by simp)) hbyte'

/-! ### Pairs of digits -/

/-- Digits are read exactly as the bytes that they spell. -/
theorem pairs_eq_ok_iff {position : Nat} : pairs position bs = .ok bytes ↔ Spelled bs bytes := by
  unfold Spelled
  fun_induction pairs position bs generalizing bytes with
  | case1 position => cases bytes <;> simp
  | case2 position a => cases bytes <;> simp
  | case3 position a b rest ha => cases bytes <;> simp [ha]
  | case4 position a b rest hb ha => cases bytes <;> simp [hb]
  | case5 position a b rest x y hb ha ih =>
    have hx := Hex.value?_lt ha
    have hy := Hex.value?_lt hb
    change (pairs (position + 2) rest).bind (fun bs => .ok (UInt8.ofNat (16 * x + y) :: bs)) = _ ↔ _
    rw [bind_eq_ok_iff]
    cases bytes with
    | nil => simp
    | cons c bytes =>
      simp only [ih, List.map_cons, ha, hb, Hex.halves_cons, List.cons.injEq, Option.some.injEq,
        Except.ok.injEq]
      constructor
      · rintro ⟨bs, hrest, rfl, rfl⟩
        have hc : (UInt8.ofNat (16 * x + y)).toNat = 16 * x + y :=
          UInt8.toNat_ofNat_of_lt' (by change _ < 256; omega)
        exact ⟨by omega, by omega, hrest⟩
      · rintro ⟨hhigh, hlow, hrest⟩
        have hc : 16 * x + y = c.toNat := by omega
        exact ⟨bytes, hrest, by rw [hc, UInt8.ofNat_toNat], rfl⟩

/-- Where reading fails on bytes that pair up, it names the first one that is no digit. -/
theorem exists_isFirstBad_of_pairs {position : Nat} (heven : bs.length % 2 = 0)
    (h : pairs position bs = .error defect) :
    ∃ byte n, IsFirstBad bs byte n ∧ defect = .badDigit byte (position + n) := by
  have hbad {b : UInt8} (hb : Hex.value? b = none) : ¬ IsDigit b.toNat := by
    rw [← Hex.isSome_value?_iff, hb]
    exact Bool.false_ne_true
  have hgood {b : UInt8} {n : Nat} (hb : Hex.value? b = some n) : IsDigit b.toNat :=
    Hex.isSome_value?_iff.mp (hb ▸ rfl)
  fun_induction pairs position bs with
  | case1 position => cases h
  | case2 position a => cases heven
  | case3 position a b rest ha =>
    cases h
    exact ⟨a, 0, ⟨[], b :: rest, rfl, rfl, hbad ha, by simp⟩, rfl⟩
  | case4 position a b rest hb ha =>
    cases h
    obtain ⟨x, hx⟩ := Option.ne_none_iff_exists'.mp ha
    exact ⟨b, 1, ⟨[a], rest, rfl, rfl, hbad hb, by simpa using hgood hx⟩, rfl⟩
  | case5 position a b rest x y hb ha ih =>
    cases hrest : pairs (position + 2) rest with
    | ok bytes =>
      rw [hrest] at h
      cases h
    | error defect' =>
      rw [hrest] at h
      cases h
      have heven' : rest.length % 2 = 0 := by
        rw [List.length_cons, List.length_cons] at heven
        omega
      obtain ⟨byte, n, ⟨before, after, rfl, rfl, hbyte, hbefore⟩, rfl⟩ := ih heven' hrest
      refine ⟨byte, before.length + 2, ⟨a :: b :: before, after, rfl, rfl, hbyte, ?_⟩, ?_⟩
      · rintro c (_ | ⟨_, _ | ⟨_, hc⟩⟩)
        · exact hgood ha
        · exact hgood hb
        · exact hbefore c hc
      · rw [Nat.add_assoc, Nat.add_comm 2]

/-! ### UUIDs -/

/-- What is wrong with a list of bytes that spells no UUID. -/
def Defect.Explains (bs : List UInt8) : Defect → Prop
  | .oddLength => bs.length % 2 = 1
  | .badDigit byte position => bs.length % 2 = 0 ∧ IsFirstBad bs byte position
  | .wrongSize n => bs.length = 2 * n ∧ n ≠ uuidBytes ∧ ∀ b ∈ bs, IsDigit b.toNat

/-- Only one thing is said to be wrong. -/
theorem Defect.Explains.unique {defect' : Defect} (h : defect.Explains bs)
    (h' : defect'.Explains bs) : defect = defect' := by
  cases defect with
  | oddLength =>
    cases defect' with
    | oddLength => rfl
    | badDigit byte position => exact absurd (h.symm.trans h'.1) nofun
    | wrongSize n =>
      have hodd : bs.length % 2 = 1 := h
      have hsize := h'.1
      omega
  | badDigit byte position =>
    cases defect' with
    | oddLength => exact absurd (h'.symm.trans h.1) nofun
    | badDigit byte' position' =>
      obtain ⟨rfl, rfl⟩ := h.2.unique h'.2
      rfl
    | wrongSize n => exact absurd h'.2.2 h.2.not_forall
  | wrongSize n =>
    cases defect' with
    | oddLength =>
      have hodd : bs.length % 2 = 1 := h'
      have hsize := h.1
      omega
    | badDigit byte position => exact absurd h.2.2 h'.2.not_forall
    | wrongSize n' =>
      have hsize := h.1
      have hsize' := h'.1
      obtain rfl : n = n' := by omega
      rfl

/-- Nothing is wrong with digits that spell sixteen bytes. -/
theorem Defect.Explains.not_spelled (h : defect.Explains bs) (hsize : bytes.length = uuidBytes) :
    ¬ Spelled bs bytes := by
  intro hspelled
  have hlen := hspelled.length_eq
  cases defect with
  | oddLength =>
    have hodd : bs.length % 2 = 1 := h
    omega
  | badDigit byte position => exact h.2.not_forall hspelled.isDigit
  | wrongSize n =>
    have hlen' := h.1
    exact h.2.1 (by omega)

/-- A text spells sixteen bytes, or it is rejected for what is wrong with it. -/
theorem octets_cases (id : String) :
    (∃ bytes, octets id = .ok bytes ∧ Spelled (digits id) bytes ∧ bytes.length = uuidBytes) ∨
      ∃ defect, octets id = .error defect ∧ defect.Explains (digits id) := by
  unfold octets
  split
  · next hodd => exact .inr ⟨.oddLength, rfl, hodd⟩
  · next hodd =>
    have heven : (digits id).length % 2 = 0 := by omega
    cases hpairs : pairs 0 (digits id) with
    | error defect =>
      obtain ⟨byte, n, hfirst, rfl⟩ := exists_isFirstBad_of_pairs heven hpairs
      rw [Nat.zero_add]
      exact .inr ⟨_, rfl, heven, hfirst⟩
    | ok bytes =>
      have hspelled := pairs_eq_ok_iff.mp hpairs
      by_cases hsize : bytes.length = uuidBytes
      · exact .inl ⟨bytes, if_pos hsize, hspelled, hsize⟩
      · exact .inr ⟨.wrongSize bytes.length, if_neg hsize, hspelled.length_eq, hsize,
          hspelled.isDigit⟩

/-- What a text spells if it spells a UUID. -/
theorem octets_eq_ok_iff :
    octets id = .ok bytes ↔ Spelled (digits id) bytes ∧ bytes.length = uuidBytes := by
  constructor
  · intro h
    rcases octets_cases id with ⟨bytes', hok, hspelled⟩ | ⟨defect, herror, -⟩
    · obtain rfl := Except.ok.inj (h.symm.trans hok)
      exact hspelled
    · exact absurd (h.symm.trans herror) nofun
  · rintro ⟨hspelled, hsize⟩
    rcases octets_cases id with ⟨bytes', hok, hspelled', -⟩ | ⟨defect, -, hdefect⟩
    · rw [hspelled.unique hspelled', hok]
    · exact absurd hspelled (hdefect.not_spelled hsize)

/-- A text that is rejected is rejected for what is wrong with it. -/
theorem octets_eq_error_iff : octets id = .error defect ↔ defect.Explains (digits id) := by
  constructor
  · intro h
    rcases octets_cases id with ⟨bytes, hok, -⟩ | ⟨defect', herror, hdefect⟩
    · exact absurd (h.symm.trans hok) nofun
    · obtain rfl := Except.error.inj (h.symm.trans herror)
      exact hdefect
  · intro h
    rcases octets_cases id with ⟨bytes, -, hspelled, hsize⟩ | ⟨defect', herror, hdefect⟩
    · exact absurd hspelled (h.not_spelled hsize)
    · rw [herror, hdefect.unique h]

/-! ### Characters -/

/-- If the bytes of a text are digits, then they are its characters, and in ASCII. -/
theorem digits_eq_map (h : ∀ b ∈ digits id, IsDigit b.toNat) :
    (∀ c ∈ bare id, c.toNat < 128) ∧ digits id = (bare id).map Char.toUInt8 := by
  have hascii := Utf8.ascii_of_forall_mem_encode fun b hb => (h b hb).lt
  exact ⟨hascii, Utf8.encode_of_ascii hascii⟩

/-- The texts that spell a UUID are those with thirty-two digits and nothing else but hyphens. -/
theorem exists_octets_iff :
    (∃ bytes, octets id = .ok bytes) ↔
      (bare id).length = 32 ∧ ∀ c ∈ bare id, IsDigit c.toNat := by
  constructor
  · rintro ⟨bytes, h⟩
    obtain ⟨hspelled, hsize⟩ := octets_eq_ok_iff.mp h
    obtain ⟨hascii, hdigits⟩ := digits_eq_map hspelled.isDigit
    have hlen := hspelled.length_eq
    rw [hdigits, List.length_map, hsize] at hlen
    refine ⟨hlen, fun c hc => ?_⟩
    have hc' : c.toUInt8 ∈ digits id := hdigits ▸ List.mem_map_of_mem hc
    rw [← Utf8.toNat_toUInt8 (hascii c hc)]
    exact hspelled.isDigit _ hc'
  · rintro ⟨hlen, hall⟩
    have hdigits : digits id = (bare id).map Char.toUInt8 :=
      Utf8.encode_of_ascii fun c hc => (hall c hc).lt
    have hlen' : (digits id).length = 32 := by rw [hdigits, List.length_map, hlen]
    have hall' : ∀ b ∈ digits id, IsDigit b.toNat := by
      intro b hb
      rw [hdigits] at hb
      obtain ⟨c, hc, rfl⟩ := List.mem_map.mp hb
      rw [Utf8.toNat_toUInt8 (hall c hc).lt]
      exact hall c hc
    rcases octets_cases id with ⟨bytes, hok, -⟩ | ⟨defect, -, hdefect⟩
    · exact ⟨bytes, hok⟩
    · -- None of the three defects fits thirty-two digits.
      cases defect with
      | oddLength =>
        have hodd : (digits id).length % 2 = 1 := hdefect
        omega
      | badDigit byte position => exact absurd hall' hdefect.2.not_forall
      | wrongSize n =>
        obtain ⟨hsize, hne, -⟩ := hdefect
        exact absurd (by unfold uuidBytes; omega) hne

/-- The bytes that a text spells are spelled by its digits in lower case. -/
theorem lower_of_octets (h : octets id = .ok bytes) :
    Hex.lower bytes = (bare id).map Char.toLower := by
  obtain ⟨hspelled, -⟩ := octets_eq_ok_iff.mp h
  obtain ⟨hascii, hdigits⟩ := digits_eq_map hspelled.isDigit
  rw [Spelled, hdigits, List.map_map] at hspelled
  rw [Hex.lower_eq_map_digit, Hex.map_toLower_eq_map_digit hascii hspelled]

/-- Texts spell the same bytes exactly if they are equal up to hyphens and letter case. -/
theorem octets_eq_iff {id' : String} {bytes' : List UInt8} (h : octets id = .ok bytes)
    (h' : octets id' = .ok bytes') :
    bytes = bytes' ↔ (bare id).map Char.toLower = (bare id').map Char.toLower := by
  rw [← lower_of_octets h, ← lower_of_octets h']
  exact ⟨fun heq => heq ▸ rfl, Hex.lower_injective⟩

/-- Any sixteen bytes are spelled by some text. -/
theorem octets_lower (hsize : bytes.length = uuidBytes) :
    octets (String.ofList (Hex.lower bytes)) = .ok bytes := by
  have hbare : bare (String.ofList (Hex.lower bytes)) = Hex.lower bytes := by
    rw [bare, String.toList_ofList, List.filter_eq_self]
    exact fun c hc => decide_eq_true (Hex.lt_of_mem_lower hc).2
  refine octets_eq_ok_iff.mpr ⟨?_, hsize⟩
  rw [Spelled, digits_eq, hbare, Utf8.encode_of_ascii fun c hc => (Hex.lt_of_mem_lower hc).1,
    List.map_map]
  exact Hex.map_value?_lower bytes

end ServiceBroker.Identifier

import ServiceBroker.Proofs.Identifier.Spelling
import ServiceBroker.Proofs.Identifier.Username

/-!
# Recognised user names that no binding has

The names of binding users are recognised by a mark and twenty-six digits. These digits have two
bits more than a UUID, so three names out of four have the shape of a binding username and are none.
They are told by their last character.

## Main definitions

* `Identifier.lastCharacters`: what the name of a binding's user ends in

## Main results

* `Identifier.isBindingUsername_iff`: the recognised names are those with twenty-six digits
* `Identifier.generated_iff_recognised`: which of them are generated
-/

namespace ServiceBroker.Identifier

variable {name : String} {vs : List Nat}

/-- The characters that the name of a binding's user can end in. -/
def lastCharacters : List Char := ['a', 'e', 'i', 'm', 'q', 'u', 'y', '4']

/-! ### What is recognised -/

/-- A character that can occur in a token is a digit in lower case. -/
theorem exists_digit_of_isTokenByte : ∀ c : Char, c.toNat < 128 → isTokenByte c.toUInt8 →
    ∃ n < 32, c = (Base32.digit n).toLower :=
  Utf8.forall_ascii (by decide +kernel)

/-- A text of such characters is made of digits. -/
theorem exists_digits_of_isTokenByte {cs : List Char} (hascii : ∀ c ∈ cs, c.toNat < 128)
    (h : ∀ c ∈ cs, isTokenByte c.toUInt8) :
    ∃ vs : List Nat, (∀ n ∈ vs, n < 32) ∧ cs = (vs.map Base32.digit).map Char.toLower := by
  induction cs with
  | nil => exact ⟨[], by simp, rfl⟩
  | cons c cs ih =>
    obtain ⟨vs, hlt, rfl⟩ := ih (fun d hd => hascii d (List.mem_cons_of_mem c hd))
      fun d hd => h d (List.mem_cons_of_mem c hd)
    obtain ⟨n, hn, rfl⟩ :=
      exists_digit_of_isTokenByte c (hascii c List.mem_cons_self) (h c List.mem_cons_self)
    exact ⟨n :: vs, List.forall_mem_cons.mpr ⟨hn, hlt⟩, rfl⟩

/-- A byte of a token is in ASCII. -/
theorem lt_of_isTokenByte {b : UInt8} (h : isTokenByte b) : b.toNat < 128 := by
  simp only [isTokenByte, Bool.or_eq_true, Bool.and_eq_true, decide_eq_true_eq,
    UInt8.le_iff_toNat_le] at h
  rcases h with ⟨-, hle⟩ | ⟨-, hle⟩
  · exact Nat.lt_of_le_of_lt hle (by decide)
  · exact Nat.lt_of_le_of_lt hle (by decide)

/-- The recognised names are the mark and twenty-six digits in lower case. -/
theorem isBindingUsername_iff :
    isBindingUsername name ↔
      ∃ vs : List Nat, vs.length = 26 ∧ (∀ n ∈ vs, n < 32) ∧ name = usernameOf vs := by
  constructor
  · intro h
    cases hprefix : userMark.toList.isPrefixOf? name.toList with
    | none =>
      rw [isBindingUsername, hprefix] at h
      cases h
    | some cs =>
      obtain rfl : userMark ++ String.ofList cs = name := by
        rw [← String.toList_inj, String.toList_append, String.toList_ofList]
        exact List.isPrefixOf?_eq_some_iff_append_eq.mp hprefix
      have hshape := h
      rw [isBindingUsername_mark_append, Bool.and_eq_true_iff, List.all_eq_true] at hshape
      -- Bytes are looked at, not characters, but only ASCII characters have such bytes.
      have hascii := Utf8.ascii_of_forall_mem_encode fun b hb => lt_of_isTokenByte (hshape.2 b hb)
      rw [Utf8.encode_of_ascii hascii] at hshape
      obtain ⟨vs, hlt, rfl⟩ := exists_digits_of_isTokenByte hascii fun c hc =>
        hshape.2 _ (List.mem_map_of_mem hc)
      exact ⟨vs, (isBindingUsername_usernameOf hlt).mp h, hlt, rfl⟩
  · rintro ⟨vs, hlen, hlt, rfl⟩
    exact (isBindingUsername_usernameOf hlt).mpr hlen

/-! ### What is generated -/

/-- The names that are generated are those of sixteen bytes. -/
theorem exists_bindingUsername_eq_iff :
    (∃ id, bindingUsername id = .ok name) ↔
      ∃ bytes : List UInt8, bytes.length = 16 ∧ name = usernameOf (Base32.values bytes) := by
  constructor
  · rintro ⟨id, h⟩
    obtain ⟨bytes, hbytes, rfl⟩ := bindingUsername_eq_ok_iff.mp h
    exact ⟨bytes, length_of_octets hbytes, by rw [usernameOf, Base32.encode_eq_map_values]⟩
  · rintro ⟨bytes, hsize, rfl⟩
    refine ⟨_, bindingUsername_eq_ok_iff.mpr ⟨bytes, octets_lower hsize, ?_⟩⟩
    rw [usernameOf, Base32.encode_eq_map_values]

/-- Names are told apart by their digits. -/
theorem usernameOf_injective {vs' : List Nat} (hlt : ∀ n ∈ vs, n < 32) (hlt' : ∀ n ∈ vs', n < 32)
    (h : usernameOf vs = usernameOf vs') : vs = vs' :=
  Base32.map_toLower_digit_injective hlt hlt'
    (String.ofList_inj.mp ((String.append_right_inj userMark).mp h))

/-- A name of twenty-six digits is generated exactly if the last of them is a multiple of four. -/
theorem exists_bindingUsername_eq_usernameOf_iff (hlen : vs.length = 26) (hlt : ∀ n ∈ vs, n < 32) :
    (∃ id, bindingUsername id = .ok (usernameOf vs)) ↔ ∃ n, vs.getLast? = some n ∧ n % 4 = 0 := by
  rw [exists_bindingUsername_eq_iff, ← Base32.exists_encode_eq_iff hlen hlt]
  refine exists_congr fun bytes => and_congr_right fun _ => ⟨fun h => ?_, fun h => ?_⟩
  · rw [usernameOf_injective hlt (fun _ => Base32.lt_of_mem_values) h, Base32.encode_eq_map_values]
  · rw [Base32.values_eq_of_encode_eq hlt h]

/-- The last character of a name is its last digit. -/
theorem getLast?_usernameOf {n : Nat} (h : vs.getLast? = some n) :
    (usernameOf vs).toList.getLast? = some (Base32.digit n).toLower := by
  rw [usernameOf, String.toList_append, String.toList_ofList, List.getLast?_append,
    List.getLast?_map, List.getLast?_map, h]
  rfl

/-- The characters that a name can end in are the digits with nothing in their lowest two bits. -/
theorem toLower_digit_mem_lastCharacters :
    ∀ n < 32, (Base32.digit n).toLower ∈ lastCharacters ↔ n % 4 = 0 := by
  decide

/-- What decides whether a recognised name is generated is its last digit. -/
theorem exists_last_digit (h : isBindingUsername name) :
    ∃ n < 32, name.toList.getLast? = some (Base32.digit n).toLower ∧
      ((∃ id, bindingUsername id = .ok name) ↔ n % 4 = 0) := by
  obtain ⟨vs, hlen, hlt, rfl⟩ := isBindingUsername_iff.mp h
  have hne : vs ≠ [] := List.ne_nil_of_length_pos (by omega)
  have hlast : vs.getLast? = some (vs.getLast hne) := List.getLast?_eq_some_getLast hne
  refine ⟨vs.getLast hne, hlt _ (List.getLast_mem hne), getLast?_usernameOf hlast, ?_⟩
  rw [exists_bindingUsername_eq_usernameOf_iff hlen hlt, hlast]
  simp only [Option.some.injEq, exists_eq_left']

/-- The names of binding users are the recognised names that end in one of eight characters. Those
that are recognised and belong to no binding are those whose last digit has something in the two
bits that belong to no UUID. -/
theorem generated_iff_recognised (name : String) :
    ((∃ id, bindingUsername id = .ok name) ↔
      isBindingUsername name ∧ ∃ c, name.toList.getLast? = some c ∧ c ∈ lastCharacters) ∧
    ((isBindingUsername name ∧ ¬ ∃ id, bindingUsername id = .ok name) ↔
      isBindingUsername name ∧ ∃ c n, name.toList.getLast? = some c ∧
        Base32.value? c.toUpper = some n ∧ n % 4 ≠ 0) := by
  constructor
  · constructor
    · rintro ⟨id, hid⟩
      have hname := isBindingUsername_of_bindingUsername hid
      obtain ⟨n, hn, hlast, hfour⟩ := exists_last_digit hname
      exact ⟨hname, _, hlast, (toLower_digit_mem_lastCharacters n hn).mpr (hfour.mp ⟨id, hid⟩)⟩
    · rintro ⟨hname, c, hc, hmem⟩
      obtain ⟨n, hn, hlast, hfour⟩ := exists_last_digit hname
      obtain rfl := Option.some.inj (hc.symm.trans hlast)
      exact hfour.mpr ((toLower_digit_mem_lastCharacters n hn).mp hmem)
  · refine and_congr_right fun hname => ?_
    obtain ⟨n, hn, hlast, hfour⟩ := exists_last_digit hname
    have hvalue := Base32.value?_toUpper_toLower_digit n hn
    rw [hfour, hlast]
    constructor
    · exact fun hne => ⟨_, n, rfl, hvalue, hne⟩
    · rintro ⟨c, m, hc, hm, hne⟩
      obtain rfl := Option.some.inj hc
      obtain rfl := Option.some.inj (hvalue.symm.trans hm)
      exact hne

end ServiceBroker.Identifier

import ServiceBroker.Identifier
import ServiceBroker.Proofs.Text.Ascii
import ServiceBroker.Proofs.Text.Base32

/-!
# Generated user names are recognised

The names of binding users are generated from the bits of a UUID and recognised by their shape
alone. Here every generated name has that shape, so that no user of a binding is overlooked.

## Main definitions

* `Identifier.usernameOf`: the name that is made of these digits

## Main results

* `Identifier.isBindingUsername_usernameOf`: which names of digits are recognised
* `Identifier.isBindingUsername_of_bindingUsername`: generated names are recognised
-/

namespace ServiceBroker.Identifier

/-- The name that is made of digits that count these numbers. -/
def usernameOf (vs : List Nat) : String :=
  userMark ++ String.ofList ((vs.map Base32.digit).map Char.toLower)

/-- What a UUID spells has its size. -/
theorem length_of_octets {id : String} {bytes : List UInt8} (h : octets id = .ok bytes) :
    bytes.length = uuidBytes := by
  unfold octets at h
  split at h
  · cases h
  · cases hpairs : pairs 0 (digits id) with
    | error defect =>
      rw [hpairs] at h
      cases h
    | ok spelled =>
      rw [hpairs] at h
      change (if spelled.length = uuidBytes then Except.ok spelled
        else Except.error (Defect.wrongSize spelled.length)) = .ok bytes at h
      split at h
      · next hsize =>
        cases h
        exact hsize
      · cases h

/-- A binding username is the mark and the digits of the UUID, in lower case. -/
theorem bindingUsername_eq_ok_iff {id name : String} :
    bindingUsername id = .ok name ↔ ∃ bytes, octets id = .ok bytes ∧
      name = userMark ++ String.ofList ((Base32.encode bytes).map Char.toLower) := by
  unfold bindingUsername compact
  cases octets id with
  | error defect =>
    constructor
    · intro h
      cases h
    · rintro ⟨_, h, _⟩
      cases h
  | ok bytes =>
    change Except.ok (userMark ++ String.ofList
      ((String.ofList (Base32.encode bytes)).toList.map Char.toLower)) = _ ↔ _
    rw [String.toList_ofList]
    constructor
    · intro h
      cases h
      exact ⟨bytes, rfl, rfl⟩
    · rintro ⟨_, h, rfl⟩
      cases h
      rfl

/-- What follows the mark decides whether a name is recognised. -/
theorem isBindingUsername_mark_append (cs : List Char) :
    isBindingUsername (userMark ++ String.ofList cs) =
      ((Utf8.encode cs).length == tokenLength && (Utf8.encode cs).all isTokenByte) := by
  have hname : (userMark ++ String.ofList cs).toList = 'u' :: 's' :: 'e' :: 'r' :: cs := by
    rw [String.toList_append, String.toList_ofList]
    rfl
  have hmark : userMark.toList = ['u', 's', 'e', 'r'] := rfl
  rw [isBindingUsername, hname, hmark]
  rfl

/-- In lower case a digit is an ASCII character that can occur in a token. -/
theorem isTokenByte_toLower_digit :
    ∀ n < 32, (Base32.digit n).toLower.toNat < 128 ∧
      isTokenByte (Base32.digit n).toLower.toUInt8 := by
  decide

/-- A name of digits is recognised exactly if there are twenty-six of them. -/
theorem isBindingUsername_usernameOf {vs : List Nat} (hlt : ∀ n ∈ vs, n < 32) :
    isBindingUsername (usernameOf vs) ↔ vs.length = 26 := by
  have hdigit : ∀ c ∈ (vs.map Base32.digit).map Char.toLower,
      c.toNat < 128 ∧ isTokenByte c.toUInt8 := by
    intro c hc
    obtain ⟨d, hd, rfl⟩ := List.mem_map.mp hc
    obtain ⟨n, hn, rfl⟩ := List.mem_map.mp hd
    exact isTokenByte_toLower_digit n (hlt n hn)
  have hall : (((vs.map Base32.digit).map Char.toLower).map Char.toUInt8).all isTokenByte := by
    refine List.all_eq_true.mpr fun b hb => ?_
    obtain ⟨c, hc, rfl⟩ := List.mem_map.mp hb
    exact (hdigit c hc).2
  rw [usernameOf, isBindingUsername_mark_append, Utf8.encode_of_ascii fun c hc => (hdigit c hc).1,
    hall, Bool.and_true, beq_iff_eq, List.length_map, List.length_map, List.length_map]
  rfl

/-- Generated names are recognised. -/
theorem isBindingUsername_of_bindingUsername {id name : String}
    (h : bindingUsername id = .ok name) : isBindingUsername name := by
  obtain ⟨bytes, hbytes, rfl⟩ := bindingUsername_eq_ok_iff.mp h
  rw [Base32.encode_eq_map_values]
  refine (isBindingUsername_usernameOf fun _ => Base32.lt_of_mem_values).mpr ?_
  -- Sixteen bytes make twenty-six digits, which is the length of a token.
  rw [← List.length_map Base32.digit, ← Base32.encode_eq_map_values, Base32.length_encode,
    length_of_octets hbytes]
  rfl

end ServiceBroker.Identifier

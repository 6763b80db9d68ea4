import ServiceBroker.Proofs.Identifier.Spelling
import ServiceBroker.Proofs.Identifier.Username

/-!
# Tokens of UUIDs

The token of a UUID holds all of its bits and nothing of the way in which it is written, so two
texts have the same token exactly if they are the same UUID. The same is true of the names of users,
although these are in lower case.

## Main definitions

* `Identifier.SameUuid`: two texts are equal up to hyphens and letter case

## Main results

* `Identifier.compact_eq_ok_iff`, `Identifier.compact_eq_error_iff`: when there is a token
* `Identifier.token_codec`: what tokens are and what they tell
-/

namespace ServiceBroker.Identifier

open Hex (IsDigit)

variable {id id' token token' name name' : String} {bytes bytes' : List UInt8}

/-- The texts are equal up to hyphens and letter case. -/
def SameUuid (id id' : String) : Prop :=
  (bare id).map Char.toLower = (bare id').map Char.toLower

instance (id id' : String) : Decidable (SameUuid id id') := inferInstanceAs (Decidable (_ = _))

/-- A token is made of the digits of the bytes that the text spells. -/
theorem compact_eq_ok_iff :
    compact id = .ok token ↔
      ∃ bytes, octets id = .ok bytes ∧ token = String.ofList (Base32.encode bytes) := by
  have hbind : compact id = (octets id).bind fun bytes =>
      .ok (String.ofList (Base32.encode bytes)) := rfl
  rw [hbind, bind_eq_ok_iff]
  simp only [Except.ok.injEq, eq_comm]

/-- A text has no token for what is wrong with its digits. -/
theorem compact_eq_error_iff {defect : Defect} :
    compact id = .error defect ↔ defect.Explains (digits id) := by
  rw [← octets_eq_error_iff]
  unfold compact
  cases octets id with
  | error defect' =>
    change (Except.error defect' : Except Defect String) = .error defect ↔ _
    rw [Except.error.injEq, Except.error.injEq]
  | ok bytes => exact iff_of_false nofun nofun

/-- The texts that have a token are those that spell a UUID. -/
theorem exists_compact_iff :
    (∃ token, compact id = .ok token) ↔
      (bare id).length = 32 ∧ ∀ c ∈ bare id, IsDigit c.toNat := by
  rw [← exists_octets_iff]
  constructor
  · rintro ⟨token, h⟩
    obtain ⟨bytes, hbytes, -⟩ := compact_eq_ok_iff.mp h
    exact ⟨bytes, hbytes⟩
  · rintro ⟨bytes, hbytes⟩
    exact ⟨_, compact_eq_ok_iff.mpr ⟨bytes, hbytes, rfl⟩⟩

/-- A user is named for every text that has a token. -/
theorem exists_bindingUsername_iff :
    (∃ name, bindingUsername id = .ok name) ↔ ∃ token, compact id = .ok token := by
  constructor
  · rintro ⟨name, h⟩
    obtain ⟨bytes, hbytes, -⟩ := bindingUsername_eq_ok_iff.mp h
    exact ⟨_, compact_eq_ok_iff.mpr ⟨bytes, hbytes, rfl⟩⟩
  · rintro ⟨token, h⟩
    obtain ⟨bytes, hbytes, -⟩ := compact_eq_ok_iff.mp h
    exact ⟨_, bindingUsername_eq_ok_iff.mpr ⟨bytes, hbytes, rfl⟩⟩

/-- A token has twenty-six digits, and decoding it gives the bytes that the text spells. -/
theorem decode?_compact (h : compact id = .ok token) :
    token.length = 26 ∧ (∀ c ∈ token.toList, Base32.IsDigit c.toNat) ∧
      ∃ bytes, bytes.length = 16 ∧ Hex.lower bytes = (bare id).map Char.toLower ∧
        Base32.decode? token.toList = some bytes := by
  obtain ⟨bytes, hbytes, rfl⟩ := compact_eq_ok_iff.mp h
  have hsize : bytes.length = 16 := length_of_octets hbytes
  rw [String.length_ofList, String.toList_ofList, Base32.length_encode, hsize]
  refine ⟨rfl, fun c hc => ?_, bytes, hsize, lower_of_octets hbytes, Base32.decode?_encode bytes⟩
  obtain ⟨n, hn, rfl⟩ := Base32.exists_digit_of_mem_encode hc
  exact Base32.isDigit_digit n hn

/-- Texts have the same token exactly if they are the same UUID. -/
theorem compact_eq_compact_iff (h : compact id = .ok token) (h' : compact id' = .ok token') :
    token = token' ↔ SameUuid id id' := by
  obtain ⟨bytes, hbytes, rfl⟩ := compact_eq_ok_iff.mp h
  obtain ⟨bytes', hbytes', rfl⟩ := compact_eq_ok_iff.mp h'
  rw [SameUuid, ← octets_eq_iff hbytes hbytes', String.ofList_inj]
  exact ⟨Base32.encode_injective, congrArg Base32.encode⟩

/-- Texts name the same user exactly if they are the same UUID. -/
theorem bindingUsername_eq_iff (h : bindingUsername id = .ok name)
    (h' : bindingUsername id' = .ok name') : name = name' ↔ SameUuid id id' := by
  obtain ⟨bytes, hbytes, rfl⟩ := bindingUsername_eq_ok_iff.mp h
  obtain ⟨bytes', hbytes', rfl⟩ := bindingUsername_eq_ok_iff.mp h'
  rw [SameUuid, ← octets_eq_iff hbytes hbytes', String.append_right_inj, String.ofList_inj]
  exact ⟨Base32.map_toLower_encode_injective, fun heq => heq ▸ rfl⟩

/-- Whether a text names a user does not depend on how its UUID is written. -/
theorem SameUuid.exists_bindingUsername (hsame : SameUuid id id')
    (h : ∃ name, bindingUsername id' = .ok name) : ∃ name, bindingUsername id = .ok name := by
  rw [exists_bindingUsername_iff, exists_compact_iff] at h ⊢
  obtain ⟨hlen, hdigits⟩ := h
  have hlen' : (bare id).length = (bare id').length := by
    simpa only [List.length_map] using congrArg List.length hsame
  refine ⟨hlen'.trans hlen, fun c hc => ?_⟩
  have hlower : c.toLower ∈ (bare id').map Char.toLower := hsame ▸ List.mem_map_of_mem hc
  obtain ⟨d, hd, hdc⟩ := List.mem_map.mp hlower
  rw [← Hex.isDigit_toLower_iff, ← hdc, Hex.isDigit_toLower_iff]
  exact hdigits d hd

/-- The texts that name one user are those that are the same UUID. -/
theorem bindingUsername_eq_ok_iff_sameUuid (h : bindingUsername id' = .ok name) :
    bindingUsername id = .ok name ↔ SameUuid id id' := by
  constructor
  · intro hid
    exact (bindingUsername_eq_iff hid h).mp rfl
  · intro hsame
    obtain ⟨name', hid⟩ := hsame.exists_bindingUsername ⟨name, h⟩
    rw [hid, (bindingUsername_eq_iff hid h).mpr hsame]

/-- The texts that have a token are those with thirty-two hexadecimal digits and hyphens anywhere.
The token has twenty-six base32 digits and decodes to the sixteen bytes that the text spells, so
neither tokens nor the names of users are shared by two UUIDs. Every other text is rejected, for an
odd number of bytes, else for its first byte that is no digit, else for the number of bytes that it
spells. -/
theorem token_codec (id : String) :
    ((∃ token, compact id = .ok token) ↔
      (bare id).length = 32 ∧ ∀ c ∈ bare id, IsDigit c.toNat) ∧
    (∀ token, compact id = .ok token →
      token.length = 26 ∧ (∀ c ∈ token.toList, Base32.IsDigit c.toNat) ∧
        ∃ bytes, bytes.length = 16 ∧ Hex.lower bytes = (bare id).map Char.toLower ∧
          Base32.decode? token.toList = some bytes) ∧
    (∀ id' token token', compact id = .ok token → compact id' = .ok token' →
      (token = token' ↔ SameUuid id id')) ∧
    ((∃ name, bindingUsername id = .ok name) ↔ ∃ token, compact id = .ok token) ∧
    (∀ id' name name', bindingUsername id = .ok name → bindingUsername id' = .ok name' →
      (name = name' ↔ SameUuid id id')) ∧
    (∀ defect, compact id = .error defect ↔ defect.Explains (digits id)) :=
  ⟨exists_compact_iff, fun _ => decode?_compact, fun _ _ _ => compact_eq_compact_iff,
    exists_bindingUsername_iff, fun _ _ _ => bindingUsername_eq_iff, fun _ => compact_eq_error_iff⟩

/-- A UUID in upper case and without hyphens has the same token. -/
theorem token_codec_upper :
    compact "a7cb6bd8-cf67-400f-805c-019e85eac3bf" = .ok "U7FWXWGPM5AA7AC4AGPIL2WDX4" ∧
    compact "A7CB6BD8CF67400F805C019E85EAC3BF" = .ok "U7FWXWGPM5AA7AC4AGPIL2WDX4" ∧
    SameUuid "a7cb6bd8-cf67-400f-805c-019e85eac3bf" "A7CB6BD8CF67400F805C019E85EAC3BF" := by
  have h : compact "a7cb6bd8-cf67-400f-805c-019e85eac3bf" = .ok "U7FWXWGPM5AA7AC4AGPIL2WDX4" :=
    eq_ok_of_toOption (by decide +kernel)
  have h' : compact "A7CB6BD8CF67400F805C019E85EAC3BF" = .ok "U7FWXWGPM5AA7AC4AGPIL2WDX4" :=
    eq_ok_of_toOption (by decide +kernel)
  exact ⟨h, h', ((token_codec _).2.2.1 _ _ _ h h').mp rfl⟩

end ServiceBroker.Identifier

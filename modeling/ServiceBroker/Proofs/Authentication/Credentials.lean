import ServiceBroker.Executor.Remote
import ServiceBroker.Proofs.Authentication.Verdict
import ServiceBroker.Proofs.Text.Base64
import ServiceBroker.Proofs.Text.Split
import ServiceBroker.Proofs.Text.Utf8

/-!
# Basic credentials

A basic header carries a user name and a password if its text is the base64 form of both, with a
colon between them. The first colon counts, so a password may hold colons and a user name may not.
Only digests are compared, but as long as these tell the credentials apart nobody is admitted but
who sends the configured ones.

## Main definitions

* `Header.Carries`: a header carries a user name and a password

## Main results

* `Header.basic_eq_found_iff`: what is found in a header
* `Policy.admits_configured_credentials_only`: who is admitted under basic authentication
-/

namespace ServiceBroker

open Program

namespace Header

variable {scheme value encoded user pass : List Char}

/-- The header carries a user name and a password: what follows its scheme, in any letter case, is
the base64 form of both, with the first colon between them. -/
def Carries (value user pass : List Char) : Prop :=
  ∃ front rest, value = front ++ rest ∧ front.map Char.toLower = "basic ".toList ∧ ':' ∉ user ∧
    Text.trim rest = Base64.encode (Utf8.encode (user ++ ':' :: pass))

/-- What follows the scheme of a header in ASCII. -/
theorem afterScheme_eq_found_iff (hvalue : ∀ c ∈ value, c.toNat < 128) :
    afterScheme scheme value = .found encoded ↔ ∃ front rest, value = front ++ rest ∧
      front.map Char.toLower = scheme ∧ Text.trim rest = encoded := by
  unfold afterScheme
  rw [Utf8.encode_of_ascii hvalue, List.length_map]
  constructor
  · intro h
    split at h
    · cases h
    · next hlength =>
      rw [splitBytes?_of_ascii hvalue (Nat.not_lt.mp hlength)] at h
      dsimp only at h
      split at h
      · next hscheme =>
        cases h
        exact ⟨_, _, (List.take_append_drop ..).symm, hscheme, rfl⟩
      · cases h
  · rintro ⟨front, rest, rfl, rfl, rfl⟩
    rw [List.length_map, List.length_append, if_neg (by omega),
      splitBytes?_of_ascii hvalue (by simp), List.take_left, List.drop_left]
    exact if_pos rfl

/-- What the text of a basic header spells. -/
theorem credentials?_eq_some_iff : credentials? encoded = some (user, pass) ↔
    ':' ∉ user ∧ encoded = Base64.encode (Utf8.encode (user ++ ':' :: pass)) := by
  unfold credentials?
  simp only [Option.bind_eq_bind, Option.bind_eq_some_iff, Base64.decode?_eq_some_iff,
    Utf8.decode?_eq_some_iff]
  constructor
  · rintro ⟨_, rfl, cs, rfl, h⟩
    split at h
    · cases h
    · next colon rest hdrop =>
      obtain ⟨rfl, rfl⟩ := Prod.mk.inj (Option.some.inj h)
      obtain ⟨huser, hcs⟩ := takeWhile_dropWhile_iff.mp ⟨rfl, colon, hdrop⟩
      exact ⟨huser, congrArg (Base64.encode ∘ Utf8.encode) hcs⟩
  · rintro ⟨huser, rfl⟩
    obtain ⟨htake, colon, hdrop⟩ := takeWhile_dropWhile_iff.mpr ⟨huser, rfl⟩
    refine ⟨_, rfl, _, rfl, ?_⟩
    rw [hdrop, htake]

/-- What is found in a header in ASCII is what it carries. -/
theorem basic_eq_found_iff (hvalue : ∀ c ∈ value, c.toNat < 128) :
    basic value = .found (user, pass) ↔ Carries value user pass := by
  have hfound : basic value = .found (user, pass) ↔ ∃ encoded,
      afterScheme "basic ".toList value = .found encoded ∧
        credentials? encoded = some (user, pass) := by
    unfold basic
    cases afterScheme "basic ".toList value with
    | absent => exact iff_of_false nofun nofun
    | uncuttable => exact iff_of_false nofun nofun
    | found encoded => cases hencoded : credentials? encoded <;> simp [hencoded]
  simp only [hfound, afterScheme_eq_found_iff hvalue, credentials?_eq_some_iff]
  constructor
  · rintro ⟨_, ⟨front, rest, hparts, hscheme, rfl⟩, huser, htext⟩
    exact ⟨front, rest, hparts, hscheme, huser, htext⟩
  · rintro ⟨front, rest, hparts, hscheme, huser, htext⟩
    exact ⟨_, ⟨front, rest, hparts, hscheme, rfl⟩, huser, htext⟩

/-- A header in ASCII carries one user name and password at most. -/
theorem Carries.unique {user' pass' : List Char} (hvalue : ∀ c ∈ value, c.toNat < 128)
    (h : Carries value user pass) (h' : Carries value user' pass') :
    user' = user ∧ pass' = pass := by
  rw [← basic_eq_found_iff hvalue] at h h'
  rw [h] at h'
  cases h'
  exact ⟨rfl, rfl⟩

/-! ### The header of a client -/

/-- Nothing is trimmed off a text without white space. -/
theorem trim_eq_self {cs : List Char} (h : ∀ c ∈ cs, ¬ Text.isBlank c) : Text.trim cs = cs := by
  have hkept {ds : List Char} (hds : ∀ d ∈ ds, ¬ Text.isBlank d) :
      ds.dropWhile Text.isBlank = ds := by
    cases ds with
    | nil => rfl
    | cons d ds => exact List.dropWhile_cons_of_neg (hds d List.mem_cons_self)
  rw [Text.trim, Text.trimEnd, hkept h, hkept fun c hc => h c (List.mem_reverse.mp hc),
    List.reverse_reverse]

theorem toList_basicAuthorization (username password : String) :
    (Remote.basicAuthorization username password).toList = "Basic ".toList ++
      Base64.encode (Utf8.encode (username.toList ++ ':' :: password.toList)) := by
  simp [Remote.basicAuthorization, Utf8.bytes]

/-- The header that a client sends is visible ASCII, but for the space after its scheme. -/
theorem visible_basicAuthorization (username password : String) :
    ∀ c ∈ (Remote.basicAuthorization username password).toList, 32 ≤ c.toNat ∧ c.toNat < 127 := by
  rw [toList_basicAuthorization]
  intro c hc
  rcases List.mem_append.mp hc with hc | hc
  · exact (by simp : ∀ c ∈ "Basic ".toList, 32 ≤ c.toNat ∧ c.toNat < 127) c hc
  · exact Base64.forall_mem_encode (p := fun c => 32 ≤ c.toNat ∧ c.toNat < 127) (by decide)
      (by decide) _ c hc

/-- The header that a client sends carries its user name and password. -/
theorem carries_basicAuthorization {username password : String} (h : ':' ∉ username.toList) :
    Carries (Remote.basicAuthorization username password).toList username.toList
      password.toList := by
  refine ⟨"Basic ".toList, _, toList_basicAuthorization username password, by decide, h, ?_⟩
  exact trim_eq_self (Base64.forall_mem_encode (p := fun c => ¬ Text.isBlank c) (by decide)
    (by decide) _)

end Header

namespace Policy

variable {username password caller : String} {header : Option (List Char)}

/-- The credentials that the header carries are told by their digests from the configured ones. -/
def Distinguishes (username password : String) (header : Option (List Char)) : Prop :=
  ∀ value ∈ header, ∀ user pass, Header.Carries value user pass →
    (digest user = digest username.toList → user = username.toList) ∧
    (digest pass = digest password.toList → pass = password.toList)

/-- There is a header and it carries the configured credentials. -/
def Presents (username password : String) (header : Option (List Char)) : Prop :=
  ∃ value ∈ header, Header.Carries value username.toList password.toList

/-- The verdict on a header that carries credentials. -/
theorem authenticate_of_carries {value user pass : List Char} (hvalue : ∀ c ∈ value, c.toNat < 128)
    (h : Header.Carries value user pass) :
    (ofCredentials username password).authenticate (some value) =
      if digest user = digest username.toList ∧ digest pass = digest password.toList then
        .done (.admitted (String.ofList user))
      else .done (.refused (.unauthorized "invalid credentials")) := by
  rw [← Header.basic_eq_found_iff hvalue] at h
  simp only [ofCredentials, authenticate, lookFor, h]

/-- The verdict if there is no header that carries credentials. -/
theorem authenticate_of_not_carries (hheader : ∀ value ∈ header, ∀ c ∈ value, c.toNat < 128)
    (h : ∀ value ∈ header, ∀ user pass, ¬ Header.Carries value user pass) :
    (ofCredentials username password).authenticate header =
      .done (.refused (.unauthorized "basic credentials required")) := by
  have habsent : lookFor Header.basic header = .absent := by
    cases header with
    | none => rfl
    | some value =>
      rw [lookFor]
      cases hbasic : Header.basic value with
      | absent => rfl
      | uncuttable => exact absurd hbasic (Header.basic_ne_uncuttable (hheader value rfl))
      | found pair =>
        rw [Header.basic_eq_found_iff (hheader value rfl)] at hbasic
        exact absurd hbasic (h value rfl _ _)
  simp only [ofCredentials, authenticate, habsent]

/-- Whoever presents the configured credentials is admitted under the configured name. -/
theorem admitted_of_presents (hheader : ∀ value ∈ header, ∀ c ∈ value, c.toNat < 128)
    (h : Presents username password header) :
    (ofCredentials username password).authenticate header = .done (.admitted username) := by
  obtain ⟨value, rfl, hcarries⟩ := h
  rw [authenticate_of_carries (hheader value rfl) hcarries, if_pos ⟨rfl, rfl⟩,
    String.ofList_toList]

/-- Whoever does not present them is refused, if their digests tell them apart. -/
theorem refused_of_not_presents (hheader : ∀ value ∈ header, ∀ c ∈ value, c.toNat < 128)
    (hdigest : Distinguishes username password header) (h : ¬ Presents username password header) :
    ∃ message, (ofCredentials username password).authenticate header =
      .done (.refused (.unauthorized message)) := by
  by_cases hcarries : ∃ value ∈ header, ∃ user pass, Header.Carries value user pass
  · obtain ⟨value, rfl, user, pass, hcarries⟩ := hcarries
    obtain ⟨huser, hpass⟩ := hdigest value rfl user pass hcarries
    rw [authenticate_of_carries (hheader value rfl) hcarries, if_neg]
    · exact ⟨_, rfl⟩
    · rintro ⟨hname, hword⟩
      exact h ⟨value, rfl, huser hname ▸ hpass hword ▸ hcarries⟩
  · refine ⟨_, authenticate_of_not_carries hheader fun value hvalue user pass h => ?_⟩
    exact hcarries ⟨value, hvalue, user, pass, h⟩

/-- Under basic authentication a caller is admitted exactly if the header carries the configured
user name and password, and then under that name. Everyone else is refused. A client that sends them
is admitted if no colon stands in the user name, and otherwise nobody is. The digests are taken to
tell the credentials in the header from the configured ones. -/
theorem admits_configured_credentials_only (username password : String)
    {header : Option (List Char)} (hheader : ∀ value ∈ header, ∀ c ∈ value, c.toNat < 128)
    (hdigest : Distinguishes username password header) :
    (∀ caller, (ofCredentials username password).authenticate header = .done (.admitted caller) ↔
      caller = username ∧ Presents username password header) ∧
    (¬ Presents username password header → ∃ message,
      (ofCredentials username password).authenticate header =
        .done (.refused (.unauthorized message))) ∧
    (':' ∉ username.toList →
      (ofCredentials username password).authenticate
        (some (Remote.basicAuthorization username password).toList) = .done (.admitted username)) ∧
    (':' ∈ username.toList → ∀ caller,
      (ofCredentials username password).authenticate header ≠ .done (.admitted caller)) := by
  have hadmitted (caller : String) :
      (ofCredentials username password).authenticate header = .done (.admitted caller) ↔
        caller = username ∧ Presents username password header := by
    constructor
    · intro hadmitted
      by_cases hpresents : Presents username password header
      · rw [admitted_of_presents hheader hpresents] at hadmitted
        cases hadmitted
        exact ⟨rfl, hpresents⟩
      · obtain ⟨message, hrefused⟩ := refused_of_not_presents hheader hdigest hpresents
        rw [hrefused] at hadmitted
        cases hadmitted
    · rintro ⟨rfl, hpresents⟩
      exact admitted_of_presents hheader hpresents
  refine ⟨hadmitted, refused_of_not_presents hheader hdigest, fun husername => ?_,
    fun husername caller hcaller => ?_⟩
  · refine admitted_of_presents ?_ ⟨_, rfl, Header.carries_basicAuthorization husername⟩
    rintro value ⟨⟩ c hc
    exact Nat.lt_of_lt_of_le (Header.visible_basicAuthorization _ _ c hc).2 (by decide)
  · obtain ⟨-, value, -, -, -, -, -, hcolon, -⟩ := (hadmitted caller).mp hcaller
    exact hcolon husername

/-- A password with a colon, a space and a letter beyond ASCII is accepted. -/
theorem admits_configured_credentials_only_alice :
    (ofCredentials "alice" "p:w é").authenticate (some "bAsIc YWxpY2U6cDp3IMOp".toList) =
      .done (.admitted "alice") := by
  have hvalue : ∀ c ∈ "bAsIc YWxpY2U6cDp3IMOp".toList, c.toNat < 128 := by simp
  have hcarries : Header.Carries "bAsIc YWxpY2U6cDp3IMOp".toList "alice".toList "p:w é".toList :=
    ⟨"bAsIc ".toList, "YWxpY2U6cDp3IMOp".toList, rfl, by decide, by decide, by decide +kernel⟩
  refine ((admits_configured_credentials_only "alice" "p:w é" ?_ ?_).1 "alice").mpr
    ⟨rfl, _, rfl, hcarries⟩
  · rintro value ⟨⟩
    exact hvalue
  · rintro value ⟨⟩ user pass h
    obtain ⟨rfl, rfl⟩ := hcarries.unique hvalue h
    exact ⟨fun _ => rfl, fun _ => rfl⟩

end Policy

end ServiceBroker

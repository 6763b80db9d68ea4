import Mathlib.Data.List.TakeWhile
import ServiceBroker.Proofs.Outcome
import ServiceBroker.Proofs.Text.Percent
import ServiceBroker.Proofs.Url.Literal
import ServiceBroker.Url.Edit

/-!
# What a text says about the authority of its URL

A URL that is not of the web may go without a host. Credentials cannot be set in such a URL, so this
file says which texts spell one: those whose authority is empty, and those whose authority is the
user information of an empty name and an empty password. In every other URL the host is written
without any of the characters that set it apart from what stands around it.

## Main definitions

* `Url.authorityPart`, `Url.userinfoPart`, `Url.hostPart`, `Url.portPart`: a text taken apart
* `Url.LeavesOutHost`: the texts whose URL has no host
* `Url.IsDelimiter`: the characters that set the parts of an authority apart

## Main results

* `Url.parseAuthority_eq_ok_iff`: the URL that a text spells comes from these parts
* `Url.leavesOutHost_of_host_eq_none`, `Url.exists_of_leavesOutHost`: which URLs have no host
* `Url.not_isDelimiter_of_parseHost`: a host is written without delimiters
-/

namespace ServiceBroker.Url

/-! ### Taking a text apart -/

/-- The authority at the head of a text. -/
def authorityPart (web : Bool) (cs : List Char) : List Char :=
  cs.takeWhile fun c => !endsAuthority web c

/-- What stands after the authority. -/
def beyondPart (web : Bool) (cs : List Char) : List Char :=
  cs.dropWhile fun c => !endsAuthority web c

/-- The user information in the authority, and the rest of the authority. -/
def userinfoPart (web : Bool) (cs : List Char) : List Char × List Char :=
  (splitUserinfo? (authorityPart web cs)).getD ([], authorityPart web cs)

/-- The host, and all that stands after it. -/
def hostPart (web : Bool) (cs : List Char) : List Char × List Char :=
  splitHost web false ((userinfoPart web cs).2 ++ beyondPart web cs)

/-- The port at the head of what stands after a host, and all that stands after the port. -/
def portPart (scheme : Scheme) (cs : List Char) : Except Defect (Option Nat × List Char) :=
  match cs with
  | ':' :: rest => parsePort scheme rest
  | rest => .ok (none, rest)

/-- The user name in the authority, encoded. -/
def usernamePart (web : Bool) (cs : List Char) : List Char :=
  Percent.encode inUserinfoSet ((userinfoPart web cs).1.takeWhile (· ≠ ':'))

/-- The password in the authority, encoded. -/
def passwordPart (web : Bool) (cs : List Char) : List Char :=
  Percent.encode inUserinfoSet (((userinfoPart web cs).1.dropWhile (· ≠ ':')).drop 1)

/-- The authority is an at sign and nothing else, and something stands after it. -/
def IsMark (web : Bool) (cs : List Char) : Prop :=
  (splitUserinfo? (authorityPart web cs)).isSome ∧ (userinfoPart web cs).1.isEmpty ∧
    (userinfoPart web cs).2.isEmpty ∧ !(beyondPart web cs).isEmpty

instance (web : Bool) (cs : List Char) : Decidable (IsMark web cs) :=
  inferInstanceAs (Decidable (_ ∧ _))

/-- The URL whose credentials a text spells, with the given host, port and tail. -/
def ofParts (scheme : Scheme) (cs : List Char) (host : Option Host) (port : Option Nat)
    (tail : List Char) : Url where
  scheme := scheme
  username := usernamePart scheme.isWeb cs
  password := passwordPart scheme.isWeb cs
  host := host
  port := port
  path := (parseTail scheme tail).1
  query := (parseTail scheme tail).2.1
  fragment := (parseTail scheme tail).2.2

/-- Without a colon there is no port. -/
theorem portPart_of_ne_colon {scheme : Scheme} {cs : List Char} (h : ∀ rest, cs ≠ ':' :: rest) :
    portPart scheme cs = .ok (none, cs) := by
  unfold portPart
  split
  · next rest => exact absurd rfl (h rest)
  · rfl

theorem parseAuthority_eq (scheme : Scheme) (cs : List Char) :
    parseAuthority scheme cs =
      if IsMark scheme.isWeb cs then .error .emptyHost
      else (parseHost scheme.isWeb (hostPart scheme.isWeb cs).1).bind fun host =>
        if host.isNone ∧ (hostPart scheme.isWeb cs).2.head? = some ':' then .error .emptyHost
        else (portPart scheme (hostPart scheme.isWeb cs).2).bind fun port =>
          if host.isNone ∧ (!(usernamePart scheme.isWeb cs).isEmpty ∨
              !(passwordPart scheme.isWeb cs).isEmpty) then .error .emptyHost
          else .ok (ofParts scheme cs host port.1 port.2) := by
  unfold parseAuthority
  dsimp only
  refine ite_congr rfl (fun _ => rfl) fun _ => ?_
  refine congrArg (Except.bind _) (funext fun host => ?_)
  refine ite_congr rfl (fun _ => rfl) fun _ => ?_
  unfold hostPart userinfoPart authorityPart beyondPart
  -- Whether there is a port decides how reading goes on.
  generalize (splitHost _ _ _).2 = rest
  split
  · rfl
  · next rest hrest =>
    rw [portPart_of_ne_colon hrest]
    rfl

/-- A text spells a URL exactly if its parts do, and then the URL comes from them. -/
theorem parseAuthority_eq_ok_iff {scheme : Scheme} {cs : List Char} {url : Url} :
    parseAuthority scheme cs = .ok url ↔
      ¬ IsMark scheme.isWeb cs ∧ ∃ host port tail,
        parseHost scheme.isWeb (hostPart scheme.isWeb cs).1 = .ok host ∧
        portPart scheme (hostPart scheme.isWeb cs).2 = .ok (port, tail) ∧
        (host = none → (hostPart scheme.isWeb cs).2.head? ≠ some ':' ∧
          usernamePart scheme.isWeb cs = [] ∧ passwordPart scheme.isWeb cs = []) ∧
        url = ofParts scheme cs host port tail := by
  rw [parseAuthority_eq, ite_error_eq_ok_iff]
  refine and_congr_right fun _ => ?_
  rw [bind_eq_ok_iff]
  constructor
  · rintro ⟨host, hhost, h⟩
    obtain ⟨hcolon, h⟩ := ite_error_eq_ok_iff.mp h
    obtain ⟨⟨port, tail⟩, hport, h⟩ := bind_eq_ok_iff.mp h
    obtain ⟨hcredentials, h⟩ := ite_error_eq_ok_iff.mp h
    refine ⟨host, port, tail, hhost, hport, ?_, (Except.ok.inj h).symm⟩
    rintro rfl
    simpa using And.intro hcolon hcredentials
  · rintro ⟨host, port, tail, hhost, hport, hnone, rfl⟩
    refine ⟨host, hhost, ite_error_eq_ok_iff.mpr ⟨?_, bind_eq_ok_iff.mpr
      ⟨(port, tail), hport, ite_error_eq_ok_iff.mpr ⟨?_, rfl⟩⟩⟩⟩
    · rintro ⟨hhost, hcolon⟩
      exact (hnone (Option.isNone_iff_eq_none.mp hhost)).1 hcolon
    · rintro ⟨hhost, hcredentials⟩
      have hempty := (hnone (Option.isNone_iff_eq_none.mp hhost)).2
      simp [hempty] at hcredentials

/-! ### Texts that leave out the host -/

@[simp] theorem isWeb_other (name : List Char) : (Scheme.other name).isWeb = false := rfl

/-- User information ends at an at sign. -/
theorem eq_append_of_splitUserinfo? {cs before after : List Char}
    (h : splitUserinfo? cs = some (before, after)) : cs = before ++ '@' :: after := by
  unfold splitUserinfo? at h
  split at h
  · cases h
  · next c rest hdrop =>
    obtain ⟨rfl, rfl⟩ := Prod.mk.inj (Option.some.inj h)
    -- The last at sign is the first one of the text read backwards.
    have hhead := List.head?_dropWhile_not (· ≠ '@') cs.reverse
    have hcs := List.takeWhile_append_dropWhile (p := (· ≠ '@')) (l := cs.reverse)
    rw [hdrop] at hhead hcs
    have hc : c = '@' := by simpa using hhead
    subst hc
    refine List.reverse_inj.mp (hcs.symm.trans ?_)
    rw [List.reverse_append, List.reverse_cons, List.reverse_reverse, List.reverse_reverse,
      List.append_assoc, List.singleton_append]

/-- An empty host is all that stands before the end of the authority or a colon. -/
theorem splitHost_of_fst_eq_nil {web : Bool} {cs : List Char} (h : (splitHost web false cs).1 = []) :
    (splitHost web false cs).2 = cs ∧
      ∀ c rest, cs = c :: rest → endsAuthority web c ∨ c = ':' := by
  cases cs with
  | nil => exact ⟨rfl, nofun⟩
  | cons c rest =>
    by_cases hc : endsAuthority web c ∨ c = ':'
    · have hsplit : splitHost web false (c :: rest) = ([], c :: rest) := by
        rw [splitHost, if_pos (by simpa using hc)]
      refine ⟨by rw [hsplit], ?_⟩
      rintro _ _ ⟨⟩
      exact hc
    · rw [splitHost, if_neg (by simpa using hc)] at h
      cases h

theorem parseHost_eq_none_iff {cs : List Char} : parseHost false cs = .ok none ↔ cs = [] := by
  constructor
  · intro h
    unfold parseHost at h
    split at h
    · rfl
    · split at h
      · split at h <;> cases h
      · cases h
    · rw [if_neg (by simp)] at h
      split at h <;> cases h
  · rintro rfl
    rfl

/-- The text has an authority without a host: an empty one, or one that gives an empty name and an
empty password. -/
def LeavesOutHost (cs : List Char) : Prop :=
  ∃ c rest, endsAuthority false c ∧ (cs = c :: rest ∨ cs = ':' :: '@' :: c :: rest)

theorem authorityPart_append_beyondPart (web : Bool) (cs : List Char) :
    authorityPart web cs ++ beyondPart web cs = cs := List.takeWhile_append_dropWhile

theorem not_endsAuthority_of_mem {web : Bool} {cs : List Char} {c : Char}
    (h : c ∈ authorityPart web cs) : ¬ endsAuthority web c := by
  simpa using List.mem_takeWhile_imp h

theorem endsAuthority_of_beyondPart {web : Bool} {cs rest : List Char} {c : Char}
    (h : beyondPart web cs = c :: rest) : endsAuthority web c := by
  have hhead := List.head?_dropWhile_not (fun c => !endsAuthority web c) cs
  rw [show cs.dropWhile _ = c :: rest from h] at hhead
  simpa using hhead

/-- The authority ends where something that ends it comes first. -/
theorem authorityPart_append {cs tail : List Char} (h : ∀ c ∈ cs, ¬ endsAuthority false c)
    (htail : ∀ c rest, tail = c :: rest → endsAuthority false c) :
    authorityPart false (cs ++ tail) = cs := by
  unfold authorityPart
  rw [List.takeWhile_append_of_pos (by simpa using h)]
  cases tail with
  | nil => simp
  | cons c rest => simp [htail c rest rfl]

/-- Either the authority has no user information, or an at sign ends it. -/
theorem userinfoPart_cases (web : Bool) (cs : List Char) :
    userinfoPart web cs = ([], authorityPart web cs) ∨
      (splitUserinfo? (authorityPart web cs)).isSome ∧
        authorityPart web cs = (userinfoPart web cs).1 ++ '@' :: (userinfoPart web cs).2 := by
  unfold userinfoPart
  cases hsplit : splitUserinfo? (authorityPart web cs) with
  | none => exact .inl rfl
  | some parts => exact .inr ⟨rfl, eq_append_of_splitUserinfo? hsplit⟩

/-- A URL without a host comes from a text that leaves it out, if anything ends the authority. -/
theorem leavesOutHost_of_host_eq_none {name cs : List Char} {url : Url}
    (h : parseAuthority (.other name) cs = .ok url) (hurl : url.host = none)
    (hbeyond : beyondPart false cs ≠ []) : LeavesOutHost cs := by
  obtain ⟨hmark, host, port, tail, hhost, -, hnone, rfl⟩ := parseAuthority_eq_ok_iff.mp h
  obtain rfl : host = none := hurl
  obtain ⟨hcolon, huser, hpass⟩ := hnone rfl
  rw [isWeb_other] at hmark hhost hcolon huser hpass
  obtain ⟨hrest, hhead⟩ := splitHost_of_fst_eq_nil (parseHost_eq_none_iff.mp hhost)
  have huser := Percent.encode_eq_nil_iff.mp huser
  have hpass := Percent.encode_eq_nil_iff.mp hpass
  obtain ⟨c, rest, hc⟩ := List.exists_cons_of_ne_nil hbeyond
  have hcs := authorityPart_append_beyondPart false cs
  change (hostPart false cs).2 = _ at hrest
  -- A colon would start a port, so nothing but the end of the authority can follow the host.
  have hafter : (userinfoPart false cs).2 = [] := by
    by_contra hne
    obtain ⟨d, after, hd⟩ := List.exists_cons_of_ne_nil hne
    rw [hd, List.cons_append] at hrest hhead
    have hmem : d ∈ authorityPart false cs := by
      rcases userinfoPart_cases false cs with heq | ⟨-, heq⟩
      · rw [heq] at hd
        exact (show authorityPart false cs = d :: after from hd) ▸ List.mem_cons_self
      · simp [heq, hd]
    rcases hhead d _ rfl with hends | rfl
    · exact not_endsAuthority_of_mem hmem hends
    · exact hcolon (by rw [hrest, List.head?_cons])
  refine ⟨c, rest, endsAuthority_of_beyondPart hc, ?_⟩
  rcases userinfoPart_cases false cs with heq | ⟨hsome, heq⟩
  · rw [heq] at hafter
    exact .inl (by rw [← hcs, show authorityPart false cs = [] from hafter, hc, List.nil_append])
  · right
    -- An empty name and an empty password are nothing but the colon between them.
    have hbefore : (userinfoPart false cs).1 = [':'] := by
      cases hbefore : (userinfoPart false cs).1 with
      | nil =>
        exact absurd ⟨hsome, by simp [hbefore], by simp [hafter], by simp [hc]⟩ hmark
      | cons d before =>
        rw [hbefore] at huser hpass
        have hd : d = ':' := by simpa [List.takeWhile_cons] using huser
        subst hd
        simpa [List.dropWhile_cons] using hpass
    rw [← hcs, heq, hbefore, hafter, hc]
    rfl

/-- A text that leaves out the host spells a URL. -/
theorem exists_of_leavesOutHost {cs : List Char} (name : List Char) (h : LeavesOutHost cs) :
    ∃ url, parseAuthority (.other name) cs = .ok url ∧ url.host = none := by
  obtain ⟨c, rest, hc, hcs⟩ := h
  have hends : ¬ endsAuthority false ':' ∧ ¬ endsAuthority false '@' := by decide
  have hcolon : c ≠ ':' := fun h => hends.1 (h ▸ hc)
  have hauthority : (authorityPart false cs = [] ∨ authorityPart false cs = [':', '@']) ∧
      beyondPart false cs = c :: rest := by
    unfold authorityPart beyondPart
    rcases hcs with rfl | rfl
    · simp [hc]
    · simp [hc, hends]
  have hparts : ¬ IsMark false cs ∧ (userinfoPart false cs).2 = [] ∧ usernamePart false cs = [] ∧
      passwordPart false cs = [] := by
    unfold IsMark usernamePart passwordPart userinfoPart
    rcases hauthority.1 with h | h <;> rw [h] <;> simp [splitUserinfo?]
  have hhost : hostPart false cs = ([], c :: rest) := by
    unfold hostPart
    rw [hparts.2.1, hauthority.2, List.nil_append, splitHost, if_pos (by simp [hc])]
  refine ⟨ofParts (.other name) cs none none (c :: rest), parseAuthority_eq_ok_iff.mpr ?_, rfl⟩
  rw [isWeb_other, hhost]
  exact ⟨hparts.1, none, none, c :: rest, rfl,
    portPart_of_ne_colon fun _ h => hcolon (List.cons.inj h).1,
    fun _ => ⟨by simpa using hcolon, hparts.2.2⟩, rfl⟩

/-! ### How hosts are written -/

/-- The character sets the parts of an authority apart, or ends it. -/
def IsDelimiter (c : Char) : Prop := endsAuthority false c ∨ c = '@'

instance (c : Char) : Decidable (IsDelimiter c) := inferInstanceAs (Decidable (_ ∨ _))

theorem isDelimiter_iff {c : Char} : IsDelimiter c ↔ c = '/' ∨ c = '?' ∨ c = '#' ∨ c = '@' := by
  simp [IsDelimiter, endsAuthority, or_assoc]

/-- A literal holds no delimiter. -/
theorem not_isDelimiter_of_isLiteralChar {c : Char} (h : Ipv6.IsLiteralChar c) :
    ¬ IsDelimiter c := by
  rw [isDelimiter_iff]
  unfold Ipv6.IsLiteralChar at h
  rintro (rfl | rfl | rfl | rfl) <;> revert h <;> decide

theorem not_isDelimiter_upperDigit : ∀ n < 16, ¬ IsDelimiter (Hex.upperDigit n) := by decide

/-- A host is written without delimiters. -/
theorem not_isDelimiter_of_parseHost {cs : List Char} {host : Host}
    (h : parseHost false cs = .ok (some host)) : ∀ c ∈ host.write, ¬ IsDelimiter c := by
  intro c hc
  unfold parseHost at h
  split at h
  · cases h
  · split at h
    · split at h
      · cases h
        simp only [Host.write, List.mem_cons, List.mem_append, List.not_mem_nil, or_false] at hc
        rcases hc with rfl | hc | rfl
        · decide
        · exact not_isDelimiter_of_isLiteralChar (Ipv6.isLiteralChar_of_mem_write hc)
        · decide
      · cases h
    · cases h
  · rw [if_neg (by simp)] at h
    split at h
    · cases h
    · next hallowed =>
      cases h
      rcases Percent.mem_encode hc with ⟨hmem, -⟩ | rfl | ⟨n, hn, rfl⟩
      · rw [isDelimiter_iff]
        have hc : ¬ isForbiddenInHost c := fun hc => hallowed (List.any_eq_true.mpr ⟨c, hmem, hc⟩)
        rintro (rfl | rfl | rfl | rfl) <;> revert hc <;> decide
      · decide
      · exact not_isDelimiter_upperDigit n hn

end ServiceBroker.Url

import ServiceBroker.Proofs.Broker.Address
import ServiceBroker.Proofs.Url.Path

/-!
# The credentials in a connection URL

An application may take the credentials from the URL of its connection document or from the fields
beside it. This file says when the two agree. Encoding leaves percent signs as they are, so a user
name or a password in which a percent sign stands may be read back as another.

## Main definitions

* `Url.credentialTexts`: the user name and the password in the text of a URL

## Main results

* `Url.credentialTexts_write`: the texts that stand in a URL without delimiters in its host
* `Broker.credentials_read_back_iff`: which credentials are read back from the URL of a binding
-/

namespace ServiceBroker

namespace Url

/-! ### Reading the text of a URL -/

/-- The authority in the text of a URL stands between the two slashes and the path. -/
def authorityText (cs : List Char) : List Char :=
  authorityPart false ((cs.dropWhile (· ≠ ':')).drop 3)

/-- The user information in the text of a URL, which is empty if no at sign follows it. -/
def userinfoText (cs : List Char) : List Char :=
  if '@' ∈ authorityText cs then (cutAt (· == '@') (authorityText cs)).1 else []

/-- The user name and the password in the text of a URL, the first colon between them. -/
def credentialTexts (cs : List Char) : List Char × List Char := cutAt (· == ':') (userinfoText cs)

theorem cutAt_of_not_mem {c : Char} {cs : List Char} (h : c ∉ cs) :
    cutAt (· == c) cs = (cs, []) := by
  induction cs with
  | nil => rfl
  | cons d cs ih =>
    obtain ⟨hd, hcs⟩ := not_or.mp (mt List.mem_cons.mpr h)
    rw [cutAt, if_neg (by simpa using Ne.symm hd), ih hcs]

theorem cutAt_append {c : Char} {cs : List Char} (h : c ∉ cs) (rest : List Char) :
    cutAt (· == c) (cs ++ c :: rest) = (cs, rest) := by
  induction cs with
  | nil => simp [cutAt]
  | cons d cs ih =>
    obtain ⟨hd, hcs⟩ := not_or.mp (mt List.mem_cons.mpr h)
    rw [List.cons_append, cutAt, if_neg (by simpa using Ne.symm hd), ih hcs]

/-! ### Writing a URL -/

theorem not_inUserinfoSet_upperDigit : ∀ n < 16, ¬ inUserinfoSet (Hex.upperDigit n) := by decide

/-- Neither a delimiter nor a colon stands in encoded user information. -/
theorem not_mem_encode_inUserinfoSet {c : Char} (h : IsDelimiter c ∨ c = ':') (cs : List Char) :
    c ∉ Percent.encode inUserinfoSet cs := by
  refine Percent.not_mem_encode ?_ (by decide) not_inUserinfoSet_upperDigit cs
  rw [isDelimiter_iff] at h
  rcases h with (rfl | rfl | rfl | rfl) | rfl <;> decide

theorem not_isDelimiter_of_mem_toDigits {n : Nat} {c : Char} (h : c ∈ Nat.toDigits 10 n) :
    ¬ IsDelimiter c := by
  have hdigit := Nat.isDigit_of_mem_toDigits (by decide) (by decide) h
  rw [isDelimiter_iff]
  rintro (rfl | rfl | rfl | rfl) <;> revert hdigit <;> decide

/-- The host and the port are written without delimiters if the host is. -/
theorem not_isDelimiter_of_mem_hostAndPort {url : Url}
    (hhost : ∀ host, url.host = some host → ∀ c ∈ host.write, ¬ IsDelimiter c) :
    ∀ c ∈ url.hostAndPort, ¬ IsDelimiter c := by
  intro c hc
  unfold hostAndPort at hc
  rcases List.mem_append.mp hc with hc | hc
  · cases hurl : url.host with
    | none =>
      rw [hurl] at hc
      cases hc
    | some host =>
      rw [hurl] at hc
      exact hhost host hurl c hc
  · split at hc
    · cases hc
    · rcases List.mem_cons.mp hc with rfl | hc
      · decide
      · exact not_isDelimiter_of_mem_toDigits hc

/-- What is written after the port ends the authority. -/
theorem endsAuthority_of_tail {url : Url} (hpath : url.path = [] ∨ ∃ rest, url.path = '/' :: rest)
    {c : Char} {rest : List Char}
    (h : url.path ++ writePart '?' url.query ++ writePart '#' url.fragment = c :: rest) :
    endsAuthority false c := by
  rcases hpath with hpath | ⟨path, hpath⟩
  · rw [hpath] at h
    cases hquery : url.query with
    | some query =>
      rw [hquery] at h
      obtain ⟨rfl, -⟩ := List.cons.inj h
      rfl
    | none =>
      rw [hquery] at h
      cases hfragment : url.fragment with
      | some fragment =>
        rw [hfragment] at h
        obtain ⟨rfl, -⟩ := List.cons.inj h
        rfl
      | none =>
        rw [hfragment] at h
        cases h
  · rw [hpath] at h
    obtain ⟨rfl, -⟩ := List.cons.inj h
    rfl

/-- The authority in a URL that is written, if delimiters are only where they belong. -/
theorem authorityText_write {url : Url} (hscheme : ':' ∉ url.scheme.write)
    (huser : ∀ c ∈ url.userinfo, ¬ endsAuthority false c)
    (hhost : ∀ c ∈ url.hostAndPort, ¬ endsAuthority false c)
    (hpath : url.path = [] ∨ ∃ rest, url.path = '/' :: rest) :
    authorityText url.write = url.userinfo ++ url.hostAndPort := by
  have hwrite : url.write = url.scheme.write ++ ':' :: '/' :: '/' ::
      (url.userinfo ++ url.hostAndPort ++
        (url.path ++ writePart '?' url.query ++ writePart '#' url.fragment)) := by
    unfold write
    simp only [List.append_assoc]
    rfl
  unfold authorityText
  rw [hwrite, List.dropWhile_append_of_pos (by
    intro c hc
    simpa using ne_of_mem_of_not_mem hc hscheme)]
  refine authorityPart_append ?_ fun c rest => endsAuthority_of_tail hpath
  intro c hc
  rcases List.mem_append.mp hc with hc | hc
  · exact huser c hc
  · exact hhost c hc

/-- The user information that is written, if there is any, ends at an at sign. -/
theorem userinfo_eq (url : Url) :
    (url.username = [] ∧ url.password = [] ∧ url.userinfo = []) ∨
      (url.password = [] ∧ url.userinfo = url.username ++ ['@']) ∨
      url.userinfo = (url.username ++ ':' :: url.password) ++ ['@'] := by
  unfold userinfo
  split_ifs with hpass huser
  · exact .inl ⟨List.isEmpty_iff.mp huser, List.isEmpty_iff.mp hpass, rfl⟩
  · exact .inr (.inl ⟨List.isEmpty_iff.mp hpass, rfl⟩)
  · exact .inr (.inr (by simp))

/-- The credentials in a URL that is written, if delimiters are only where they belong. -/
theorem credentialTexts_write {url : Url} (hscheme : ':' ∉ url.scheme.write)
    (huser : ∀ c, IsDelimiter c ∨ c = ':' → c ∉ url.username)
    (hpass : ∀ c, IsDelimiter c → c ∉ url.password)
    (hhost : ∀ c ∈ url.hostAndPort, ¬ IsDelimiter c)
    (hpath : url.path = [] ∨ ∃ rest, url.path = '/' :: rest) :
    credentialTexts url.write = (url.username, url.password) := by
  have huserinfo : ∀ c ∈ url.userinfo, ¬ endsAuthority false c := by
    intro c hc hends
    have hcolon : c ≠ ':' := by
      rintro rfl
      revert hends
      decide
    have hat : c ≠ '@' := by
      rintro rfl
      revert hends
      decide
    -- The separators that are written end no authority, and the credentials hold nothing that does.
    rcases userinfo_eq url with ⟨-, -, h⟩ | ⟨-, h⟩ | h <;> rw [h] at hc <;>
      simp [hcolon, hat, huser c (.inl (.inl hends)), hpass c (.inl hends)] at hc
  have hauthority := authorityText_write hscheme huserinfo
    (fun c hc hends => hhost c hc (.inl hends)) hpath
  have hat := huser '@' (.inl (.inr rfl))
  have hat' := hpass '@' (.inr rfl)
  have hcolon := huser ':' (.inr rfl)
  unfold credentialTexts userinfoText
  rw [hauthority]
  rcases userinfo_eq url with ⟨hu, hp, h⟩ | ⟨hp, h⟩ | h
  · rw [h, hu, hp, List.nil_append, if_neg fun hmem => hhost '@' hmem (.inr rfl)]
    rfl
  · rw [h, hp, List.append_assoc, List.singleton_append, if_pos (by simp), cutAt_append hat,
      cutAt_of_not_mem hcolon]
  · rw [h, List.append_assoc (_ ++ _), List.singleton_append, if_pos (by simp),
      cutAt_append (by simp [hat, hat']), cutAt_append hcolon]

end Url

namespace Connection

/-- The parts of a connection URL that come from the address and the database. -/
theorem parts_of_base {host database : String} {url : Url} (h : base host database = .ok url) :
    url.scheme = .other scheme.toList ∧ (∀ c ∈ url.hostAndPort, ¬ Url.IsDelimiter c) ∧
      (url.path = [] ∨ ∃ rest, url.path = '/' :: rest) := by
  obtain ⟨-, parsed, hparsed, rfl⟩ := base_eq_ok_iff.mp h
  obtain ⟨-, parsedHost, port, tail, hhost, -, -, rfl⟩ := Url.parseAuthority_eq_ok_iff.mp hparsed
  refine ⟨rfl, Url.not_isDelimiter_of_mem_hostAndPort ?_, Url.path_setPath rfl database⟩
  rintro host' rfl
  exact Url.not_isDelimiter_of_parseHost hhost

/-- The credentials in the URL of a connection document are those beside it, encoded. -/
theorem credentialTexts_uri {details : Cluster.Details} {host database : String} {url : Url}
    {credential : Credential} {c : Connection} (hbase : base host database = .ok url)
    (h : ofCredential details url credential = .ok c) :
    Url.credentialTexts c.uri.toList =
      (Percent.encode Url.inUserinfoSet c.username.toList,
        Percent.encode Url.inUserinfoSet c.password.toList) := by
  obtain ⟨hscheme, hhost, hpath⟩ := parts_of_base hbase
  by_cases hnone : url.host = none
  · rw [ofCredential_of_host_eq_none hnone] at h
    cases h
  · rw [ofCredential_of_host_ne_none hnone] at h
    obtain rfl := Except.ok.inj h
    rw [String.toList_ofList]
    refine Url.credentialTexts_write ?_ ?_ ?_ hhost hpath
    · change ':' ∉ url.scheme.write
      rw [hscheme]
      decide
    · exact fun c hc => Url.not_mem_encode_inUserinfoSet hc _
    · exact fun c hc => Url.not_mem_encode_inUserinfoSet (.inl hc) _

end Connection

namespace Broker

open Program (Run)

/-- The credentials of a connection document are read back from its URL exactly if nothing in them
looks like an encoded byte. A reader for whom every percent sign has to introduce an encoded byte
reads them back exactly if no percent sign stands in them. -/
theorem credentials_read_back_iff {instanceId bindingId : String} {r : BindRequest}
    {trace : List (Program.Event effects)} {c : Connection}
    (h : Run (bind instanceId bindingId r) trace (.ok c)) :
    ((Percent.decode (Url.credentialTexts c.uri.toList).1 = Utf8.bytes c.username ∧
        Percent.decode (Url.credentialTexts c.uri.toList).2 = Utf8.bytes c.password) ↔
      ¬ Percent.HasEscape (Utf8.bytes c.username) ∧ ¬ Percent.HasEscape (Utf8.bytes c.password)) ∧
    ((Percent.decodeStrict? (Utf8.encode (Url.credentialTexts c.uri.toList).1) =
          some (Utf8.bytes c.username) ∧
        Percent.decodeStrict? (Utf8.encode (Url.credentialTexts c.uri.toList).2) =
          some (Utf8.bytes c.password)) ↔
      '%' ∉ c.username.toList ∧ '%' ∉ c.password.toList) := by
  have hpercent : ¬ Url.inUserinfoSet '%' := by decide
  have hhex (d : Char) : Percent.IsHexChar d → ¬ Url.inUserinfoSet d :=
    Url.not_inUserinfoSet_of_isHexChar
  generalize hresult : (Except.ok c : Except Failure Connection) = result at h
  -- Only a binding that has come to its end gives a document.
  cases run_bind_iff_binds.mp h with
  | unknown failure => cases hresult
  | badAddress details hbase => cases hresult
  | refused details failure hbase => cases hresult
  | created details credential hbase =>
    rw [Connection.credentialTexts_uri hbase hresult.symm, Percent.decode_encode hpercent hhex,
      Percent.decode_encode hpercent hhex]
    unfold Utf8.bytes
    rw [Percent.decodeStrict?_encode_eq_iff hpercent hhex,
      Percent.decodeStrict?_encode_eq_iff hpercent hhex]
    exact ⟨and_congr (Percent.decodeBytes_eq_self_iff _) (Percent.decodeBytes_eq_self_iff _),
      Iff.rfl⟩

/-- A password in which two digits follow a percent sign is not read back. -/
theorem password_not_read_back :
    ∃ trace c, Run (bind "i" "b" ⟨"service", "plan", none, none, none⟩) trace (.ok c) ∧
      c.username = "alice" ∧ c.password = "p%41ss" ∧
      ¬ (Percent.decode (Url.credentialTexts c.uri.toList).1 = Utf8.bytes c.username ∧
        Percent.decode (Url.credentialTexts c.uri.toList).2 = Utf8.bytes c.password) := by
  have hpasses : (Connection.base "10.96.0.12" "userdb").isOk := by decide +kernel
  cases hbase : Connection.base "10.96.0.12" "userdb" with
  | error failure =>
    rw [hbase] at hpasses
    cases hpasses
  | ok url =>
    have hhost : url.host ≠ none :=
      mt (Connection.base_host_eq_none_iff hbase).mp (Connection.not_hidesHost (by simp [Url.endsAuthority]))
    have hbinds : Binds "i" "b" ⟨"service", "plan", none, none, none⟩ _ _ :=
      .created ⟨"c", "c", "10.96.0.12", "", "userdb"⟩ ⟨"alice", "p%41ss"⟩ hbase
    have hrun := run_bind_iff_binds.mpr hbinds
    rw [Connection.ofCredential_of_host_ne_none hhost] at hrun
    refine ⟨_, _, hrun, rfl, rfl, fun hread => ?_⟩
    refine ((credentials_read_back_iff hrun).1.mp hread).2 ?_
    change Percent.HasEscape (Utf8.bytes "p%41ss")
    exact ⟨[0x70], 0x34, 0x31, [0x73, 0x73], by decide, by decide, by decide⟩

end Broker

end ServiceBroker

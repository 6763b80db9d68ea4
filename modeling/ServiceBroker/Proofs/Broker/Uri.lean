import ServiceBroker.Proofs.Broker.Credentials
import ServiceBroker.Proofs.Broker.Endpoint

/-!
# The text of a connection URL

At an ordinary endpoint, whose host is an address or a name and whose database is a name, a
connection document can be made for every credential. Its URL is put together from the scheme, the
credentials, the host, the port and the database, and nothing in the credentials reaches beyond the
at sign that stands after them. An IPv6 address is written twice on the way, and comes to be another
literal of the same address.

## Main definitions

* `Connection.IsOrdinaryHost`, `Connection.IsOrdinaryDatabase`: the endpoints that are considered
* `Connection.IsWritten`: how the host stands in the URL
* `Connection.IsUserinfo`: how the credentials stand in the URL

## Main results

* `Url.path_setPath_of_name`: a name is the path that it is set as
* `Connection.exists_base_of_parseHost`: a host that can be read passes the check
* `Connection.exists_uri_of_ordinary`: the URL of a connection document at an ordinary endpoint
-/

namespace ServiceBroker

namespace Url

/-! ### Names -/

/-- The character is an ASCII letter, a digit, a hyphen or an underscore. -/
def IsNameChar (c : Char) : Prop := c.isAlphanum ∨ c = '-' ∨ c = '_'

instance (c : Char) : Decidable (IsNameChar c) := inferInstanceAs (Decidable (_ ∨ _))

theorem IsNameChar.lt {c : Char} (h : IsNameChar c) : c.toNat < 128 := by
  have hlt {last : Char} (hlast : last.toNat < 128) (h : c.val ≤ last.val) : c.toNat < 128 :=
    Nat.lt_of_le_of_lt (UInt32.le_iff_toNat_le.mp h) hlast
  rcases h with h | rfl | rfl
  · rcases Bool.or_eq_true_iff.mp h with h | h
    · rcases Bool.or_eq_true_iff.mp h with h | h
      · exact hlt (by decide) (of_decide_eq_true h).2
      · exact hlt (by decide) (of_decide_eq_true (Bool.and_eq_true_iff.mp h).2)
    · exact hlt (by decide) (of_decide_eq_true (Bool.and_eq_true_iff.mp h).2)
  · decide
  · decide

theorem isNameChar_of_isDecimalDigit {c : Char} (h : isDecimalDigit c) : IsNameChar c :=
  .inl (Bool.or_eq_true_iff.mpr (.inr h))

/-- Names and points are allowed in a host, and are not encoded in a path. -/
theorem plain_of_isNameChar {c : Char} (h : IsNameChar c ∨ c = '.') :
    ¬ isForbiddenInHost c ∧ ¬ inPathSet c := by
  have hlt : c.toNat < 128 := by
    rcases h with h | rfl
    · exact h.lt
    · decide
  have hall : ∀ c : Char, c.toNat < 128 → IsNameChar c ∨ c = '.' →
      ¬ isForbiddenInHost c ∧ ¬ inPathSet c := Utf8.forall_ascii (by decide +kernel)
  exact hall c hlt h

/-- A text of names and points is a host. -/
theorem parseHost_of_names {cs : List Char} (hne : cs ≠ [])
    (h : ∀ c ∈ cs, IsNameChar c ∨ c = '.') : parseHost false cs = .ok (some (.name cs)) := by
  have hself : Percent.encode inControlSet cs = cs := by
    refine Percent.encode_eq_self fun c hc hcontrol => (plain_of_isNameChar (h c hc)).2 ?_
    rw [inPathSet, inFragmentSet, hcontrol]
    rfl
  rw [parseHost_of_allowed hne fun c hc => (plain_of_isNameChar (h c hc)).1, hself]

/-- Segments of dots start with a dot or with a percent sign. -/
theorem Path.exists_cons_of_isDots {segment : List Char} (h : IsDots segment) :
    ∃ c rest, segment = c :: rest ∧ (c = '.' ∨ c = '%') := by
  unfold IsDots isTwoDots isDot at h
  rcases h with h | h
  · split at h
    · exact ⟨_, _, rfl, .inl rfl⟩
    · exact ⟨_, _, rfl, .inr rfl⟩
    · exact ⟨_, _, rfl, .inr rfl⟩
    · cases h
  · split at h
    · exact ⟨_, _, rfl, .inl rfl⟩
    · exact ⟨_, _, rfl, .inr rfl⟩
    · exact ⟨_, _, rfl, .inr rfl⟩
    · cases h

/-- A name is the path that it is set as, after a slash. -/
theorem path_setPath_of_name {url : Url} (h : url.scheme.isWeb = false) {text : String}
    (hne : text ≠ "") (hname : ∀ c ∈ text.toList, IsNameChar c) :
    (url.setPath text).path = '/' :: text.toList := by
  have hallowed {c : Char} (hc : isForbiddenInHost c) : c ∉ text.toList :=
    fun hmem => (plain_of_isNameChar (.inl (hname c hmem))).1 hc
  have hself : Percent.encode inPathSet text.toList = text.toList :=
    Percent.encode_eq_self fun c hc => (plain_of_isNameChar (.inl (hname c hc))).2
  have hsegments : Path.segmentsOf text.toList = [text.toList] := by
    rw [Path.segmentsOf, splitAt_of_not_mem (hallowed (by decide)), List.map_singleton, hself]
  have hdots : ∀ segment ∈ Path.segmentsOf text.toList, ¬ Path.IsDots segment := by
    rw [hsegments]
    intro segment hsegment hdot
    obtain rfl := List.mem_singleton.mp hsegment
    obtain ⟨c, rest, htext, hc⟩ := Path.exists_cons_of_isDots hdot
    have hmem := hname c (htext ▸ List.mem_cons_self)
    rcases hc with rfl | rfl <;> revert hmem <;> decide
  obtain ⟨c, rest, htext⟩ := List.exists_cons_of_ne_nil (mt String.toList_eq_nil_iff.mp hne)
  have hfirst {d : Char} (hd : isForbiddenInHost d) : c ≠ d := by
    rintro rfl
    exact hallowed hd (htext ▸ List.mem_cons_self)
  have hkept : ∀ c ∈ text.toList, ¬ isDropped c := fun c hc hdropped =>
    hallowed (isForbiddenInHost_of_isStray (.inr (.inr hdropped))) hc
  rw [path_setPath_eq h htext ⟨hfirst (by decide), hfirst (by decide), hfirst (by decide)⟩ hkept,
    Path.ofText_eq, Path.normalize_eq hdots, Path.closed_nil, hsegments, List.intercalate_singleton,
    List.singleton_append]

end Url

namespace Connection

variable {host database : String} {url : Url} {credential : Credential}

/-! ### Ordinary endpoints -/

/-- The host of an ordinary endpoint is an IPv4 address, an IPv6 address without brackets, or made
of names and points. -/
inductive IsOrdinaryHost (host : String) : Prop where
  | ipv4 {pieces : List UInt16} (h : Ipv6.dotted? host.toList = some pieces)
  | ipv6 {a : Ipv6} (h : Ipv6.parse? host.toList = some a)
  | name (hne : host ≠ "") (h : ∀ c ∈ host.toList, Url.IsNameChar c ∨ c = '.')

/-- The database of an ordinary endpoint is a name. -/
structure IsOrdinaryDatabase (database : String) : Prop where
  ne_empty : database ≠ ""
  name : ∀ c ∈ database.toList, Url.IsNameChar c

/-- `IsWritten host cs`: a host stands in a URL as it is, but for an IPv6 address, of which some
literal stands there in brackets. -/
inductive IsWritten (host : String) : List Char → Prop where
  | literal {a : Ipv6} {cs : List Char} (h : Ipv6.parse? host.toList = some a)
      (hcs : Ipv6.parse? cs = some a) : IsWritten host ('[' :: (cs ++ [']']))
  | name (h : Ipv6.parse? host.toList = none) : IsWritten host host.toList

/-- An ordinary host that is no IPv6 address is made of names and points. -/
theorem IsOrdinaryHost.cases (h : IsOrdinaryHost host) :
    (∃ a, Ipv6.parse? host.toList = some a) ∨ Ipv6.parse? host.toList = none ∧ host ≠ "" ∧
      ∀ c ∈ host.toList, Url.IsNameChar c ∨ c = '.' := by
  have hname (hne : host ≠ "") (h : ∀ c ∈ host.toList, Url.IsNameChar c ∨ c = '.') :
      Ipv6.parse? host.toList = none := by
    rw [Option.eq_none_iff_forall_ne_some]
    exact fun a ha => absurd (h ':' (Ipv6.colon_mem_of_parse? ha)) (by decide)
  cases h with
  | @ipv4 pieces h =>
    have hne : host ≠ "" := by
      rintro rfl
      cases h
    have hchars : ∀ c ∈ host.toList, Url.IsNameChar c ∨ c = '.' := fun c hc =>
      (Ipv6.isDecimalDigit_of_dotted? h c hc).imp_left Url.isNameChar_of_isDecimalDigit
    exact .inr ⟨hname hne hchars, hne, hchars⟩
  | @ipv6 a h => exact .inl ⟨a, h⟩
  | name hne h => exact .inr ⟨hname hne h, hne, h⟩

theorem IsOrdinaryHost.ne_empty (h : IsOrdinaryHost host) : host ≠ "" := by
  rcases h.cases with ⟨a, ha⟩ | ⟨-, hne, -⟩
  · rintro rfl
    cases ha
  · exact hne

theorem IsOrdinaryHost.not_isStray (h : IsOrdinaryHost host) :
    ∀ c ∈ host.toList, ¬ Url.IsStray c := by
  rcases h.cases with ⟨a, ha⟩ | ⟨-, -, hchars⟩
  · exact fun c hc => Url.not_isStray_of_isLiteralChar (Ipv6.isLiteralChar_of_parse? ha c hc)
  · exact fun c hc hstray =>
      (Url.plain_of_isNameChar (hchars c hc)).1 (Url.isForbiddenInHost_of_isStray hstray)

/-- The text of an ordinary host can be read, and what is read is written as some text for it. -/
theorem IsOrdinaryHost.exists_parseHost (h : IsOrdinaryHost host) : ∃ parsed,
    Url.parseHost false (authority host).toList = .ok (some parsed) ∧
      IsWritten host parsed.write := by
  rcases h.cases with ⟨a, ha⟩ | ⟨hliteral, hne, hchars⟩
  · have hlength := Ipv6.length_of_parse? ha
    refine ⟨.ipv6 a, ?_, .literal ha (Ipv6.parse?_write hlength)⟩
    rw [toList_authority_of_literal ha]
    exact Url.parseHost_brackets (Ipv6.parse?_display hlength)
  · refine ⟨.name host.toList, ?_, .name hliteral⟩
    rw [authority_of_not_literal hliteral]
    exact Url.parseHost_of_names (mt String.toList_eq_nil_iff.mp hne) hchars

/-! ### The connection URL -/

/-- If the text of a host can be read, the host passes the check. -/
theorem exists_base_of_parseHost {parsed : Url.Host} (hne : host ≠ "")
    (h : Url.parseHost false (authority host).toList = .ok (some parsed)) (database : String) :
    ∃ url, base host database = .ok url := by
  have hclean : Url.clean (authority host).toList = (authority host).toList :=
    Url.clean_eq_self_iff.mpr fun c hc hdropped =>
      Url.not_isStray_of_parseHost h c hc (.inr (.inr hdropped))
  have hread : Url.parseAuthority (.other scheme.toList)
      ((authority host).toList ++ ":5432/".toList) = _ :=
    Url.parseAuthority_of_parseHost h (by decide) rfl
  rw [← hclean] at hread
  exact ⟨_, base_eq_ok_iff.mpr ⟨hne, _, hread, rfl⟩⟩

theorem IsOrdinaryHost.exists_base (h : IsOrdinaryHost host) (database : String) :
    ∃ url, base host database = .ok url := by
  obtain ⟨parsed, hparsed, -⟩ := h.exists_parseHost
  exact exists_base_of_parseHost h.ne_empty hparsed database

theorem IsOrdinaryHost.advertises (h : IsOrdinaryHost host) (hbase : base host database = .ok url) :
    Advertises url host := advertises_of_not_isStray hbase h.not_isStray

theorem Advertises.host_ne_none (h : Advertises url host) : url.host ≠ none := by
  rw [h.host]
  exact Option.some_ne_none _

/-- The path of a connection URL is the database. -/
theorem path_of_base (hbase : base host database = .ok url) (h : IsOrdinaryDatabase database) :
    url.path = '/' :: database.toList := by
  obtain ⟨-, parsed, hparsed, rfl⟩ := base_eq_ok_iff.mp hbase
  obtain ⟨-, _, _, _, -, -, -, rfl⟩ := Url.parseAuthority_eq_ok_iff.mp hparsed
  exact Url.path_setPath_of_name rfl h.ne_empty h.name

/-- The text of a URL that names a host. -/
theorem Advertises.write_eq (h : Advertises url host)
    (hscheme : url.scheme = .other scheme.toList) :
    url.write = "postgresql://".toList ++ url.userinfo ++ (Url.hostOf host.toList).write ++
      ":5432".toList ++ url.path := by
  have hname : (Url.Scheme.other scheme.toList).write ++ "://".toList =
      "postgresql://".toList := rfl
  have hdigits : ':' :: Nat.toDigits 10 databasePort = ":5432".toList := by decide
  rw [Url.write, Url.hostAndPort, hscheme, h.host, h.port, h.query, h.fragment, hname]
  simp only [Option.map_some, Option.getD_some, hdigits, Url.writePart, List.append_nil,
    List.append_assoc]

/-! ### Credentials in a URL -/

/-- The character is visible and in ASCII, and it sets nothing apart but user information. -/
def IsVisible (c : Char) : Prop :=
  32 < c.toNat ∧ c.toNat < 127 ∧ c ∉ ['/', '?', '#', '[', ']']

instance (c : Char) : Decidable (IsVisible c) := inferInstanceAs (Decidable (_ ∧ _))

/-- What stands before the host for a credential: nothing if both its parts are empty, and else
something that ends in its only at sign. -/
structure IsUserinfo (credential : Credential) (info : List Char) : Prop where
  empty : credential.username = "" ∧ credential.password = "" → info = []
  mark : ¬ (credential.username = "" ∧ credential.password = "") →
    ∃ front, info = front ++ ['@'] ∧ '@' ∉ front
  colon : info.count ':' ≤ 1
  visible : ∀ c ∈ info, IsVisible c

theorem isVisible_upperDigit : ∀ n < 16, IsVisible (Hex.upperDigit n) := by decide

/-- What is not encoded in user information is visible. -/
theorem isVisible_of_not_inUserinfoSet {c : Char} (h : ¬ Url.inUserinfoSet c) : IsVisible c := by
  have hne {d : Char} (hd : Url.inUserinfoSet d) : c ≠ d := by
    rintro rfl
    exact h hd
  have hspace : c.toNat ≠ ' '.toNat := fun hc => hne (by decide) (Char.toNat_inj.mp hc)
  have hcontrol : ¬ Url.inControlSet c :=
    fun hc => h (by simp [Url.inUserinfoSet, Url.inPathSet, Url.inFragmentSet, hc])
  simp only [Url.inControlSet, Bool.or_eq_true, decide_eq_true_eq, not_or] at hcontrol
  have hcode : ' '.toNat = 32 := rfl
  refine ⟨by omega, by omega, ?_⟩
  simp only [List.mem_cons, List.not_mem_nil, or_false, not_or]
  exact ⟨hne (by decide), hne (by decide), hne (by decide), hne (by decide), hne (by decide)⟩

theorem isVisible_of_mem_encode {cs : List Char} :
    ∀ c ∈ Percent.encode Url.inUserinfoSet cs, IsVisible c := by
  intro c hc
  rcases Percent.mem_encode hc with ⟨-, hplain⟩ | rfl | ⟨n, hn, rfl⟩
  · exact isVisible_of_not_inUserinfoSet hplain
  · decide
  · exact isVisible_upperDigit n hn

/-- The credentials that are set become the user information of a URL. -/
theorem isUserinfo_userinfo (url : Url) (credential : Credential) : IsUserinfo credential
    { url with
      username := Percent.encode Url.inUserinfoSet credential.username.toList
      password := Percent.encode Url.inUserinfoSet credential.password.toList }.userinfo := by
  have hat (text : String) : '@' ∉ Percent.encode Url.inUserinfoSet text.toList :=
    Url.not_mem_encode_inUserinfoSet (.inl (.inr rfl)) _
  have hcolon (text : String) : (Percent.encode Url.inUserinfoSet text.toList).count ':' = 0 :=
    List.count_eq_zero.mpr (Url.not_mem_encode_inUserinfoSet (.inr rfl) _)
  have hempty (text : String) :
      (Percent.encode Url.inUserinfoSet text.toList).isEmpty ↔ text = "" := by
    rw [List.isEmpty_iff, Percent.encode_eq_nil_iff, String.toList_eq_nil_iff]
  have hmark : ∀ c ∈ ['@'], IsVisible c := List.forall_mem_singleton.mpr (by decide)
  unfold Url.userinfo
  dsimp only
  split_ifs with hpass huser
  · have hnone := And.intro ((hempty _).mp huser) ((hempty _).mp hpass)
    exact ⟨fun _ => rfl, fun h => absurd hnone h, by decide, nofun⟩
  · refine ⟨fun h => absurd ((hempty _).mpr h.1) huser, fun _ => ⟨_, rfl, hat _⟩, ?_, ?_⟩
    · simp [hcolon]
    · exact List.forall_mem_append.mpr ⟨isVisible_of_mem_encode, hmark⟩
  · refine ⟨fun h => absurd ((hempty _).mpr h.2) hpass, fun _ => ?_, ?_, ?_⟩
    · exact ⟨_, (List.append_assoc _ (':' :: _) ['@']).symm, by simp [hat]⟩
    · simp [hcolon]
    · refine List.forall_mem_append.mpr ⟨isVisible_of_mem_encode, ?_⟩
      refine List.forall_mem_cons.mpr ⟨by decide, ?_⟩
      exact List.forall_mem_append.mpr ⟨isVisible_of_mem_encode, hmark⟩

/-! ### Documents at ordinary endpoints -/

/-- An ordinary endpoint passes the check, and every credential gives a document there. Its URL is
put together from the parts, the host stands in it in the same way for every credential, and nothing
in the credentials reaches beyond the at sign that stands after them. -/
theorem exists_uri_of_ordinary {details : Cluster.Details}
    (hhost : IsOrdinaryHost details.advertisedHost)
    (hdatabase : IsOrdinaryDatabase details.database) :
    ∃ url host, base details.advertisedHost details.database = .ok url ∧
      IsWritten details.advertisedHost host ∧
      ∀ credential, ∃ c info, ofCredential details url credential = .ok c ∧
        IsUserinfo credential info ∧
        c.uri.toList = "postgresql://".toList ++ info ++ host ++ ":5432/".toList ++
          details.database.toList := by
  obtain ⟨parsed, hparsed, hwritten⟩ := hhost.exists_parseHost
  obtain ⟨url, hbase⟩ := hhost.exists_base details.database
  have hnamed := hhost.advertises hbase
  obtain rfl := eq_hostOf_of_parseHost_authority hparsed
  refine ⟨url, _, hbase, hwritten, fun credential => ?_⟩
  refine ⟨_, _, ofCredential_of_host_ne_none hnamed.host_ne_none details credential,
    isUserinfo_userinfo url credential, ?_⟩
  have hnamed' : Advertises { url with
      username := Percent.encode Url.inUserinfoSet credential.username.toList
      password := Percent.encode Url.inUserinfoSet credential.password.toList }
      details.advertisedHost := ⟨hnamed.host, hnamed.port, hnamed.query, hnamed.fragment⟩
  rw [String.toList_ofList, hnamed'.write_eq (parts_of_base hbase).1]
  simp only [path_of_base hbase hdatabase, List.append_assoc]
  rfl

/-- The URL for an IPv4 address that is written as an IPv6 address, and for credentials in which
delimiters stand. -/
theorem exists_uri_of_ordinary_mapped : ∃ url c info literal,
    base "::ffff:10.96.0.12" "userdb" = .ok url ∧
    ofCredential ⟨"c", "c", "::ffff:10.96.0.12", "", "userdb"⟩ url ⟨"al@ice", "p:w/d"⟩ = .ok c ∧
    IsUserinfo ⟨"al@ice", "p:w/d"⟩ info ∧
    Ipv6.parse? literal = Ipv6.parse? "::ffff:10.96.0.12".toList ∧
    c.uri.toList =
      "postgresql://".toList ++ info ++ '[' :: (literal ++ "]:5432/userdb".toList) := by
  have haddress : Ipv6.parse? "::ffff:10.96.0.12".toList =
      some ⟨[0, 0, 0, 0, 0, 0xFFFF, 0x0A60, 0x000C]⟩ := by decide
  obtain ⟨url, host, hbase, hwritten, hissued⟩ :=
    @exists_uri_of_ordinary ⟨"c", "c", "::ffff:10.96.0.12", "", "userdb"⟩ (.ipv6 haddress)
      ⟨by decide, by simp [Url.IsNameChar]⟩
  obtain ⟨c, info, hc, hinfo, huri⟩ := hissued ⟨"al@ice", "p:w/d"⟩
  cases hwritten with
  | @literal a literal h hliteral =>
    refine ⟨url, c, info, literal, hbase, hc, hinfo, hliteral.trans h.symm, huri.trans ?_⟩
    simp
  | name h => cases haddress.symm.trans h

end Connection

end ServiceBroker

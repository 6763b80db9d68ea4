import ServiceBroker.Proofs.Broker.Address
import ServiceBroker.Proofs.Url.Host
import ServiceBroker.Proofs.Url.Ipv6
import ServiceBroker.Proofs.Url.Path

/-!
# The endpoint in a connection URL

A connection document names the endpoint of a database twice: in its URL, and in the fields beside
it. The host is put into the URL as it stands, unless it is an IPv6 address, which is written anew,
and the database is set as the path. This file says for which hosts and databases the two agree. At
any other, the URL leads elsewhere: to another host or port, or to another database.

## Main definitions

* `Connection.Advertises`: the URL names a host and the port of every database

## Main results

* `Connection.advertises_iff`: which hosts a connection URL names
* `Broker.endpoint_is_named_iff`: for which hosts and databases the URL of a binding agrees with the
  fields beside it
-/

namespace ServiceBroker

namespace Connection

variable {host database : String} {url : Url}

/-- The URL names the host and the port of every database, and holds neither a query nor a
fragment. -/
structure Advertises (url : Url) (host : String) : Prop where
  host : url.host = some (Url.hostOf host.toList)
  port : url.port = some databasePort
  query : url.query = none
  fragment : url.fragment = none

/-! ### Hosts that are named -/

/-- No stray character stands in the text of a host if none stands in the host. -/
theorem not_isStray_authority (h : ∀ c ∈ host.toList, ¬ Url.IsStray c) :
    ∀ c ∈ (authority host).toList, ¬ Url.IsStray c := by
  cases hliteral : Ipv6.parse? host.toList with
  | none =>
    rw [authority_of_not_literal hliteral]
    exact h
  | some a =>
    rw [toList_authority_of_literal hliteral]
    exact Url.not_isStray_brackets (Ipv6.parse?_display (Ipv6.length_of_parse? hliteral))

/-- What is read from the text of a host is what the host names. -/
theorem eq_hostOf_of_parseHost_authority {parsed : Url.Host}
    (h : Url.parseHost false (authority host).toList = .ok (some parsed)) :
    parsed = Url.hostOf host.toList := by
  cases hliteral : Ipv6.parse? host.toList with
  | none =>
    rw [authority_of_not_literal hliteral] at h
    exact Url.eq_hostOf_of_parseHost hliteral h
  | some a =>
    rw [toList_authority_of_literal hliteral] at h
    have hdisplay := Ipv6.parse?_display (Ipv6.length_of_parse? hliteral)
    rw [Url.parseHost_brackets hdisplay] at h
    cases h
    exact (Url.hostOf_of_parse? hliteral).symm

theorem authority_ne_nil (h : host ≠ "") : (authority host).toList ≠ [] := by
  cases hliteral : Ipv6.parse? host.toList with
  | none =>
    rw [authority_of_not_literal hliteral]
    exact fun hnil => h (String.toList_eq_nil_iff.mp hnil)
  | some a =>
    rw [toList_authority_of_literal hliteral]
    exact nofun

/-- Without stray characters, the URL names the host. -/
theorem advertises_of_not_isStray (hbase : base host database = .ok url)
    (h : ∀ c ∈ host.toList, ¬ Url.IsStray c) : Advertises url host := by
  obtain ⟨hempty, parsed, hparsed, rfl⟩ := base_eq_ok_iff.mp hbase
  have hstray := not_isStray_authority h
  rw [Url.clean_eq_self_iff.mpr fun c hc hdropped => hstray c hc (.inr (.inr hdropped))] at hparsed
  have hpart : Url.hostPart false ((authority host).toList ++ ":5432/".toList) =
      ((authority host).toList, ":5432/".toList) :=
    @Url.hostPart_eq _ _ "5432".toList _ hstray (List.all_eq_true.mp rfl) hparsed
  obtain ⟨-, parsedHost, port, tail, hhost, hport, -, rfl⟩ :=
    Url.parseAuthority_eq_ok_iff.mp hparsed
  rw [Url.isWeb_other, hpart] at hhost hport
  have hdigits : Url.portPart (.other scheme.toList) ":5432/".toList =
      .ok (some databasePort, ['/']) := rfl
  obtain ⟨rfl, rfl⟩ := Prod.mk.inj (Except.ok.inj (hport.symm.trans hdigits))
  cases parsedHost with
  | none => exact absurd (Url.parseHost_eq_none_iff.mp hhost) (authority_ne_nil hempty)
  | some parsed => exact ⟨congrArg some (eq_hostOf_of_parseHost_authority hhost), rfl, rfl, rfl⟩

/-- A host that the URL names holds no stray character. -/
theorem not_isStray_of_advertises (hbase : base host database = .ok url)
    (h : Advertises url host) : ∀ c ∈ host.toList, ¬ Url.IsStray c := by
  cases hliteral : Url.literal? host.toList with
  | some a => exact Url.not_isStray_of_literal? hliteral
  | none =>
    obtain ⟨-, parsed, hparsed, rfl⟩ := base_eq_ok_iff.mp hbase
    obtain ⟨-, parsedHost, port, tail, hhost, -, -, rfl⟩ :=
      Url.parseAuthority_eq_ok_iff.mp hparsed
    have hname : parsedHost = some (.name (Percent.encode Url.inControlSet host.toList)) :=
      (Url.hostOf_of_literal?_eq_none hliteral) ▸ h.host
    rw [authority_of_not_literal (Url.parse?_eq_none_of_literal? hliteral)] at hhost
    rw [Url.isWeb_other, hname] at hhost
    rcases Url.parseHost_cases hhost with ⟨inner, a, -, -, ⟨⟩⟩ | ⟨hallowed, hencode⟩
    have hencode := Url.Host.name.inj hencode
    -- The host that is read is a part of the one that is put in, and no less when it is encoded.
    have hsublist : (Url.hostPart false (Url.clean host.toList ++ ":5432/".toList)).1.Sublist
        host.toList := by
      refine List.Sublist.trans ?_ (Url.clean_sublist host.toList)
      exact Url.hostPart_sublist (by decide) fun hcolon => absurd (by decide) (hallowed ':' hcolon)
    have hwhole := Percent.eq_of_sublist_of_encode_eq hsublist hencode
    rw [hwhole] at hallowed
    exact fun c hc hstray => hallowed c hc (Url.isForbiddenInHost_of_isStray hstray)

/-- The URL names the host exactly if no stray character stands in the host. -/
theorem advertises_iff (hbase : base host database = .ok url) :
    Advertises url host ↔ ∀ c ∈ host.toList, ¬ Url.IsStray c :=
  ⟨not_isStray_of_advertises hbase, advertises_of_not_isStray hbase⟩

/-! ### The fields of a document -/

/-- A document holds the host and the database of its cluster, the port of every database, and the
connection URL with its credentials. -/
theorem fields_of_ofCredential {details : Cluster.Details} {credential : Credential}
    {c : Connection} (h : ofCredential details url credential = .ok c) :
    c.host = details.advertisedHost ∧ c.database = details.database ∧ c.port = databasePort ∧
      c.uri = String.ofList { url with
        username := Percent.encode Url.inUserinfoSet c.username.toList
        password := Percent.encode Url.inUserinfoSet c.password.toList }.write := by
  obtain rfl := eq_of_ofCredential h
  exact ⟨rfl, rfl, rfl, rfl⟩

end Connection

namespace Broker

open Program (Run)

/-! ### Documents that agree with their URL -/

/-- A connection URL names its host and port exactly if no stray character stands in the host, and
its database exactly if that is plain. A binding gives this URL, with its credentials, beside the
host, the port and the database. -/
theorem endpoint_is_named_iff {host database : String} {url : Url}
    (h : Connection.base host database = .ok url) :
    (Connection.Advertises url host ↔ ∀ c ∈ host.toList, ¬ Url.IsStray c) ∧
    (Percent.decode url.path = Utf8.encode ('/' :: database.toList) ↔ Url.IsPlain database) ∧
    ∀ instanceId bindingId r trace c, Run (bind instanceId bindingId r) trace (.ok c) →
      c.host = host → c.database = database →
      c.port = Connection.databasePort ∧
      c.uri = String.ofList { url with
        username := Percent.encode Url.inUserinfoSet c.username.toList
        password := Percent.encode Url.inUserinfoSet c.password.toList }.write := by
  refine ⟨Connection.advertises_iff h, ?_, ?_⟩
  · obtain ⟨-, parsed, hparsed, rfl⟩ := Connection.base_eq_ok_iff.mp h
    obtain ⟨-, _, _, _, -, -, -, rfl⟩ := Url.parseAuthority_eq_ok_iff.mp hparsed
    exact Url.decode_path_setPath_iff rfl database
  · intro instanceId bindingId r trace c hrun hhost hdatabase
    generalize hresult : (Except.ok c : Except Failure Connection) = result at hrun
    cases run_bind_iff_binds.mp hrun with
    | unknown failure => cases hresult
    | badAddress details hbase => cases hresult
    | refused details failure hbase => cases hresult
    | created details credential hbase =>
      obtain ⟨hhost', hdatabase', hport, huri⟩ := Connection.fields_of_ofCredential hresult.symm
      rw [← hhost', ← hdatabase', hhost, hdatabase] at hbase
      obtain rfl := Except.ok.inj (hbase.symm.trans h)
      exact ⟨hport, huri⟩

/-- With a slash in the host the port is lost, and an encoded byte in the database is taken for
another character. -/
theorem endpoint_is_not_named :
    ∃ url, Connection.base "10.96.0.12/24" "user%41db" = .ok url ∧
      ¬ Connection.Advertises url "10.96.0.12/24" ∧
      Percent.decode url.path ≠ Utf8.encode ('/' :: "user%41db".toList) := by
  have hpasses : (Connection.base "10.96.0.12/24" "user%41db").isOk := by decide +kernel
  cases hbase : Connection.base "10.96.0.12/24" "user%41db" with
  | error failure =>
    rw [hbase] at hpasses
    cases hpasses
  | ok url =>
    obtain ⟨hhost, hdatabase, -⟩ := endpoint_is_named_iff hbase
    refine ⟨url, rfl, fun hadvertises => ?_, fun hread => ?_⟩
    · exact hhost.mp hadvertises '/' (by decide) (by decide)
    · refine (hdatabase.mp hread).literal ?_
      exact ⟨Utf8.bytes "user", 0x34, 0x31, Utf8.bytes "db", by decide, by decide, by decide⟩

end Broker

end ServiceBroker

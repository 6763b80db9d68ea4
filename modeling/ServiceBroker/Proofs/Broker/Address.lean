import ServiceBroker.Broker.Basic
import ServiceBroker.Proofs.Program.Runs
import ServiceBroker.Proofs.Url.Authority

/-!
# Binding at a bad address

The address of a cluster is checked before the user of a binding is created. The check reads the URL
of the database, and a host that is no IPv6 address is put into that URL as it stands. A host that
starts with a delimiter leaves the URL without a host: it passes the check, and the credentials of
the user that has been created cannot be set.

## Main definitions

* `Connection.HidesHost`: the hosts that pass the check and that no credentials can be set for
* `Broker.LeavesUser`: a user has been created for a binding that fails

## Main results

* `Connection.base_host_eq_none_iff`: the connection URL lacks a host exactly for such hosts
* `Broker.leavesUser_iff_hidesHost`: a binding that fails leaves a user exactly at such hosts
-/

namespace ServiceBroker

namespace Connection

/-- The host leaves out the host of the URL that it is put into. -/
def HidesHost (host : String) : Prop := Url.LeavesOutHost (Url.clean host.toList)

/-! ### The connection URL -/

/-- The text with an address in it is read from the address on. -/
theorem parse_address (text : String) :
    Url.parse s!"{scheme}://{text}:{databasePort}/" =
      Url.parseAuthority (.other scheme.toList) (Url.clean text.toList ++ ":5432/".toList) := by
  have htext : s!"{scheme}://{text}:{databasePort}/".toList =
      "postgresql://".toList ++ text.toList ++ ":5432/".toList := by
    have hport : toString databasePort = "5432" := by decide
    rw [hport]
    simp only [String.toList_append, List.append_assoc]
    rfl
  have hstrip : Url.strip ("postgresql://".toList ++ text.toList ++ ":5432/".toList) =
      "postgresql://".toList ++ text.toList ++ ":5432/".toList := by
    simp [Url.strip]
  have hclean : Url.clean ("postgresql://".toList ++ text.toList ++ ":5432/".toList) =
      "postgresql://".toList ++ (Url.clean text.toList ++ ":5432/".toList) := by
    simp [Url.clean, Url.isDropped]
  have hscheme (cs : List Char) : Url.parseScheme ("postgresql://".toList ++ cs) =
      .ok (.other scheme.toList, '/' :: '/' :: cs) := rfl
  unfold Url.parse
  rw [htext, hstrip, hclean, hscheme]
  rfl

/-- A connection URL is what the text with its address says, with the database as its path. -/
theorem base_eq_ok_iff {host database : String} {url : Url} :
    base host database = .ok url ↔ host ≠ "" ∧ ∃ parsed,
      Url.parseAuthority (.other scheme.toList)
        (Url.clean (authority host).toList ++ ":5432/".toList) = .ok parsed ∧
      url = parsed.setPath database := by
  unfold base
  rw [parse_address]
  by_cases hempty : host = ""
  · rw [if_pos hempty]
    exact iff_of_false nofun fun h => h.1 hempty
  · rw [if_neg hempty]
    constructor
    · intro h
      split at h
      · cases h
      · next parsed hparsed => exact ⟨hempty, parsed, hparsed, (Except.ok.inj h).symm⟩
    · rintro ⟨-, parsed, hparsed, rfl⟩
      rw [hparsed]

/-! ### Hosts that leave the URL without one -/

/-- What follows an address does not make it leave out the host. -/
theorem leavesOutHost_append_iff {cs : List Char} :
    Url.LeavesOutHost (cs ++ ":5432/".toList) ↔ Url.LeavesOutHost cs := by
  constructor
  · rintro ⟨c, rest, hc, h⟩
    have hcolon : c ≠ ':' := by
      rintro rfl
      exact absurd hc (by decide)
    match cs with
    | [] =>
      rcases h with h | h
      · exact absurd (List.cons.inj h).1.symm hcolon
      · cases h
    | [a] =>
      rcases h with h | h
      · obtain ⟨rfl, -⟩ := List.cons.inj h
        exact ⟨a, [], hc, .inl rfl⟩
      · cases h
    | [a, b] =>
      rcases h with h | h
      · obtain ⟨rfl, -⟩ := List.cons.inj h
        exact ⟨a, [b], hc, .inl rfl⟩
      · simp at h
        exact absurd h.2.2.1.symm hcolon
    | a :: b :: d :: cs =>
      rcases h with h | h
      · obtain ⟨rfl, -⟩ := List.cons.inj h
        exact ⟨a, b :: d :: cs, hc, .inl rfl⟩
      · simp only [List.cons_append, List.cons.injEq] at h
        obtain ⟨rfl, rfl, rfl, -⟩ := h
        exact ⟨d, cs, hc, .inr rfl⟩
  · rintro ⟨c, rest, hc, rfl | rfl⟩
    · exact ⟨c, rest ++ ":5432/".toList, hc, .inl rfl⟩
    · exact ⟨c, rest ++ ":5432/".toList, hc, .inr rfl⟩

/-- A host in which nothing ends an authority does not hide itself. -/
theorem not_hidesHost {host : String} (h : ∀ c ∈ host.toList, ¬ Url.endsAuthority false c) :
    ¬ HidesHost host := by
  rintro ⟨c, rest, hc, heq⟩
  have hmem : c ∈ Url.clean host.toList := by
    rcases heq with heq | heq <;> simp [heq]
  exact h c (List.mem_filter.mp hmem).1 hc

theorem toList_authority_of_literal {host : String} {a : Ipv6}
    (h : Ipv6.parse? host.toList = some a) :
    (authority host).toList = '[' :: (a.display ++ [']']) := by
  rw [authority, h]
  simp only [String.toList_append, toString, String.toList_ofList, List.append_assoc]
  rfl

theorem authority_of_not_literal {host : String} (h : Ipv6.parse? host.toList = none) :
    authority host = host := by
  rw [authority, h]

/-- A host in brackets does not leave out the host, and neither does the literal for which it
stands. -/
theorem leavesOutHost_authority_iff {host : String} :
    Url.LeavesOutHost (Url.clean (authority host).toList) ↔ HidesHost host := by
  cases hliteral : Ipv6.parse? host.toList with
  | some a =>
    rw [toList_authority_of_literal hliteral]
    refine iff_of_false ?_ ?_
    · rintro ⟨c, rest, hc, h | h⟩
      · obtain ⟨rfl, -⟩ := List.cons.inj h
        exact absurd hc (by decide)
      · cases h
    · exact not_hidesHost fun c hc hends =>
        Url.not_isDelimiter_of_isLiteralChar (Ipv6.isLiteralChar_of_parse? hliteral c hc)
          (.inl hends)
  | none =>
    rw [authority_of_not_literal hliteral]
    rfl

/-- The connection URL has no host exactly if the address hides it. -/
theorem base_host_eq_none_iff {host database : String} {url : Url}
    (h : base host database = .ok url) : url.host = none ↔ HidesHost host := by
  obtain ⟨-, parsed, hparsed, rfl⟩ := base_eq_ok_iff.mp h
  change parsed.host = none ↔ _
  constructor
  · intro hnone
    rw [← leavesOutHost_authority_iff, ← leavesOutHost_append_iff]
    refine Url.leavesOutHost_of_host_eq_none hparsed hnone ?_
    -- The slash at the end of the text ends the authority.
    unfold Url.beyondPart
    rw [Ne, List.dropWhile_eq_nil_iff]
    intro hall
    simpa [Url.endsAuthority] using hall '/' (by simp)
  · intro hhidden
    rw [← leavesOutHost_authority_iff, ← leavesOutHost_append_iff] at hhidden
    obtain ⟨url, hurl, hnone⟩ := Url.exists_of_leavesOutHost scheme.toList hhidden
    obtain rfl := Except.ok.inj (hparsed.symm.trans hurl)
    exact hnone

/-- An address that hides its host passes the check. -/
theorem exists_base_of_hidesHost {host : String} (h : HidesHost host) (database : String) :
    ∃ url, base host database = .ok url := by
  have hempty : host ≠ "" := by
    rintro rfl
    obtain ⟨c, rest, -, h | h⟩ := h <;> cases h
  rw [← leavesOutHost_authority_iff, ← leavesOutHost_append_iff] at h
  obtain ⟨parsed, hparsed, -⟩ := Url.exists_of_leavesOutHost scheme.toList h
  exact ⟨_, base_eq_ok_iff.mpr ⟨hempty, parsed, hparsed, rfl⟩⟩

/-! ### Setting credentials -/

theorem ofCredential_of_host_eq_none {url : Url} (h : url.host = none) (details : Cluster.Details)
    (credential : Credential) :
    ofCredential details url credential = .error (cannotBuild "username") := by
  simp [ofCredential, Url.setUsername?, h]

/-- The document for a credential, if the connection URL has a host. -/
theorem ofCredential_of_host_ne_none {url : Url} (h : url.host ≠ none) (details : Cluster.Details)
    (credential : Credential) :
    ofCredential details url credential = .ok {
      username := credential.username
      password := credential.password
      port := databasePort
      database := details.database
      host := details.advertisedHost
      internalHost := details.clusterIp
      uri := String.ofList { url with
        username := Percent.encode Url.inUserinfoSet credential.username.toList
        password := Percent.encode Url.inUserinfoSet credential.password.toList }.write } := by
  simp [ofCredential, Url.setUsername?, Url.setPassword?, h]

/-- What stands in a document. -/
theorem eq_of_ofCredential {url : Url} {details : Cluster.Details} {credential : Credential}
    {c : Connection} (h : ofCredential details url credential = .ok c) : c = {
      username := credential.username
      password := credential.password
      port := databasePort
      database := details.database
      host := details.advertisedHost
      internalHost := details.clusterIp
      uri := String.ofList { url with
        username := Percent.encode Url.inUserinfoSet credential.username.toList
        password := Percent.encode Url.inUserinfoSet credential.password.toList }.write } := by
  by_cases hnone : url.host = none
  · rw [ofCredential_of_host_eq_none hnone] at h
    cases h
  · rw [ofCredential_of_host_ne_none hnone] at h
    exact (Except.ok.inj h).symm

end Connection

namespace Broker

open Program (Event Run)

/-! ### Runs of a binding -/

/-- The cluster of an instance is looked up. -/
def lookup (instanceId : String) (outcome : Except Executor.Failure Cluster.Details) :
    Event effects := ⟨.execute (.clusterDetail instanceId), outcome⟩

/-- A user is created for a binding. -/
def creation (instanceId bindingId : String) (appId : Option String)
    (outcome : Except Executor.Failure Credential) : Event effects :=
  ⟨.execute (.createBinding instanceId bindingId appId), outcome⟩

/-- `Binds i b r trace result`: with the events `trace`, binding comes to `result`. -/
inductive Binds (instanceId bindingId : String) (r : BindRequest) :
    List (Event effects) → Except Failure Connection → Prop where
  | unknown (failure : Executor.Failure) :
      Binds instanceId bindingId r [lookup instanceId (.error failure)] (.error (.executor failure))
  | badAddress (details : Cluster.Details) {failure : Failure} :
      Connection.base details.advertisedHost details.database = .error failure →
      Binds instanceId bindingId r [lookup instanceId (.ok details)] (.error failure)
  | refused (details : Cluster.Details) (failure : Executor.Failure) {url : Url} :
      Connection.base details.advertisedHost details.database = .ok url →
      Binds instanceId bindingId r
        [lookup instanceId (.ok details), creation instanceId bindingId r.appId (.error failure)]
        (.error (.executor failure))
  | created (details : Cluster.Details) (credential : Credential) {url : Url} :
      Connection.base details.advertisedHost details.database = .ok url →
      Binds instanceId bindingId r
        [lookup instanceId (.ok details), creation instanceId bindingId r.appId (.ok credential)]
        (Connection.ofCredential details url credential)

variable {instanceId bindingId : String} {r : BindRequest} {trace : List (Event effects)}
  {result : Except Failure Connection}

theorem run_execute_iff {op : Executor.Operation} {outcome : Executor.Outcome op} :
    Run (execute op) trace outcome ↔ trace = [⟨.execute op, outcome⟩] := by
  constructor
  · intro h
    obtain ⟨outcome', rest, rfl, hdone⟩ := Program.run_ask_iff.mp h
    obtain ⟨rfl, rfl⟩ := Program.run_done_iff.mp hdone
    rfl
  · rintro rfl
    exact Program.run_ask_iff.mpr ⟨outcome, [], rfl, .done outcome⟩

/-- The runs of a binding. -/
theorem run_bind_iff_binds :
    Run (bind instanceId bindingId r) trace result ↔ Binds instanceId bindingId r trace result := by
  constructor
  · intro h
    obtain ⟨first, outcome, rest, rfl, hlookup, hrest⟩ := Program.run_bind_iff.mp h
    obtain rfl := run_execute_iff.mp hlookup
    cases outcome with
    | error failure =>
      obtain ⟨rfl, rfl⟩ := Program.run_done_iff.mp hrest
      exact .unknown failure
    | ok details =>
      dsimp only at hrest
      cases hbase : Connection.base details.advertisedHost details.database with
      | error failure =>
        rw [hbase] at hrest
        obtain ⟨rfl, rfl⟩ := Program.run_done_iff.mp hrest
        exact .badAddress details hbase
      | ok url =>
        rw [hbase] at hrest
        obtain ⟨second, outcome, last, rfl, hcreation, hlast⟩ := Program.run_bind_iff.mp hrest
        obtain rfl := run_execute_iff.mp hcreation
        cases outcome with
        | error failure =>
          obtain ⟨rfl, rfl⟩ := Program.run_done_iff.mp hlast
          exact .refused details failure hbase
        | ok credential =>
          obtain ⟨rfl, rfl⟩ := Program.run_done_iff.mp hlast
          exact .created details credential hbase
  · intro h
    cases h with
    | unknown failure => exact Program.run_ask_iff.mpr ⟨_, _, rfl, .done _⟩
    | badAddress details hbase =>
      refine Program.run_bind_iff.mpr ⟨[_], .ok details, [], rfl, run_execute_iff.mpr rfl, ?_⟩
      dsimp only
      rw [hbase]
      exact .done _
    | refused details failure hbase =>
      refine Program.run_bind_iff.mpr ⟨[_], .ok details, [_], rfl, run_execute_iff.mpr rfl, ?_⟩
      dsimp only
      rw [hbase]
      exact Program.run_ask_iff.mpr ⟨_, _, rfl, .done _⟩
    | created details credential hbase =>
      refine Program.run_bind_iff.mpr ⟨[_], .ok details, [_], rfl, run_execute_iff.mpr rfl, ?_⟩
      dsimp only
      rw [hbase]
      exact Program.run_ask_iff.mpr ⟨_, _, rfl, .done _⟩

/-! ### Users that are left behind -/

/-- A user may be left behind: the creation of one has been asked for, and the binding fails with
something else than that creation. -/
def LeavesUser (trace : List (Event effects)) (result : Except Failure Connection) : Prop :=
  ∃ failure, result = .error failure ∧
    (∃ instanceId bindingId appId outcome, creation instanceId bindingId appId outcome ∈ trace) ∧
    ∀ instanceId bindingId appId e,
      creation instanceId bindingId appId (.error e) ∈ trace → failure ≠ .executor e

theorem creation_ne_lookup (instanceId bindingId other : String) (appId : Option String)
    (outcome : Except Executor.Failure Credential)
    (outcome' : Except Executor.Failure Cluster.Details) :
    creation instanceId bindingId appId outcome ≠ lookup other outcome' := by
  intro h
  cases congrArg Event.request h

/-- Without a creation no user is left behind. -/
theorem not_leavesUser_lookup (outcome : Except Executor.Failure Cluster.Details) :
    ¬ LeavesUser [lookup instanceId outcome] result := by
  rintro ⟨failure, -, ⟨i, b, appId, outcome', hmem⟩, -⟩
  exact creation_ne_lookup _ _ _ _ _ _ (List.mem_singleton.mp hmem)

/-- A creation that fails leaves no user behind. -/
theorem not_leavesUser_refused (outcome : Except Executor.Failure Cluster.Details)
    (appId : Option String) (e : Executor.Failure) :
    ¬ LeavesUser [lookup instanceId outcome, creation instanceId bindingId appId (.error e)]
      (.error (.executor e)) := by
  rintro ⟨failure, hfailure, -, hother⟩
  exact hother instanceId bindingId appId e (by simp) (Except.error.inj hfailure).symm

/-- A creation that succeeds leaves its user behind exactly if the binding fails. -/
theorem leavesUser_created_iff (outcome : Except Executor.Failure Cluster.Details)
    (appId : Option String) (credential : Credential) :
    LeavesUser [lookup instanceId outcome, creation instanceId bindingId appId (.ok credential)]
      result ↔ ∃ failure, result = .error failure := by
  constructor
  · rintro ⟨failure, hfailure, -⟩
    exact ⟨failure, hfailure⟩
  · rintro ⟨failure, hfailure⟩
    refine ⟨failure, hfailure, ⟨instanceId, bindingId, appId, .ok credential, by simp⟩, ?_⟩
    intro i b appId' e hmem
    rcases List.mem_cons.mp hmem with h | hmem
    · exact absurd h (creation_ne_lookup _ _ _ _ _ _)
    · cases List.mem_singleton.mp hmem

/-- A binding that fails leaves a user behind exactly if the address of the cluster hides its host
and a user could be created. At such an address the check succeeds and no credential can be set; at
any other that it passes, every credential can. -/
theorem leavesUser_iff_hidesHost (instanceId bindingId : String) (r : BindRequest) :
    (∀ trace result, Run (bind instanceId bindingId r) trace result →
      (LeavesUser trace result ↔ ∃ details credential,
        Connection.HidesHost details.advertisedHost ∧
        trace = [lookup instanceId (.ok details),
          creation instanceId bindingId r.appId (.ok credential)])) ∧
    (∀ details credential, Connection.HidesHost details.advertisedHost →
      Run (bind instanceId bindingId r) [lookup instanceId (.ok details),
        creation instanceId bindingId r.appId (.ok credential)]
        (.error (Connection.cannotBuild "username"))) ∧
    (∀ host database url, Connection.base host database = .ok url → ∀ details credential,
      ((∃ failure, Connection.ofCredential details url credential = .error failure) ↔
        Connection.HidesHost host)) := by
  have hfails {host database : String} {url : Url} (hbase : Connection.base host database = .ok url)
      (details : Cluster.Details) (credential : Credential) :
      (∃ failure, Connection.ofCredential details url credential = .error failure) ↔
        Connection.HidesHost host := by
    rw [← Connection.base_host_eq_none_iff hbase]
    constructor
    · rintro ⟨failure, hfailure⟩
      by_contra hhost
      rw [Connection.ofCredential_of_host_ne_none hhost] at hfailure
      cases hfailure
    · intro hhost
      exact ⟨_, Connection.ofCredential_of_host_eq_none hhost details credential⟩
  refine ⟨fun trace result h => ?_, fun details credential hhidden => ?_, fun _ _ _ => hfails⟩
  · cases run_bind_iff_binds.mp h with
    | unknown failure =>
      refine iff_of_false (not_leavesUser_lookup _) ?_
      rintro ⟨_, _, -, htrace⟩
      cases congrArg List.length htrace
    | badAddress details hbase =>
      refine iff_of_false (not_leavesUser_lookup _) ?_
      rintro ⟨_, _, -, htrace⟩
      cases congrArg List.length htrace
    | refused details failure hbase =>
      refine iff_of_false (not_leavesUser_refused _ _ _) ?_
      rintro ⟨_, _, -, htrace⟩
      simp [creation] at htrace
    | created details credential hbase =>
      rw [leavesUser_created_iff, hfails hbase]
      constructor
      · intro hhidden
        exact ⟨details, credential, hhidden, rfl⟩
      · rintro ⟨details', credential', hhidden, htrace⟩
        have hdetails : details = details' := by simpa [lookup] using (List.cons.inj htrace).1
        exact hdetails ▸ hhidden
  · obtain ⟨url, hbase⟩ := Connection.exists_base_of_hidesHost hhidden details.database
    have hnone := (Connection.base_host_eq_none_iff hbase).mpr hhidden
    rw [← Connection.ofCredential_of_host_eq_none hnone details credential]
    exact run_bind_iff_binds.mpr (.created details credential hbase)

/-- At the address of a slash, the user is created and the binding fails. -/
theorem leavesUser_at_slash :
    LeavesUser
      [lookup "i" (.ok ⟨"c", "c", "/", "", "userdb"⟩),
        creation "i" "b" none (.ok ⟨"alice", "secret"⟩)]
      (.error (Connection.cannotBuild "username")) :=
  have hhidden : Connection.HidesHost
      (Cluster.Details.advertisedHost ⟨"c", "c", "/", "", "userdb"⟩) :=
    ⟨'/', [], by decide, .inl (by decide)⟩
  have h := leavesUser_iff_hidesHost "i" "b" ⟨"service", "plan", none, none, none⟩
  (h.1 _ _ (h.2.1 _ ⟨"alice", "secret"⟩ hhidden)).mpr ⟨_, _, hhidden, rfl⟩

end Broker

end ServiceBroker

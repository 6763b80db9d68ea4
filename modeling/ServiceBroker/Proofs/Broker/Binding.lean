import ServiceBroker.Proofs.Broker.Uri
import ServiceBroker.Proofs.Broker.Verbs

/-!
# Binding over the cluster-management API

Before the user of a binding is created, the clusters of the instance are described. There has to be
exactly one, with exactly one service, and that service needs an address. Whatever else the API
shows ends the binding with nothing but the description asked for, so no user is created at a
cluster that is not there or that is not the only one.

## Main definitions

* `Remote.Shows`: a call has been shown one cluster with one service that has an address
* `Broker.NotOne`: what the API may show that is no such cluster
* `Broker.Follows`: a connection document holds what has been shown and listed

## Main results

* `Remote.detailsOf_eq_ok_iff`: the details of a cluster are those of its only service
* `Broker.user_created_only_at_one_service`: what binding an instance does with what it is shown
-/

namespace ServiceBroker

open Program

namespace Remote

variable {remote : Remote} {instanceId bindingId : String} {trace : List (Event effects)}
  {shown : List Cluster.Shown} {details : Cluster.Details}

/-! ### Describing the clusters of an instance -/

/-- The request to describe the clusters of an instance. -/
def inquiry (remote : Remote) (namespaceName instanceId : String) : Cluster.ShowClusters where
  clusterName := Cluster.allClusters
  selector := remote.selector instanceId
  namespaceName
  clientVersion := remote.clientVersion

/-- What describing the cluster of an instance does. -/
theorem clusterDetail_eq (instanceId : String) :
    remote.clusterDetail instanceId = remote.resolve instanceId >>= fun
      | .error failure => .done (.error failure)
      | .ok namespaceName =>
        .ask (E := effects) (.post (.showClusters (remote.inquiry namespaceName instanceId)))
          fun answer => .done ((remote.accept
            (.showClusters (remote.inquiry namespaceName instanceId))
            Cluster.Shown.reader answer).bind (detailsOf instanceId)) := by
  unfold clusterDetail inquiry
  refine congrArg (remote.resolve instanceId >>= ·) (funext fun resolved => ?_)
  cases resolved with
  | error failure => rfl
  | ok namespaceName =>
    simp only [call_bind]
    refine congrArg (Program.ask (E := effects) _) (funext fun answer => ?_)
    cases remote.accept _ Cluster.Shown.reader answer <;> rfl

/-- There are details exactly if one cluster with one service is shown. -/
theorem detailsOf_eq_ok_iff : detailsOf instanceId shown = .ok details ↔
    ∃ cluster service, shown = [cluster] ∧ cluster.services = [service] ∧
      details = ⟨service.name, service.clusterName, service.clusterIp, service.externalIp,
        cluster.database⟩ := by
  constructor
  · intro h
    match shown with
    | [] => cases h
    | [cluster] =>
      rw [detailsOf] at h
      match hservices : cluster.services with
      | [service] =>
        rw [hservices] at h
        exact ⟨cluster, service, rfl, hservices, (Except.ok.inj h).symm⟩
      | [] | _ :: _ :: _ =>
        rw [hservices] at h
        cases h
    | _ :: _ :: _ => cases h
  · rintro ⟨cluster, service, rfl, hservices, rfl⟩
    rw [detailsOf, hservices]

/-- All that the call for an instance has posted is a request for a description, and the accepted
answer is one cluster with one service that has an address. -/
def Shows (remote : Remote) (instanceId : String) (asked : List (Cluster.Message × Delivery))
    (cluster : Cluster.Shown) (service : Cluster.Shown.Service) : Prop :=
  ∃ namespaceName answer,
    asked = [(.showClusters (remote.inquiry namespaceName instanceId), answer)] ∧
    Accepted Cluster.Shown.reader answer [cluster] ∧ cluster.services = [service] ∧
    (service.externalIp ≠ "" ∨ service.clusterIp ≠ "")

/-- A description that succeeds is that of the one cluster that is shown. -/
theorem run_clusterDetail_ok (h : Run (remote.clusterDetail instanceId) trace (.ok details)) :
    ∃ namespaceName answer cluster service,
      posts trace = [(.showClusters (remote.inquiry namespaceName instanceId), answer)] ∧
      Accepted Cluster.Shown.reader answer [cluster] ∧ cluster.services = [service] ∧
      details = ⟨service.name, service.clusterName, service.clusterIp, service.externalIp,
        cluster.database⟩ := by
  rw [clusterDetail_eq, run_bind_iff] at h
  obtain ⟨located, resolved, rest, rfl, hresolve, hrest⟩ := h
  have hlocated : posts located = [] :=
    posts_of_reaches_resolve (run_iff_reaches_done.mp hresolve)
  rw [posts_append, hlocated, List.nil_append]
  cases resolved with
  | error failure => cases hrest
  | ok namespaceName =>
    obtain ⟨answer, rest, rfl, hanswer⟩ := run_ask_iff.mp hrest
    obtain ⟨rfl, hdetails⟩ := run_done_iff.mp hanswer
    obtain ⟨shown, haccept, hdetails⟩ := bind_eq_ok_iff.mp hdetails.symm
    obtain ⟨cluster, service, rfl, hservices, rfl⟩ := detailsOf_eq_ok_iff.mp hdetails
    exact ⟨namespaceName, answer, cluster, service, rfl, accept_eq_ok_iff.mp haccept, hservices,
      rfl⟩

/-- An address is advertised exactly if the cluster has one. -/
theorem advertisedHost_eq_empty_iff :
    details.advertisedHost = "" ↔ details.externalIp = "" ∧ details.clusterIp = "" := by
  unfold Cluster.Details.advertisedHost
  split
  · next h => simp [h]
  · next h => simp [h]

/-- Creating a binding asks for no description. -/
theorem always_noInquiry_createBinding :
    Always (E := effects) (fun r _ => ∀ m, r ≠ .post (.showClusters m))
      (remote.createBinding instanceId bindingId) := by
  cases hname : Identifier.bindingUsername bindingId with
  | error defect =>
    rw [createBinding_of_error hname]
    trivial
  | ok name =>
    rw [createBinding_eq hname]
    refine always_resolve_bind (fun _ _ _ => nofun) fun resolved => ?_
    cases resolved with
    | error failure => trivial
    | ok namespaceName =>
      refine ⟨nofun, fun created => ?_⟩
      dsimp only
      cases remote.receive .userCreate Json.Reader.json created with
      | error failure => trivial
      | ok envelope => exact ⟨nofun, fun listed => trivial⟩

end Remote

namespace Broker

open Remote (Accepted posts)

variable {remote : Remote} {instanceId bindingId : String} {r : BindRequest}
  {shown : List Cluster.Shown}

/-! ### What is shown of an instance -/

/-- What the API shows is not one cluster with one service that has an address. -/
inductive NotOne : List Cluster.Shown → Prop where
  | clusters {shown : List Cluster.Shown} : 1 < shown.length → NotOne shown
  | services {cluster : Cluster.Shown} : cluster.services.length ≠ 1 → NotOne [cluster]
  | addresses {cluster : Cluster.Shown} {service : Cluster.Shown.Service} :
      cluster.services = [service] → service.externalIp = "" → service.clusterIp = "" →
      NotOne [cluster]

/-- What binding goes on with once the clusters of the instance have been described. -/
def proceed (remote : Remote) (instanceId bindingId : String) :
    Except Executor.Failure Cluster.Details →
      Program Remote.effects (Except Failure Connection)
  | .error failure => .done (.error (.executor failure))
  | .ok details =>
    match Connection.base details.advertisedHost details.database with
    | .error failure => .done (.error failure)
    | .ok base => remote.createBinding instanceId bindingId >>= fun
      | .error failure => .done (.error (.executor failure))
      | .ok credential => .done (Connection.ofCredential details base credential)

/-- A user is created only where there is an address. -/
theorem proceed_eq_of_base {details : Cluster.Details} {base : Url}
    (h : Connection.base details.advertisedHost details.database = .ok base) :
    proceed remote instanceId bindingId (.ok details) =
      remote.createBinding instanceId bindingId >>= fun
        | .error failure => .done (.error (.executor failure))
        | .ok credential => .done (Connection.ofCredential details base credential) := by
  rw [proceed, h]

theorem proceed_eq_of_base_error {details : Cluster.Details} {failure : Failure}
    (h : Connection.base details.advertisedHost details.database = .error failure) :
    proceed remote instanceId bindingId (.ok details) = .done (.error failure) := by
  rw [proceed, h]

/-- What binding does over the API. -/
theorem through_bind : through remote (bind instanceId bindingId r) =
    remote.clusterDetail instanceId >>= proceed remote instanceId bindingId := by
  refine congrArg (remote.clusterDetail instanceId >>= ·) (funext fun outcome => ?_)
  cases outcome with
  | error failure => rfl
  | ok details =>
    dsimp only [Program.bind]
    cases hbase : Connection.base details.advertisedHost details.database with
    | error failure =>
      rw [proceed_eq_of_base_error hbase]
      rfl
    | ok base =>
      rw [proceed_eq_of_base hbase]
      refine congrArg (remote.createBinding instanceId bindingId >>= ·) (funext fun outcome => ?_)
      cases outcome <;> rfl

/-- A cluster with an address of its own or from outside has an address to advertise. -/
theorem address_of_base {details : Cluster.Details} {base : Url}
    (h : Connection.base details.advertisedHost details.database = .ok base) :
    details.externalIp ≠ "" ∨ details.clusterIp ≠ "" := by
  have hhost : details.advertisedHost ≠ "" := (Connection.base_eq_ok_iff.mp h).1
  rwa [Ne, Remote.advertisedHost_eq_empty_iff, not_and_or] at hhost

/-! ### Who may be created -/

/-- A user is created only for the binding, and only at the one service that has been shown. -/
def CreatesAtShown (remote : Remote) (instanceId bindingId : String)
    (past : List (Event Remote.effects)) (r : Remote.Request) : Prop :=
  ∀ m, r = .post (.createUser m) → Identifier.bindingUsername bindingId = .ok m.name ∧
    ∃ cluster service, remote.Shows instanceId (posts past) cluster service

theorem createsAtShown_locate (past : List (Event Remote.effects)) (r : Locator.Request) :
    CreatesAtShown remote instanceId bindingId past (.locate r) := nofun

/-- While the clusters are described no user is created. -/
theorem guarded_clusterDetail : Guarded (E := Remote.effects)
    (CreatesAtShown remote instanceId bindingId) [] (remote.clusterDetail instanceId) := by
  rw [Remote.clusterDetail_eq]
  refine (Remote.guarded_resolve createsAtShown_locate).bind fun located resolved _ => ?_
  cases resolved with
  | error failure => trivial
  | ok namespaceName => exact ⟨nofun, fun answer => trivial⟩

/-- Once the one service has been shown, the user of the binding may be created. -/
theorem guarded_createBinding {past : List (Event Remote.effects)} {cluster : Cluster.Shown}
    {service : Cluster.Shown.Service}
    (h : remote.Shows instanceId (posts past) cluster service) :
    Guarded (E := Remote.effects) (CreatesAtShown remote instanceId bindingId) past
      (remote.createBinding instanceId bindingId) := by
  cases hname : Identifier.bindingUsername bindingId with
  | error defect =>
    rw [Remote.createBinding_of_error hname]
    trivial
  | ok name =>
    rw [Remote.createBinding_eq hname]
    refine (Remote.guarded_resolve createsAtShown_locate).bind fun located resolved hlocated => ?_
    cases resolved with
    | error failure => trivial
    | ok namespaceName =>
      refine ⟨fun m hm => ?_, fun created => ?_⟩
      · cases hm
        rw [Remote.posts_append,
          Remote.posts_of_reaches_resolve (run_iff_reaches_done.mp hlocated), List.append_nil]
        exact ⟨hname, cluster, service, h⟩
      · dsimp only
        cases remote.receive .userCreate Json.Reader.json created with
        | error failure => trivial
        | ok envelope => exact ⟨nofun, fun listed => trivial⟩

theorem guarded_bind : Guarded (E := Remote.effects)
    (CreatesAtShown remote instanceId bindingId) []
    (through remote (bind instanceId bindingId r)) := by
  rw [through_bind]
  refine guarded_clusterDetail.bind fun described outcome hdescribed => ?_
  cases outcome with
  | error failure => trivial
  | ok details =>
    obtain ⟨namespaceName, answer, cluster, service, hposts, haccepted, hservices, hdetails⟩ :=
      Remote.run_clusterDetail_ok hdescribed
    cases hbase : Connection.base details.advertisedHost details.database with
    | error failure =>
      rw [proceed_eq_of_base_error hbase]
      trivial
    | ok base =>
      have haddress := address_of_base hbase
      rw [hdetails] at haddress
      have hshows : remote.Shows instanceId (posts described) cluster service :=
        ⟨namespaceName, answer, hposts, haccepted, hservices, haddress⟩
      rw [proceed_eq_of_base hbase]
      refine (guarded_createBinding hshows).bind fun _ outcome _ => ?_
      cases outcome <;> trivial

/-! ### What ends a binding -/

/-- An accepted description of no cluster ends the binding, and so does one of anything but one
cluster with one service that has an address. -/
def EndsUnlessOne (instanceId : String) :
    (r : Remote.Request) →
      (r.Reply → Program Remote.effects (Except Failure Connection)) → Prop
  | .post (.showClusters _), k => ∀ answer shown, Accepted Cluster.Shown.reader answer shown →
    (shown = [] → k answer = .done (.error (.executor (.instanceNotFound instanceId)))) ∧
    (NotOne shown → ∃ detail, k answer = .done (.error (.executor (.shapeMismatch detail))))
  | _, _ => True

/-- What is not one cluster with one service that has an address is not gone on with. -/
theorem proceed_of_notOne (h : NotOne shown) : ∃ detail,
    proceed remote instanceId bindingId (Remote.detailsOf instanceId shown) =
      .done (.error (.executor (.shapeMismatch detail))) := by
  cases h with
  | clusters hlength =>
    match shown, hlength with
    | _ :: _ :: _, _ => exact ⟨_, rfl⟩
  | @services cluster hlength =>
    rw [Remote.detailsOf]
    match hservices : cluster.services with
    | [service] =>
      rw [hservices] at hlength
      exact absurd rfl hlength
    | [] | _ :: _ :: _ => exact ⟨_, rfl⟩
  | @addresses cluster service hservices hexternal hcluster =>
    rw [Remote.detailsOf_eq_ok_iff.mpr ⟨cluster, service, rfl, hservices, rfl⟩]
    refine ⟨"cluster advertises no service address", proceed_eq_of_base_error ?_⟩
    rw [Remote.advertisedHost_eq_empty_iff.mpr ⟨hexternal, hcluster⟩, Connection.base, if_pos rfl]

/-- What never asks for a description is not ended by one. -/
theorem always_endsUnlessOne_of_noInquiry {p : Program Remote.effects (Except Failure Connection)}
    (h : Always (E := Remote.effects) (fun r _ => ∀ m, r ≠ .post (.showClusters m)) p) :
    Always (E := Remote.effects) (EndsUnlessOne instanceId) p := by
  refine h.mono fun r k hr => ?_
  unfold EndsUnlessOne
  split
  · next m _ => exact absurd rfl (hr m)
  · trivial

theorem always_noInquiry_proceed {outcome : Except Executor.Failure Cluster.Details} :
    Always (E := Remote.effects) (fun r _ => ∀ m, r ≠ .post (.showClusters m))
      (proceed remote instanceId bindingId outcome) := by
  cases outcome with
  | error failure => trivial
  | ok details =>
    cases hbase : Connection.base details.advertisedHost details.database with
    | error failure =>
      rw [proceed_eq_of_base_error hbase]
      trivial
    | ok base =>
      rw [proceed_eq_of_base hbase]
      refine Remote.always_noInquiry_createBinding.bind fun outcome => ?_
      cases outcome <;> trivial

theorem always_endsUnlessOne : Always (E := Remote.effects) (EndsUnlessOne instanceId)
    (through remote (bind instanceId bindingId r)) := by
  rw [through_bind, Remote.clusterDetail_eq, bind_assoc]
  refine Remote.always_resolve_bind (fun _ _ => trivial) fun resolved => ?_
  cases resolved with
  | error failure => trivial
  | ok namespaceName =>
    refine ⟨fun answer shown haccepted => ?_, fun answer =>
      always_endsUnlessOne_of_noInquiry always_noInquiry_proceed⟩
    dsimp only [done_bind]
    rw [Remote.accept_eq_ok_iff.mpr haccepted]
    refine ⟨?_, proceed_of_notOne⟩
    rintro rfl
    rfl

/-- A binding that has been shown no cluster, or not one with an address, is at its end. -/
theorem ended_of_accepted {before after : List (Event Remote.effects)} {m : Cluster.ShowClusters}
    {answer : Remote.Delivery} {q : Program Remote.effects (Except Failure Connection)}
    (h : Reaches (through remote (bind instanceId bindingId r))
      (before ++ ⟨.post (.showClusters m), answer⟩ :: after) q)
    (haccepted : Accepted Cluster.Shown.reader answer shown) :
    (shown = [] →
      after = [] ∧ q = .done (.error (.executor (.instanceNotFound instanceId)))) ∧
    (NotOne shown →
      after = [] ∧ ∃ detail, q = .done (.error (.executor (.shapeMismatch detail)))) := by
  obtain ⟨p, hbefore, hafter⟩ := reaches_append_iff.mp h
  cases hafter with
  | ask _ k _ hafter =>
    obtain ⟨hnone, hnotOne⟩ := always_endsUnlessOne.of_reaches hbefore answer shown haccepted
    constructor
    · intro hshown
      rw [hnone hshown] at hafter
      exact reaches_done_iff.mp hafter
    · intro hshown
      obtain ⟨detail, hend⟩ := hnotOne hshown
      rw [hend] at hafter
      obtain ⟨rfl, rfl⟩ := reaches_done_iff.mp hafter
      exact ⟨rfl, detail, rfl⟩

/-! ### The document -/

/-- The document names the cluster that has been shown, and holds the credential that the listing
has for its user. -/
structure Follows (c : Connection) (cluster : Cluster.Shown) (service : Cluster.Shown.Service)
    (users : List Cluster.Users) : Prop where
  host : c.host = if service.externalIp ≠ "" then service.externalIp else service.clusterIp
  internalHost : c.internalHost = service.clusterIp
  database : c.database = cluster.database
  credential : Remote.credentialOf c.username users = .ok ⟨c.username, c.password⟩

/-- A binding that succeeds has been shown one cluster, and its document follows from that and from
the listing of the users. -/
theorem follows_of_run {trace : List (Event Remote.effects)} {c : Connection}
    (h : Run (through remote (bind instanceId bindingId r)) trace (.ok c)) :
    ∃ first rest cluster service namespaceName created listed users,
      posts trace = first ++ rest ∧ remote.Shows instanceId first cluster service ∧
      rest = [
        (.createUser (remote.userCreation namespaceName instanceId c.username), created),
        (.showUsers (remote.listing namespaceName instanceId), listed)] ∧
      Accepted Cluster.Users.reader listed users ∧ Follows c cluster service users := by
  rw [through_bind, run_bind_iff] at h
  obtain ⟨described, outcome, rest, rfl, hdescribed, hrest⟩ := h
  cases outcome with
  | error failure => cases hrest
  | ok details =>
    obtain ⟨_, answer, cluster, service, hposts, haccepted, hservices, hdetails⟩ :=
      Remote.run_clusterDetail_ok hdescribed
    cases hbase : Connection.base details.advertisedHost details.database with
    | error failure =>
      rw [proceed_eq_of_base_error hbase] at hrest
      cases hrest
    | ok base =>
      have haddress := address_of_base hbase
      rw [hdetails] at haddress
      rw [proceed_eq_of_base hbase, run_bind_iff] at hrest
      obtain ⟨issued, outcome, rest, rfl, hissued, hrest⟩ := hrest
      cases outcome with
      | error failure => cases hrest
      | ok credential =>
        obtain ⟨rfl, hc⟩ := run_done_iff.mp hrest
        obtain ⟨-, namespaceName, created, listed, users, hposts', haccepted', hcredential⟩ :=
          Remote.run_createBinding_ok hissued
        obtain rfl := Connection.eq_of_ofCredential hc.symm
        refine ⟨posts described, _, cluster, service, namespaceName, created, listed, users, ?_,
          ⟨_, answer, hposts, haccepted, hservices, haddress⟩, rfl, haccepted', ?_⟩
        · rw [Remote.posts_append, List.append_nil, hposts']
        · subst hdetails
          exact ⟨by simp [Cluster.Details.advertisedHost], rfl, rfl, hcredential⟩

/-- Whatever the API has answered and whichever namespaces are kept, binding an instance creates a
user only for the binding, and only after an accepted description has shown one cluster with one
service that has an address. A description of no cluster or of anything else ends the binding. A
binding that succeeds hands out the address of that service, with the user and the password that are
listed in the end. -/
theorem user_created_only_at_one_service (remote : Remote) (instanceId bindingId : String)
    (r : BindRequest) :
    (∀ before m answer after q, Reaches (through remote (bind instanceId bindingId r))
        (before ++ ⟨.post (.createUser m), answer⟩ :: after) q →
      Identifier.bindingUsername bindingId = .ok m.name ∧
      ∃ cluster service, remote.Shows instanceId (posts before) cluster service) ∧
    (∀ before m answer after q shown, Reaches (through remote (bind instanceId bindingId r))
        (before ++ ⟨.post (.showClusters m), answer⟩ :: after) q →
      Accepted Cluster.Shown.reader answer shown →
      (shown = [] →
        after = [] ∧ q = .done (.error (.executor (.instanceNotFound instanceId)))) ∧
      (NotOne shown →
        after = [] ∧ ∃ detail, q = .done (.error (.executor (.shapeMismatch detail))))) ∧
    (∀ trace c, Run (through remote (bind instanceId bindingId r)) trace (.ok c) →
      ∃ first rest cluster service namespaceName created listed users,
        posts trace = first ++ rest ∧ remote.Shows instanceId first cluster service ∧
        rest = [
          (.createUser (remote.userCreation namespaceName instanceId c.username), created),
          (.showUsers (remote.listing namespaceName instanceId), listed)] ∧
        Accepted Cluster.Users.reader listed users ∧ Follows c cluster service users) := by
  refine ⟨fun before m answer after q h => ?_, fun before m answer after q shown => ?_,
    fun trace c => follows_of_run⟩
  · exact guarded_bind.of_reaches h m rfl
  · exact ended_of_accepted

/-! ### A binding at a published cluster -/

namespace Published

open Remote

/-- The answer that shows one cluster, whose service can be reached from outside. -/
def description : Delivery := .success [.ofMembers [("database", .string "userdb"),
  ("services", .array [.ofMembers [("name", .string "svc"), ("clusterName", .string "c"),
    ("clusterIP", .string "10.96.0.12"), ("externalIP", .string "203.0.113.7")]])]]

/-- What is known of the cluster from that. -/
def details : Cluster.Details := ⟨"svc", "c", "10.96.0.12", "203.0.113.7", "userdb"⟩

/-- The events of a binding there. -/
def events : List (Event Remote.effects) := [
  ⟨.locate (.recall "b"), some "ns"⟩,
  ⟨.post (.showClusters (trial.inquiry "ns" "b")), description⟩] ++
    bindingTrace userExists trialUsers

theorem accepted_description : Accepted Cluster.Shown.reader description
    [⟨"userdb", [⟨"svc", "c", "10.96.0.12", "203.0.113.7"⟩]⟩] :=
  ⟨200, _, ⟨⟨"ok", ""⟩, _⟩, rfl, by decide, by decide, eq_ok_of_toOption (by decide +kernel), rfl,
    rfl⟩

theorem exists_run : ∃ c, Run (through trial (bind "b" "a7cb6bd8-cf67-400f-805c-019e85eac3bf"
    ⟨"service", "plan", none, none, none⟩)) events (.ok c) := by
  have hhost : Connection.IsOrdinaryHost details.advertisedHost :=
    @Connection.IsOrdinaryHost.ipv4 _ [0xCB00, 0x7107] (by decide)
  obtain ⟨base, hbase⟩ := hhost.exists_base details.database
  obtain ⟨c, hissued⟩ : ∃ c, Connection.ofCredential details base
      ⟨"useru7fwxwgpm5aa7ac4agpil2wdx4", "pw"⟩ = .ok c :=
    ⟨_, Connection.ofCredential_of_host_ne_none (hhost.advertises hbase).host_ne_none _ _⟩
  refine ⟨c, ?_⟩
  rw [through_bind, clusterDetail_eq]
  refine Run.ask (E := Remote.effects) (.locate (.recall "b")) _ (some "ns") ?_
  refine Run.ask (E := Remote.effects) (.post (.showClusters _)) _ description ?_
  dsimp only [done_bind]
  rw [accept_eq_ok_iff.mpr accepted_description]
  change Run (proceed trial "b" "a7cb6bd8-cf67-400f-805c-019e85eac3bf" (.ok details)) _ _
  rw [proceed_eq_of_base hbase]
  exact run_bind_iff.mpr ⟨_, _, [], (List.append_nil _).symm, run_bindingTrace,
    run_done_iff.mpr ⟨rfl, hissued.symm⟩⟩

end Published

/-- The binding gets the address from outside, and the password that is listed for its user, whom
the API says to be there already. -/
theorem user_created_only_at_one_service_published : ∃ c, Run (through Remote.trial
      (bind "b" "a7cb6bd8-cf67-400f-805c-019e85eac3bf" ⟨"service", "plan", none, none, none⟩))
      Published.events (.ok c) ∧ c.host = "203.0.113.7" ∧ c.internalHost = "10.96.0.12" ∧
    c.username = "useru7fwxwgpm5aa7ac4agpil2wdx4" ∧ c.password = "pw" := by
  obtain ⟨-, -, hissued⟩ := user_created_only_at_one_service Remote.trial "b"
    "a7cb6bd8-cf67-400f-805c-019e85eac3bf" ⟨"service", "plan", none, none, none⟩
  obtain ⟨c, hrun⟩ := Published.exists_run
  obtain ⟨_, _, cluster, service, namespaceName, created, listed, users, hposts,
    ⟨_, answer, rfl, haccepted, hservices, -⟩, rfl, hlisted, hfollows⟩ := hissued _ c hrun
  obtain ⟨⟨-, rfl⟩, ⟨husername, -⟩, -, rfl⟩ := by
    simpa [Published.events, Remote.bindingTrace, posts, Remote.userCreation] using hposts
  obtain rfl := List.singleton_inj.mp (haccepted.unique Published.accepted_description)
  obtain rfl := List.singleton_inj.mp hservices
  obtain rfl := hlisted.unique Remote.accepted_trialUsers
  have hcredential := hfollows.credential
  rw [← husername.1] at hcredential
  have hpassword : "pw" = c.password := congrArg Credential.password (Except.ok.inj hcredential)
  exact ⟨c, hrun, hfollows.host, hfollows.internalHost, husername.1.symm, hpassword.symm⟩

end Broker

end ServiceBroker

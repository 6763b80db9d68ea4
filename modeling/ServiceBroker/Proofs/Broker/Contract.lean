import ServiceBroker.Proofs.Broker.Session
import ServiceBroker.Server.Basic

/-!
# What a call asks of the executor

The broker keeps nothing of its own, so all that matters of a call is what it asks of the executor
and what it makes of the answers. Both are written down here for every call and all answers, and
nothing else is possible. Failures of the executor are passed on as they are, but for two: a cluster
that is already gone counts as deleted, and a failure to delete a user is not reported.

## Main definitions

* `ProvisionParameters.Gives`, `ProvisionParameters.Misses`: what the parameters of a provision are
  checked for
* `Broker.operations`: a call as a program that uses an executor and nothing else
* `Broker.made`: the operations among the events of a call
* `Broker.Bridges`: what a call asks of the executor, with the answers, and its result

## Main results

* `Broker.run_operations_iff`: the lock is all that a call asks for besides
* `Broker.run_operations_perform_iff`: the runs of calls are the ones that are listed
* `Broker.calls_bridge`: the contract of the broker with any executor
-/

namespace ServiceBroker

/-! ### Required parameters -/

namespace ProvisionParameters

variable {parameters : Option Json.Members} {key text : String} {failure : Failure}

/-- Under the key the parameters have this text, and it is not empty. -/
def Gives (parameters : Option Json.Members) (key text : String) : Prop :=
  text ≠ "" ∧ ∃ members, parameters = some members ∧ members.find? key = some (.string text)

/-- The key is the first of those required that the parameters give no text for. -/
inductive Misses (parameters : Option Json.Members) : String → Prop where
  | clusterName : (∀ text, ¬ Gives parameters clusterNameParameter text) →
      Misses parameters clusterNameParameter
  | namespaceName {clusterName : String} : Gives parameters clusterNameParameter clusterName →
      (∀ text, ¬ Gives parameters namespaceParameter text) → Misses parameters namespaceParameter

theorem requiredParameter_eq_ok_iff :
    requiredParameter parameters key = .ok text ↔ Gives parameters key text := by
  unfold requiredParameter
  constructor
  · intro h
    split at h
    · next found hfound =>
      obtain ⟨members, rfl, hfind⟩ := Option.bind_eq_some_iff.mp hfound
      obtain ⟨hne, htext⟩ := ite_error_eq_ok_iff.mp h
      obtain rfl := Except.ok.inj htext
      exact ⟨hne, members, rfl, hfind⟩
    · cases h
  · rintro ⟨hne, members, rfl, hfind⟩
    rw [Option.bind_some, hfind]
    exact if_neg hne

/-- Whatever is wrong with a parameter, the failure is the same. -/
theorem eq_missingParameter (h : requiredParameter parameters key = .error failure) :
    failure = .missingParameter key := by
  unfold requiredParameter at h
  split at h
  · split at h
    · exact (Except.error.inj h).symm
    · cases h
  · exact (Except.error.inj h).symm

theorem requiredParameter_eq_error_iff : requiredParameter parameters key = .error failure ↔
    (∀ text, ¬ Gives parameters key text) ∧ failure = .missingParameter key := by
  constructor
  · intro h
    refine ⟨fun text hgives => ?_, eq_missingParameter h⟩
    rw [requiredParameter_eq_ok_iff.mpr hgives] at h
    cases h
  · rintro ⟨hnone, rfl⟩
    cases h : requiredParameter parameters key with
    | ok text => exact absurd (requiredParameter_eq_ok_iff.mp h) (hnone text)
    | error failure => rw [eq_missingParameter h]

theorem ofMembers_eq_ok_iff {p : ProvisionParameters} :
    ofMembers parameters = .ok p ↔ Gives parameters clusterNameParameter p.clusterName ∧
      Gives parameters namespaceParameter p.namespaceName := by
  rw [ofMembers]
  refine bind_eq_ok_iff.trans ⟨?_, ?_⟩
  · rintro ⟨clusterName, hcluster, hrest⟩
    obtain ⟨namespaceName, hnamespace, hp⟩ := bind_eq_ok_iff.mp hrest
    obtain rfl := Except.ok.inj hp
    exact ⟨requiredParameter_eq_ok_iff.mp hcluster, requiredParameter_eq_ok_iff.mp hnamespace⟩
  · rintro ⟨hcluster, hnamespace⟩
    exact ⟨p.clusterName, requiredParameter_eq_ok_iff.mpr hcluster,
      bind_eq_ok_iff.mpr ⟨p.namespaceName, requiredParameter_eq_ok_iff.mpr hnamespace, rfl⟩⟩

/-- The parameters fail with the first of those required that is not given. -/
theorem ofMembers_eq_error_iff : ofMembers parameters = .error failure ↔
    ∃ key, Misses parameters key ∧ failure = .missingParameter key := by
  rw [ofMembers]
  refine bind_eq_error_iff.trans ⟨?_, ?_⟩
  · rintro (hcluster | ⟨clusterName, hcluster, hrest⟩)
    · obtain ⟨hnone, rfl⟩ := requiredParameter_eq_error_iff.mp hcluster
      exact ⟨_, .clusterName hnone, rfl⟩
    · rcases bind_eq_error_iff.mp hrest with hnamespace | ⟨namespaceName, -, hdone⟩
      · obtain ⟨hnone, rfl⟩ := requiredParameter_eq_error_iff.mp hnamespace
        exact ⟨_, .namespaceName (requiredParameter_eq_ok_iff.mp hcluster) hnone, rfl⟩
      · cases hdone
  · rintro ⟨key, hmisses, rfl⟩
    cases hmisses with
    | clusterName hnone => exact .inl (requiredParameter_eq_error_iff.mpr ⟨hnone, rfl⟩)
    | namespaceName hgives hnone =>
      exact .inr ⟨_, requiredParameter_eq_ok_iff.mpr hgives,
        bind_eq_error_iff.mpr (.inl (requiredParameter_eq_error_iff.mpr ⟨hnone, rfl⟩))⟩

end ProvisionParameters

namespace Broker

open Program

variable {σ α β : Type} {b : Broker} {e : Executor σ} {call : Call} {result : Except Failure Answer}
  {op : Executor.Operation}

/-! ### Operations of a call -/

/-- What a request asks of the executor. -/
def operation : (r : Request) → Program Executor.effects r.Reply
  | .execute op => .ask (E := Executor.effects) op .done
  | .acquire | .release => .done ()

/-- A verb as a program that uses an executor and nothing else. -/
def operations (p : Program effects α) : Program Executor.effects α := p.substitute operation

/-- The operation that an event is, if it is not one of the lock. -/
def operation? : Event effects → Option (Event Executor.effects)
  | ⟨.execute op, outcome⟩ => some ⟨op, outcome⟩
  | ⟨.acquire, _⟩ | ⟨.release, _⟩ => none

/-- The operations among some events. -/
def made (trace : List (Event effects)) : List (Event Executor.effects) :=
  trace.filterMap operation?

theorem spells_operation_iff {trace : List (Event effects)}
    {calls : List (Event Executor.effects)} :
    Spells operation trace calls ↔ made trace = calls := by
  constructor
  · intro h
    induction h with
    | nil => rfl
    | @cons r reply trace first rest hfirst _ ih =>
      -- An operation stands for itself, and a request of the lock for nothing.
      match r with
      | .execute op =>
        obtain ⟨outcome, rest, rfl, hdone⟩ := run_ask_iff.mp hfirst
        obtain ⟨rfl, rfl⟩ := run_done_iff.mp hdone
        exact congrArg (_ :: ·) ih
      | .acquire | .release =>
        obtain ⟨rfl, -⟩ := run_done_iff.mp hfirst
        exact ih
  · rintro rfl
    induction trace with
    | nil => exact .nil
    | cons event trace ih =>
      match event with
      | ⟨.execute op, outcome⟩ =>
        exact .cons [_] (run_ask_iff.mpr ⟨outcome, [], rfl, .done _⟩) ih
      | ⟨.acquire, _⟩ | ⟨.release, _⟩ => exact .cons [] (.done _) ih

/-- The lock is all that is asked for besides the operations. -/
theorem run_operations_iff {p : Program effects α} {calls : List (Event Executor.effects)} {a : α} :
    Run (operations p) calls a ↔ ∃ trace, Run p trace a ∧ made trace = calls := by
  simp only [operations, run_substitute_iff, spells_operation_iff]

/-- A verb that is run alone comes to what its operations come to. -/
theorem runAlone_eq_runIn_operations (p : Program effects α) (s : σ) :
    runAlone e p s = (operations p).runIn e.perform s := by
  induction p generalizing s with
  | done a => rfl
  | ask r k ih =>
    match r with
    | .execute op => exact ih _ _
    | .acquire | .release => exact ih () s

theorem operations_exclusively_bind {f : Executor.Outcome op → Program effects α} :
    operations (exclusively op >>= f) =
      .ask (E := Executor.effects) op fun outcome => operations (f outcome) := rfl

/-- What is done with the value of a verb asks for no operation. -/
theorem operations_map (p : Program effects α) (f : α → β) :
    operations (do return f (← p)) = operations p >>= fun a => .done (f a) := by
  induction p with
  | done a => rfl
  | ask r k ih =>
    match r with
    | .execute op => exact congrArg (ask (E := Executor.effects) op) (funext ih)
    | .acquire | .release => exact ih ()

/-! ### What calls come to -/

/-- `Bridges b call calls result`: the call asks this of the executor, is given these answers, and
has this result. -/
inductive Bridges (b : Broker) :
    Call → List (Event Executor.effects) → Except Failure Answer → Prop where
  | invalid (instanceId : String) {r : ProvisionRequest} (acceptsIncomplete : Bool) {key : String} :
      ProvisionParameters.Misses r.parameters key →
      Bridges b (.provision instanceId r acceptsIncomplete) [] (.error (.missingParameter key))
  | provisioned (instanceId : String) {r : ProvisionRequest} (acceptsIncomplete : Bool)
      {clusterName namespaceName : String} :
      ProvisionParameters.Gives r.parameters clusterNameParameter clusterName →
      ProvisionParameters.Gives r.parameters namespaceParameter namespaceName →
      Bridges b (.provision instanceId r acceptsIncomplete)
        [⟨.createCluster ⟨instanceId, clusterName, namespaceName, r.planId⟩, .ok ()⟩]
        (.ok (.accepted (acceptsIncomplete && b.asyncEnabled)))
  | notProvisioned (instanceId : String) {r : ProvisionRequest} (acceptsIncomplete : Bool)
      {clusterName namespaceName : String} (failure : Executor.Failure) :
      ProvisionParameters.Gives r.parameters clusterNameParameter clusterName →
      ProvisionParameters.Gives r.parameters namespaceParameter namespaceName →
      Bridges b (.provision instanceId r acceptsIncomplete)
        [⟨.createCluster ⟨instanceId, clusterName, namespaceName, r.planId⟩, .error failure⟩]
        (.error (.executor failure))
  | deprovisioned (instanceId : String) (acceptsIncomplete : Bool) :
      Bridges b (.deprovision instanceId acceptsIncomplete) [⟨.deleteCluster instanceId, .ok ()⟩]
        (.ok (.accepted (acceptsIncomplete && b.asyncEnabled)))
  | alreadyGone (instanceId : String) (acceptsIncomplete : Bool) (detail : String) :
      Bridges b (.deprovision instanceId acceptsIncomplete)
        [⟨.deleteCluster instanceId, .error (.instanceNotFound detail)⟩] (.ok (.accepted false))
  | notDeprovisioned (instanceId : String) (acceptsIncomplete : Bool) {failure : Executor.Failure} :
      (∀ detail, failure ≠ .instanceNotFound detail) →
      Bridges b (.deprovision instanceId acceptsIncomplete)
        [⟨.deleteCluster instanceId, .error failure⟩] (.error (.executor failure))
  | updated (instanceId : String) (r : UpdateRequest) (acceptsIncomplete : Bool) :
      Bridges b (.update instanceId r acceptsIncomplete) []
        (.ok (.accepted (acceptsIncomplete && b.asyncEnabled)))
  | unknown (instanceId bindingId : String) (r : BindRequest) (failure : Executor.Failure) :
      Bridges b (.bind instanceId bindingId r) [⟨.clusterDetail instanceId, .error failure⟩]
        (.error (.executor failure))
  | unaddressed (instanceId bindingId : String) (r : BindRequest) {details : Cluster.Details}
      {failure : Failure} :
      Connection.base details.advertisedHost details.database = .error failure →
      Bridges b (.bind instanceId bindingId r) [⟨.clusterDetail instanceId, .ok details⟩]
        (.error failure)
  | notBound (instanceId bindingId : String) (r : BindRequest) {details : Cluster.Details}
      {url : Url} (failure : Executor.Failure) :
      Connection.base details.advertisedHost details.database = .ok url →
      Bridges b (.bind instanceId bindingId r)
        [⟨.clusterDetail instanceId, .ok details⟩,
          ⟨.createBinding instanceId bindingId r.appId, .error failure⟩]
        (.error (.executor failure))
  | bound (instanceId bindingId : String) (r : BindRequest) {details : Cluster.Details} {url : Url}
      (credential : Credential) :
      Connection.base details.advertisedHost details.database = .ok url →
      Bridges b (.bind instanceId bindingId r)
        [⟨.clusterDetail instanceId, .ok details⟩,
          ⟨.createBinding instanceId bindingId r.appId, .ok credential⟩]
        ((Connection.ofCredential details url credential).map .connection)
  | unbound (instanceId bindingId : String) (outcome : Except Executor.Failure Unit) :
      Bridges b (.unbind instanceId bindingId) [⟨.deleteBinding instanceId bindingId, outcome⟩]
        (.ok .done)
  | polled (instanceId : String) : Bridges b (.lastOperation instanceId) [] (.ok .done)

variable {calls : List (Event Executor.effects)}

/-- A binding takes no lock, so its events are its operations. -/
theorem run_operations_bind_iff {instanceId bindingId : String} {r : BindRequest} :
    Run (operations (b.perform (.bind instanceId bindingId r))) calls result ↔
      ∃ trace outcome, Binds instanceId bindingId r trace outcome ∧ calls = made trace ∧
        result = outcome.map .connection := by
  rw [perform, operations_map, run_bind_done_iff]
  constructor
  · rintro ⟨outcome, hrun, rfl⟩
    obtain ⟨trace, hbind, rfl⟩ := run_operations_iff.mp hrun
    exact ⟨trace, outcome, run_bind_iff_binds.mp hbind, rfl, rfl⟩
  · rintro ⟨trace, outcome, hbinds, rfl, rfl⟩
    exact ⟨outcome, run_operations_iff.mpr ⟨trace, run_bind_iff_binds.mpr hbinds, rfl⟩, rfl⟩

/-- Every run of a call is one of those that are listed. -/
theorem bridges_of_run (h : Run (operations (b.perform call)) calls result) :
    Bridges b call calls result := by
  cases call with
  | provision instanceId r acceptsIncomplete =>
    rw [perform, operations_map] at h
    obtain ⟨outcome, hrun, rfl⟩ := run_bind_done_iff.mp h
    rw [provision] at hrun
    -- The parameters are checked before anything is asked for.
    cases hparameters : ProvisionParameters.ofMembers r.parameters with
    | error failure =>
      rw [hparameters] at hrun
      obtain ⟨rfl, rfl⟩ := run_done_iff.mp hrun
      obtain ⟨key, hmisses, rfl⟩ := ProvisionParameters.ofMembers_eq_error_iff.mp hparameters
      exact .invalid instanceId acceptsIncomplete hmisses
    | ok parameters =>
      obtain ⟨hcluster, hnamespace⟩ := ProvisionParameters.ofMembers_eq_ok_iff.mp hparameters
      rw [hparameters] at hrun
      dsimp only at hrun
      rw [operations_exclusively_bind] at hrun
      obtain ⟨answer, rest, rfl, hdone⟩ := run_ask_iff.mp hrun
      cases answer with
      | ok =>
        obtain ⟨rfl, rfl⟩ := run_done_iff.mp hdone
        exact .provisioned instanceId acceptsIncomplete hcluster hnamespace
      | error failure =>
        obtain ⟨rfl, rfl⟩ := run_done_iff.mp hdone
        exact .notProvisioned instanceId acceptsIncomplete failure hcluster hnamespace
  | deprovision instanceId acceptsIncomplete =>
    rw [perform, operations_map] at h
    obtain ⟨outcome, hrun, rfl⟩ := run_bind_done_iff.mp h
    rw [deprovision, operations_exclusively_bind] at hrun
    obtain ⟨answer, rest, rfl, hdone⟩ := run_ask_iff.mp hrun
    cases answer with
    | ok =>
      obtain ⟨rfl, rfl⟩ := run_done_iff.mp hdone
      exact .deprovisioned instanceId acceptsIncomplete
    | error failure =>
      -- Of all failures this is the only one that is not passed on.
      by_cases hgone : ∃ detail, failure = .instanceNotFound detail
      · obtain ⟨detail, rfl⟩ := hgone
        obtain ⟨rfl, rfl⟩ := run_done_iff.mp hdone
        exact .alreadyGone instanceId acceptsIncomplete detail
      · have hother := not_exists.mp hgone
        have hfailed : rest = [] ∧ outcome = .error (.executor failure) := by
          cases failure with
          | instanceNotFound detail => exact absurd rfl (hother detail)
          | _ => exact run_done_iff.mp hdone
        obtain ⟨rfl, rfl⟩ := hfailed
        exact .notDeprovisioned instanceId acceptsIncomplete hother
  | update instanceId r acceptsIncomplete =>
    obtain ⟨rfl, rfl⟩ := run_done_iff.mp h
    exact .updated instanceId r acceptsIncomplete
  | bind instanceId bindingId r =>
    obtain ⟨trace, outcome, hbinds, rfl, rfl⟩ := run_operations_bind_iff.mp h
    cases hbinds with
    | unknown failure => exact .unknown instanceId bindingId r failure
    | badAddress details hbase => exact .unaddressed instanceId bindingId r hbase
    | refused details failure hbase => exact .notBound instanceId bindingId r failure hbase
    | created details credential hbase => exact .bound instanceId bindingId r credential hbase
  | unbind instanceId bindingId =>
    obtain ⟨outcome, rest, rfl, hdone⟩ := run_ask_iff.mp h
    obtain ⟨rfl, rfl⟩ := run_done_iff.mp hdone
    exact .unbound instanceId bindingId outcome
  | lastOperation instanceId =>
    obtain ⟨rfl, rfl⟩ := run_done_iff.mp h
    exact .polled instanceId

/-- Every run that is listed is one of the call. -/
theorem run_of_bridges (h : Bridges b call calls result) :
    Run (operations (b.perform call)) calls result := by
  cases h with
  | @invalid instanceId r acceptsIncomplete key hmisses =>
    have hparameters := ProvisionParameters.ofMembers_eq_error_iff.mpr ⟨key, hmisses, rfl⟩
    rw [perform, provision, hparameters]
    exact .done _
  | @provisioned instanceId r acceptsIncomplete clusterName namespaceName hcluster hnamespace =>
    have hparameters : ProvisionParameters.ofMembers r.parameters = .ok ⟨clusterName, namespaceName⟩ :=
      ProvisionParameters.ofMembers_eq_ok_iff.mpr ⟨hcluster, hnamespace⟩
    rw [perform, provision, hparameters]
    exact run_ask_iff.mpr ⟨.ok (), [], rfl, .done _⟩
  | @notProvisioned instanceId r acceptsIncomplete clusterName namespaceName failure hcluster
      hnamespace =>
    have hparameters : ProvisionParameters.ofMembers r.parameters = .ok ⟨clusterName, namespaceName⟩ :=
      ProvisionParameters.ofMembers_eq_ok_iff.mpr ⟨hcluster, hnamespace⟩
    rw [perform, provision, hparameters]
    exact run_ask_iff.mpr ⟨.error failure, [], rfl, .done _⟩
  | deprovisioned instanceId acceptsIncomplete =>
    exact run_ask_iff.mpr ⟨.ok (), [], rfl, .done _⟩
  | alreadyGone instanceId acceptsIncomplete detail =>
    exact run_ask_iff.mpr ⟨.error (.instanceNotFound detail), [], rfl, .done _⟩
  | @notDeprovisioned instanceId acceptsIncomplete failure hother =>
    refine run_ask_iff.mpr ⟨.error failure, [], rfl, ?_⟩
    cases failure with
    | instanceNotFound detail => exact absurd rfl (hother detail)
    | _ => exact .done _
  | updated instanceId r acceptsIncomplete => exact .done _
  | unbound instanceId bindingId outcome => exact run_ask_iff.mpr ⟨outcome, [], rfl, .done _⟩
  | polled instanceId => exact .done _
  | unknown instanceId bindingId r failure =>
    exact run_operations_bind_iff.mpr ⟨_, _, .unknown failure, rfl, rfl⟩
  | unaddressed instanceId bindingId r hbase =>
    exact run_operations_bind_iff.mpr ⟨_, _, .badAddress _ hbase, rfl, rfl⟩
  | notBound instanceId bindingId r failure hbase =>
    exact run_operations_bind_iff.mpr ⟨_, _, .refused _ failure hbase, rfl, rfl⟩
  | bound instanceId bindingId r credential hbase =>
    exact run_operations_bind_iff.mpr ⟨_, _, .created _ credential hbase, rfl, rfl⟩

/-- The runs of a call are the ones that are listed. -/
theorem run_operations_perform_iff :
    Run (operations (b.perform call)) calls result ↔ Bridges b call calls result :=
  ⟨bridges_of_run, run_of_bridges⟩

/-- Over any executor a call is one of those that are listed. -/
theorem exists_bridges_of_serve (b : Broker) (e : Executor σ) (call : Call) (s : σ) :
    ∃ calls, Bridges b call calls (b.serve e call s).1 ∧
      Served e.perform s calls (b.serve e call s).2 := by
  rw [serve, runAlone_eq_runIn_operations]
  obtain ⟨calls, hrun, hserved⟩ :
      ∃ calls, Run (operations (b.perform call)) calls _ ∧ Served e.perform s calls _ :=
    runIn_eq_iff.mp rfl
  exact ⟨calls, run_operations_perform_iff.mp hrun, hserved⟩

/-! ### Operations that finish later -/

/-- The call allows that its operation finishes later. -/
def Call.acceptsIncomplete : Call → Bool
  | .provision _ _ acceptsIncomplete | .deprovision _ acceptsIncomplete
  | .update _ _ acceptsIncomplete => acceptsIncomplete
  | .bind .. | .unbind .. | .lastOperation _ => false

/-- An operation is reported as accepted only if the platform and the broker agree to that, the call
succeeds, and there was something to delete. -/
theorem Bridges.isAsync_iff (h : Bridges b call calls result) :
    result = .ok (.accepted true) ↔ result.isOk ∧ call.acceptsIncomplete ∧ b.asyncEnabled ∧
      ∀ instanceId detail, (⟨.deleteCluster instanceId, .error (.instanceNotFound detail)⟩ :
        Event Executor.effects) ∉ calls := by
  cases h with
  | bound instanceId bindingId r credential hbase =>
    -- What a binding gives is a document, if it succeeds at all.
    refine iff_of_false (fun hresult => ?_) (by simp [Call.acceptsIncomplete])
    generalize Connection.ofCredential _ _ _ = document at hresult
    cases document <;> cases hresult
  | invalid | notProvisioned | notDeprovisioned | unknown | unaddressed | notBound => simp
  | alreadyGone instanceId acceptsIncomplete detail => simp
  | provisioned | deprovisioned | updated => simp [Call.acceptsIncomplete]
  | unbound | polled => simp [Call.acceptsIncomplete]

/-- What a call asks of the executor, and what it makes of the answers, is exactly what is listed,
whatever the executor does. A cluster is created only with parameters that are in order, and deleted
unconditionally; a user is created only on a cluster whose address can be put into a URL; failures
are passed on as they are, but for clusters that are already gone and users that cannot be deleted.
An operation is reported as accepted exactly if it is a provision, an update or a deprovision that
succeeds, the platform and the broker both agree to that, and there was something to delete. Asking
for the catalog asks for nothing and always succeeds. -/
theorem calls_bridge (b : Broker) :
    (∀ call calls result, (∃ trace, Run (b.perform call) trace result ∧ made trace = calls) ↔
      Bridges b call calls result) ∧
    (∀ (σ : Type) (e : Executor σ) call s, ∃ calls, Bridges b call calls (b.serve e call s).1 ∧
      Served e.perform s calls (b.serve e call s).2) ∧
    (∀ call calls result, Bridges b call calls result →
      (result = .ok (.accepted true) ↔ result.isOk ∧ call.acceptsIncomplete ∧ b.asyncEnabled ∧
        ∀ instanceId detail, (⟨.deleteCluster instanceId, .error (.instanceNotFound detail)⟩ :
          Event Executor.effects) ∉ calls)) ∧
    ∀ s : Server, s.broker = b → ∀ r trace response,
      Run (s.answerAt r .catalog) trace response ↔
        trace = [] ∧ response = .json 200 b.catalog.toJson := by
  refine ⟨fun call calls result => ?_, fun σ e call s => exists_bridges_of_serve b e call s,
    fun call calls result h => h.isAsync_iff, ?_⟩
  · rw [← run_operations_iff]
    exact run_operations_perform_iff
  · rintro s rfl r trace response
    exact run_done_iff

/-- A deprovision that finds nothing to delete is finished, although it could be reported as accepted.
-/
theorem calls_bridge_alreadyGone :
    ∃ trace, Run ((⟨"svc", true⟩ : Broker).perform (.deprovision "i" true)) trace
      (.ok (.accepted false)) ∧
      made trace = [⟨.deleteCluster "i", .error (.instanceNotFound "gone")⟩] ∧
      (.ok (.accepted false) : Except Failure Answer) ≠ .ok (.accepted true) := by
  obtain ⟨hruns, -, hasync, -⟩ := calls_bridge ⟨"svc", true⟩
  have hgone : Bridges ⟨"svc", true⟩ (.deprovision "i" true)
      [⟨.deleteCluster "i", .error (.instanceNotFound "gone")⟩] (.ok (.accepted false)) :=
    .alreadyGone "i" true "gone"
  obtain ⟨trace, hrun, hmade⟩ := (hruns _ _ _).mpr hgone
  refine ⟨trace, hrun, hmade, fun hresult => ?_⟩
  obtain ⟨-, -, -, hfound⟩ := (hasync _ _ _ hgone).mp hresult
  exact hfound "i" "gone" List.mem_cons_self

end Broker

end ServiceBroker

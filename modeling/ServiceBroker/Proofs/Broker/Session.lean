import Mathlib.Data.List.Induction
import ServiceBroker.Proofs.Executor.InMemory

/-!
# Calls of the broker, one after the other

A session is a history of calls with their outcomes, and the state that they have led to. Over the
executor in memory, one call does one of a dozen things, and all that is shown of sessions comes
from these.

## Main definitions

* `Broker.Call`, `Broker.Answer`, `Broker.perform`: the verbs as one program
* `Broker.Call.change?`, `Broker.Call.MayAsk`: how a call changes a cluster, and what it asks for
* `Broker.Session`, `Broker.play`: a history of calls, and the state after it
* `Broker.playInMemory`: the session over the executor in memory
* `Broker.Serves`: what a call does over the executor in memory

## Main results

* `Broker.always_mayAsk_perform`: a call asks for nothing else
* `Broker.runAlone_preserves`: what every operation preserves is preserved by every program
* `Broker.serves_serve`: every call over the executor in memory does one of these things
-/

namespace ServiceBroker.Broker

/-- A call of a verb with its arguments. -/
inductive Call where
  | provision (instanceId : String) (r : ProvisionRequest) (acceptsIncomplete : Bool)
  | deprovision (instanceId : String) (acceptsIncomplete : Bool)
  | update (instanceId : String) (r : UpdateRequest) (acceptsIncomplete : Bool)
  | bind (instanceId bindingId : String) (r : BindRequest)
  | unbind (instanceId bindingId : String)
  | lastOperation (instanceId : String)

/-- What a call gives if it succeeds. -/
inductive Answer where
  | accepted (isAsync : Bool)
  | connection (c : Connection)
  | done
  deriving DecidableEq, Repr

/-- The program of a call. -/
def perform (b : Broker) : Call → Program effects (Except Failure Answer)
  | .provision instanceId r acceptsIncomplete => do
    return (← b.provision instanceId r acceptsIncomplete).map .accepted
  | .deprovision instanceId acceptsIncomplete => do
    return (← b.deprovision instanceId acceptsIncomplete).map .accepted
  | .update _ _ acceptsIncomplete => do return (← b.update acceptsIncomplete).map .accepted
  | .bind instanceId bindingId r => do return (← bind instanceId bindingId r).map .connection
  | .unbind instanceId bindingId => do
    return (← unbind instanceId bindingId).map fun _ => .done
  | .lastOperation _ => do return (← lastOperation).map fun _ => .done

/-! ### What a call asks -/

/-- The operation with which a call changes a cluster, if it changes one. -/
def Call.change? : Call → Option Executor.Operation
  | .provision instanceId r _ =>
    (ProvisionParameters.ofMembers r.parameters).toOption.map fun parameters =>
      .createCluster ⟨instanceId, parameters.clusterName, parameters.namespaceName, r.planId⟩
  | .deprovision instanceId _ => some (.deleteCluster instanceId)
  | .update .. | .bind .. | .unbind .. | .lastOperation _ => none

/-- What a call may ask for. -/
def Call.MayAsk (call : Call) : Request → Prop
  | .acquire | .release => call.change?.isSome
  | .execute op => call.change? = some op ∨
    match call with
    | .bind instanceId bindingId r =>
      op = .clusterDetail instanceId ∨ op = .createBinding instanceId bindingId r.appId
    | .unbind instanceId bindingId => op = .deleteBinding instanceId bindingId
    | _ => False

/-- A call asks for nothing else. -/
theorem always_mayAsk_perform (b : Broker) (call : Call) :
    Program.Always (E := effects) (fun r _ => call.MayAsk r) (b.perform call) := by
  cases call with
  | provision instanceId r acceptsIncomplete =>
    refine Program.Always.bind ?_ fun _ => trivial
    unfold provision
    cases h : ProvisionParameters.ofMembers r.parameters with
    | error failure => trivial
    | ok parameters =>
      have hchange : (Call.provision instanceId r acceptsIncomplete).change? =
          some (.createCluster
            ⟨instanceId, parameters.clusterName, parameters.namespaceName, r.planId⟩) := by
        rw [Call.change?, h]
        rfl
      have hlock : (Call.provision instanceId r acceptsIncomplete).change?.isSome :=
        Option.isSome_of_eq_some hchange
      refine Program.Always.bind
        ⟨hlock, fun _ => ⟨.inl hchange, fun _ => ⟨hlock, fun _ => trivial⟩⟩⟩ fun outcome => ?_
      cases outcome <;> trivial
  | deprovision instanceId acceptsIncomplete =>
    refine Program.Always.bind ?_ fun _ => trivial
    refine Program.Always.bind ⟨rfl, fun _ => ⟨.inl rfl, fun _ => ⟨rfl, fun _ => trivial⟩⟩⟩
      fun outcome => ?_
    match outcome with
    | .ok _ => trivial
    | .error failure => cases failure <;> trivial
  | update instanceId r acceptsIncomplete => trivial
  | bind instanceId bindingId r =>
    refine Program.Always.bind ?_ fun _ => trivial
    refine Program.Always.bind ⟨.inr (.inl rfl), fun _ => trivial⟩ fun outcome => ?_
    cases outcome with
    | error failure => trivial
    | ok details =>
      dsimp only
      split
      · trivial
      · refine Program.Always.bind ⟨.inr (.inr rfl), fun _ => trivial⟩ fun outcome => ?_
        cases outcome <;> trivial
  | unbind instanceId bindingId => exact ⟨.inr rfl, fun _ => trivial⟩
  | lastOperation instanceId => trivial

/-! ### Sessions -/

/-- The outcome of one call by itself, and the state after it. -/
def serve {σ : Type} (b : Broker) (e : Executor σ) (call : Call) :
    StateM σ (Except Failure Answer) := runAlone e (b.perform call)

/-- A call and its outcome. -/
structure Entry where
  call : Call
  outcome : Except Failure Answer

/-- A history of calls, the oldest first, and the state that it has led to. -/
structure Session (σ : Type) where
  history : List Entry
  state : σ

/-- The session after one more call. -/
def Session.step {σ : Type} (b : Broker) (e : Executor σ) (s : Session σ) (call : Call) :
    Session σ :=
  ⟨s.history ++ [⟨call, (b.serve e call s.state).1⟩], (b.serve e call s.state).2⟩

/-- The session of some calls, one after the other, from a first state on. -/
def play {σ : Type} (b : Broker) (e : Executor σ) (first : σ) (calls : List Call) : Session σ :=
  calls.foldl (Session.step b e) ⟨[], first⟩

variable {σ : Type} {b : Broker} {e : Executor σ}

theorem play_append_singleton (first : σ) (calls : List Call) (call : Call) :
    b.play e first (calls ++ [call]) = (b.play e first calls).step b e call := by
  rw [play, List.foldl_append]
  rfl

/-- A session goes on from the state that the first calls have led to. -/
theorem play_append (first : σ) (calls more : List Call) :
    b.play e first (calls ++ more) =
      ⟨(b.play e first calls).history ++ (b.play e (b.play e first calls).state more).history,
        (b.play e (b.play e first calls).state more).state⟩ := by
  induction more using List.reverseRecOn with
  | nil => simp [play]
  | append_singleton more call ih =>
    rw [← List.append_assoc, play_append_singleton, ih, play_append_singleton]
    simp only [Session.step, List.append_assoc]

theorem play_cons (first : σ) (call : Call) (calls : List Call) :
    b.play e first (call :: calls) =
      ⟨⟨call, (b.serve e call first).1⟩ ::
          (b.play e (b.serve e call first).2 calls).history,
        (b.play e (b.serve e call first).2 calls).state⟩ :=
  play_append first [call] calls

/-- The history of a session is one of the calls that have been made. -/
theorem calls_play (first : σ) (calls : List Call) :
    (b.play e first calls).history.map Entry.call = calls := by
  induction calls using List.reverseRecOn with
  | nil => rfl
  | append_singleton calls call ih =>
    rw [play_append_singleton, Session.step, List.map_append, ih]
    rfl

/-- The session of some calls over the executor in memory, from empty tables on. -/
def playInMemory (b : Broker) (calls : List Call) : Session InMemory :=
  b.play InMemory.executor InMemory.empty calls

/-- What every operation preserves is preserved by every program that is run alone. -/
theorem runAlone_preserves {P : σ → Prop} (hP : ∀ op s, P s → P (e.perform op s).2) {α : Type}
    (p : Program effects α) {s : σ} (hs : P s) : P (runAlone e p s).2 := by
  unfold runAlone
  induction p generalizing s with
  | done a => exact hs
  | ask r k ih =>
    cases r with
    | execute op => exact ih _ (hP op s hs)
    | acquire => exact ih () hs
    | release => exact ih () hs

theorem runAlone_execute_bind {α : Type} (op : Executor.Operation)
    (f : Executor.Outcome op → Program effects α) (s : σ) :
    runAlone e (execute op >>= f) s = runAlone e (f (e.perform op s).1) (e.perform op s).2 := rfl

theorem runAlone_exclusively_bind {α : Type} (op : Executor.Operation)
    (f : Executor.Outcome op → Program effects α) (s : σ) :
    runAlone e (exclusively op >>= f) s = runAlone e (f (e.perform op s).1) (e.perform op s).2 := rfl

/-- What is done with the value of a program changes no state. -/
theorem runAlone_map {α β : Type} (p : Program effects α) (f : α → β) (s : σ) :
    runAlone e (do return f (← p)) s = (f (runAlone e p s).1, (runAlone e p s).2) := by
  unfold runAlone
  induction p generalizing s with
  | done a => rfl
  | ask r k ih => exact ih _ _

/-! ### Calls over the executor in memory -/

/-- `Serves b s call outcome s'`: in the state `s`, a call has this outcome and leads to `s'`. -/
inductive Serves (b : Broker) (s : InMemory) : Call → Except Failure Answer → InMemory → Prop where
  | incomplete (instanceId : String) {r : ProvisionRequest} (acceptsIncomplete : Bool)
      {failure : Failure} : ProvisionParameters.ofMembers r.parameters = .error failure →
      Serves b s (.provision instanceId r acceptsIncomplete) (.error failure) s
  | provisioned (instanceId : String) (r : ProvisionRequest) (acceptsIncomplete : Bool)
      (details : Cluster.Details) :
      Serves b s (.provision instanceId r acceptsIncomplete)
        (.ok (.accepted (b.isAsync acceptsIncomplete)))
        { s with instances := s.instances.put instanceId details }
  | alreadyGone {instanceId : String} (acceptsIncomplete : Bool) :
      s.instances.find? instanceId = none →
      Serves b s (.deprovision instanceId acceptsIncomplete) (.ok (.accepted false)) s
  | bindingsRemain {instanceId : String} (acceptsIncomplete : Bool) :
      (s.instances.find? instanceId).isSome → s.hasBindings instanceId →
      Serves b s (.deprovision instanceId acceptsIncomplete)
        (.error (.executor (.bindingsRemain instanceId))) s
  | deprovisioned {instanceId : String} (acceptsIncomplete : Bool) :
      (s.instances.find? instanceId).isSome → ¬ s.hasBindings instanceId →
      Serves b s (.deprovision instanceId acceptsIncomplete)
        (.ok (.accepted (b.isAsync acceptsIncomplete)))
        { s with instances := s.instances.erase instanceId }
  | updated (instanceId : String) (r : UpdateRequest) (acceptsIncomplete : Bool) :
      Serves b s (.update instanceId r acceptsIncomplete)
        (.ok (.accepted (b.isAsync acceptsIncomplete))) s
  | unknown {instanceId : String} (bindingId : String) (r : BindRequest) :
      s.instances.find? instanceId = none →
      Serves b s (.bind instanceId bindingId r)
        (.error (.executor (.instanceNotFound instanceId))) s
  | boundAgain {instanceId bindingId : String} (r : BindRequest) :
      (s.instances.find? instanceId).isSome →
      (s.bindings.find? (instanceId, bindingId)).isSome →
      Serves b s (.bind instanceId bindingId r)
        (.ok (.connection (InMemory.connectionFor bindingId))) s
  | bound {instanceId bindingId : String} (r : BindRequest) :
      (s.instances.find? instanceId).isSome →
      s.bindings.find? (instanceId, bindingId) = none →
      Serves b s (.bind instanceId bindingId r)
        (.ok (.connection (InMemory.connectionFor bindingId)))
        { s with
          bindings := s.bindings.put (instanceId, bindingId) (InMemory.credentialFor bindingId) }
  | unbound (instanceId bindingId : String) :
      Serves b s (.unbind instanceId bindingId) (.ok .done)
        { s with bindings := s.bindings.erase (instanceId, bindingId) }
  | polled (instanceId : String) : Serves b s (.lastOperation instanceId) (.ok .done) s

variable {s : InMemory}

theorem executor_perform (op : Executor.Operation) :
    InMemory.executor.perform op = InMemory.perform op := rfl

theorem runAlone_provision (b : Broker) (instanceId : String) {r : ProvisionRequest}
    (acceptsIncomplete : Bool) {parameters : ProvisionParameters}
    (h : ProvisionParameters.ofMembers r.parameters = .ok parameters) :
    runAlone InMemory.executor (b.provision instanceId r acceptsIncomplete) s =
      (.ok (b.isAsync acceptsIncomplete),
        { s with instances := s.instances.put instanceId (InMemory.detailsFor
          ⟨instanceId, parameters.clusterName, parameters.namespaceName, r.planId⟩) }) := by
  unfold provision
  rw [h]
  rfl

theorem runAlone_deprovision (b : Broker) (instanceId : String) (acceptsIncomplete : Bool) :
    runAlone InMemory.executor (b.deprovision instanceId acceptsIncomplete) s =
      if s.instances.find? instanceId = none then (.ok false, s)
      else if s.hasBindings instanceId then (.error (.executor (.bindingsRemain instanceId)), s)
      else (.ok (b.isAsync acceptsIncomplete),
        { s with instances := s.instances.erase instanceId }) := by
  have hoperation : InMemory.perform (.deleteCluster instanceId) s =
      if s.instances.find? instanceId = none then (.error (.instanceNotFound instanceId), s)
      else if s.hasBindings instanceId then (.error (.bindingsRemain instanceId), s)
      else (.ok (), { s with instances := s.instances.erase instanceId }) := by
    unfold InMemory.perform
    dsimp only
    cases s.instances.find? instanceId <;> rfl
  -- That the instance does not exist is a success for the broker, that it has bindings is not.
  unfold deprovision
  rw [runAlone_exclusively_bind, executor_perform, hoperation]
  split_ifs <;> rfl

theorem runAlone_bind (hs : s.Valid) (instanceId bindingId : String) (r : BindRequest) :
    runAlone InMemory.executor (bind instanceId bindingId r) s =
      if s.instances.find? instanceId = none then
        (.error (.executor (.instanceNotFound instanceId)), s)
      else if s.bindings.find? (instanceId, bindingId) = none then
        (.ok (InMemory.connectionFor bindingId),
          { s with
            bindings := s.bindings.put (instanceId, bindingId)
              (InMemory.credentialFor bindingId) })
      else (.ok (InMemory.connectionFor bindingId), s) := by
  unfold bind
  rw [runAlone_execute_bind, executor_perform]
  -- Both operations of a binding first look for the instance, in the same state.
  cases hfind : s.instances.find? instanceId with
  | none =>
    have hlookup : InMemory.perform (.clusterDetail instanceId) s =
        (.error (.instanceNotFound instanceId), s) := by
      unfold InMemory.perform
      dsimp only
      rw [hfind]
    rw [hlookup]
    rfl
  | some details =>
    obtain ⟨order, rfl⟩ := hs.details_eq hfind
    have hlookup : InMemory.perform (.clusterDetail instanceId) s =
        (.ok (InMemory.detailsFor order), s) := by
      unfold InMemory.perform
      dsimp only
      rw [hfind]
    rw [hlookup]
    dsimp only
    rw [InMemory.base_detailsFor]
    dsimp only
    rw [runAlone_execute_bind, executor_perform]
    cases hbinding : s.bindings.find? (instanceId, bindingId) with
    | none =>
      have hcreation : InMemory.perform (.createBinding instanceId bindingId r.appId) s =
          (.ok (InMemory.credentialFor bindingId),
            { s with
              bindings := s.bindings.put (instanceId, bindingId)
                (InMemory.credentialFor bindingId) }) := by
        unfold InMemory.perform
        dsimp only
        rw [hfind, hbinding]
      rw [hcreation]
      dsimp only
      rw [InMemory.ofCredential_detailsFor]
      rfl
    | some credential =>
      have hcreation : InMemory.perform (.createBinding instanceId bindingId r.appId) s =
          (.ok (InMemory.credentialFor bindingId), s) := by
        unfold InMemory.perform
        dsimp only
        rw [hfind, hbinding, hs.credential_eq hbinding]
      rw [hcreation]
      dsimp only
      rw [InMemory.ofCredential_detailsFor]
      rfl

/-- In tables that are in order, every call does one of the things that calls are said to do. -/
theorem serves_serve (b : Broker) (hs : s.Valid) (call : Call) :
    Serves b s call (b.serve InMemory.executor call s).1 (b.serve InMemory.executor call s).2 := by
  unfold serve
  cases call with
  | provision instanceId r acceptsIncomplete =>
    rw [perform, runAlone_map]
    cases hparameters : ProvisionParameters.ofMembers r.parameters with
    | error failure =>
      rw [provision, hparameters]
      exact .incomplete instanceId acceptsIncomplete hparameters
    | ok parameters =>
      rw [runAlone_provision b instanceId acceptsIncomplete hparameters]
      exact .provisioned instanceId r acceptsIncomplete _
  | deprovision instanceId acceptsIncomplete =>
    rw [perform, runAlone_map, runAlone_deprovision]
    split_ifs with hfind hbindings
    · exact .alreadyGone acceptsIncomplete hfind
    · exact .bindingsRemain acceptsIncomplete (Option.isSome_iff_ne_none.mpr hfind) hbindings
    · exact .deprovisioned acceptsIncomplete (Option.isSome_iff_ne_none.mpr hfind) hbindings
  | update instanceId r acceptsIncomplete => exact .updated instanceId r acceptsIncomplete
  | bind instanceId bindingId r =>
    rw [perform, runAlone_map, runAlone_bind hs]
    split_ifs with hfind hbinding
    · exact .unknown bindingId r hfind
    · exact .bound r (Option.isSome_iff_ne_none.mpr hfind) hbinding
    · exact .boundAgain r (Option.isSome_iff_ne_none.mpr hfind)
        (Option.isSome_iff_ne_none.mpr hbinding)
  | unbind instanceId bindingId => exact .unbound instanceId bindingId
  | lastOperation instanceId => exact .polled instanceId

end ServiceBroker.Broker

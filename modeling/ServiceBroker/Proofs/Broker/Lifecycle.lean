import Mathlib.Data.List.Nodup
import ServiceBroker.Proofs.Broker.Session

/-!
# The lifecycle of instances and bindings

What is live after some calls can be told from their outcomes alone: an instance that has been
provisioned and not deprovisioned since, and a binding that has been bound and not unbound since.
Over the executor in memory the tables hold what is live, and so every call succeeds or fails as the
history of the calls before it says.

## Main definitions

* `Broker.Since`: something has been started and not been stopped since
* `Broker.IsLiveInstance`, `Broker.IsLiveBinding`: what is live after a history
* `Broker.Conforms`: the outcome of a call is the one that the history before it asks for
* `Broker.Tracks`: the tables hold what is live

## Main results

* `Broker.Tracks.step`: every call keeps the tables to what is live
* `Broker.play_refines_lifecycle`: every history follows the lifecycle
-/

namespace ServiceBroker.Broker

/-! ### What is live -/

variable {starts stops : Entry → Prop} {history : List Entry}

/-- Something that some entries start and others stop has been started, and not been stopped since:
its latest start is later than its latest stop. -/
def Since (starts stops : Entry → Prop) (history : List Entry) : Prop :=
  ∃ before e after, history = before ++ e :: after ∧ starts e ∧ ∀ e' ∈ after, ¬ stops e'

theorem not_since_nil : ¬ Since starts stops [] := by
  rintro ⟨before, e, after, h, -⟩
  simp at h

/-- After one more entry, something has just been started, or it has not been stopped by it. -/
theorem since_append_singleton_iff {e : Entry} :
    Since starts stops (history ++ [e]) ↔ starts e ∨ (Since starts stops history ∧ ¬ stops e) := by
  constructor
  · rintro ⟨before, e', after, h, hstarts, hstops⟩
    rcases after.eq_nil_or_concat' with rfl | ⟨after, last, rfl⟩
    · obtain ⟨-, heq⟩ := List.append_inj' h rfl
      obtain rfl := List.singleton_inj.mp heq
      exact .inl hstarts
    · rw [← List.cons_append, ← List.append_assoc] at h
      obtain ⟨rfl, heq⟩ := List.append_inj' h rfl
      obtain rfl := List.singleton_inj.mp heq
      exact .inr ⟨⟨before, e', after, rfl, hstarts, fun e'' h => hstops e'' (by simp [h])⟩,
        hstops e (by simp)⟩
  · rintro (hstarts | ⟨⟨before, e', after, rfl, hstarts, hstops⟩, hlast⟩)
    · exact ⟨history, e, [], rfl, hstarts, by simp⟩
    · refine ⟨before, e', after ++ [e], by simp, hstarts, fun e'' h => ?_⟩
      rcases List.mem_append.mp h with h | h
      · exact hstops e'' h
      · exact List.mem_singleton.mp h ▸ hlast

/-- The entry provisions the instance. -/
def Provisions (instanceId : String) (e : Entry) : Prop :=
  (∃ r acceptsIncomplete, e.call = .provision instanceId r acceptsIncomplete) ∧ e.outcome.isOk

/-- The entry deprovisions the instance. -/
def Deprovisions (instanceId : String) (e : Entry) : Prop :=
  (∃ acceptsIncomplete, e.call = .deprovision instanceId acceptsIncomplete) ∧ e.outcome.isOk

/-- The entry issues the credentials of the binding. -/
def IsBind (instanceId bindingId : String) (e : Entry) : Prop :=
  (∃ r, e.call = .bind instanceId bindingId r) ∧ e.outcome.isOk

/-- The entry withdraws the credentials of the binding. -/
def IsUnbind (instanceId bindingId : String) (e : Entry) : Prop :=
  e.call = .unbind instanceId bindingId

section Entries

variable {i j i' j' : String} {outcome : Except Failure Answer}

@[simp] theorem provisions_provision_iff {r : ProvisionRequest} {acceptsIncomplete : Bool} :
    Provisions i ⟨.provision i' r acceptsIncomplete, outcome⟩ ↔ i = i' ∧ outcome.isOk := by
  constructor
  · rintro ⟨⟨r, acceptsIncomplete, hcall⟩, hok⟩
    cases hcall
    exact ⟨rfl, hok⟩
  · rintro ⟨rfl, hok⟩
    exact ⟨⟨_, _, rfl⟩, hok⟩

@[simp] theorem deprovisions_deprovision_iff {acceptsIncomplete : Bool} :
    Deprovisions i ⟨.deprovision i' acceptsIncomplete, outcome⟩ ↔ i = i' ∧ outcome.isOk := by
  constructor
  · rintro ⟨⟨acceptsIncomplete, hcall⟩, hok⟩
    cases hcall
    exact ⟨rfl, hok⟩
  · rintro ⟨rfl, hok⟩
    exact ⟨⟨_, rfl⟩, hok⟩

@[simp] theorem isBind_bind_iff {r : BindRequest} :
    IsBind i j ⟨.bind i' j' r, outcome⟩ ↔ (i = i' ∧ j = j') ∧ outcome.isOk := by
  constructor
  · rintro ⟨⟨r, hcall⟩, hok⟩
    cases hcall
    exact ⟨⟨rfl, rfl⟩, hok⟩
  · rintro ⟨⟨rfl, rfl⟩, hok⟩
    exact ⟨⟨_, rfl⟩, hok⟩

@[simp] theorem isUnbind_unbind_iff :
    IsUnbind i j ⟨.unbind i' j', outcome⟩ ↔ i = i' ∧ j = j' := by
  constructor
  · intro hcall
    cases hcall
    exact ⟨rfl, rfl⟩
  · rintro ⟨rfl, rfl⟩
    rfl

end Entries

/-- The latest success in provisioning the instance is later than that in deprovisioning it. -/
def IsLiveInstance (history : List Entry) (instanceId : String) : Prop :=
  Since (Provisions instanceId) (Deprovisions instanceId) history

/-- The latest success in binding is later than the latest unbinding. -/
def IsLiveBinding (history : List Entry) (instanceId bindingId : String) : Prop :=
  Since (IsBind instanceId bindingId) (IsUnbind instanceId bindingId) history

/-- The outcome of a call is the one that the history before it asks for. -/
structure Conforms (past : List Entry) (e : Entry) : Prop where
  /-- Binding succeeds exactly if the instance is live, and fails for its absence otherwise. -/
  bind {instanceId bindingId : String} {r : BindRequest} :
    e.call = .bind instanceId bindingId r →
    (IsLiveInstance past instanceId ∧ e.outcome.isOk) ∨
      (¬ IsLiveInstance past instanceId ∧
        e.outcome = .error (.executor (.instanceNotFound instanceId)))
  /-- Deprovisioning fails exactly if a binding is live, and for that. -/
  deprovision {instanceId : String} {acceptsIncomplete : Bool} :
    e.call = .deprovision instanceId acceptsIncomplete →
    ((∃ bindingId, IsLiveBinding past instanceId bindingId) ∧
        e.outcome = .error (.executor (.bindingsRemain instanceId))) ∨
      ((¬ ∃ bindingId, IsLiveBinding past instanceId bindingId) ∧ e.outcome.isOk)
  update {instanceId : String} {r : UpdateRequest} {acceptsIncomplete : Bool} :
    e.call = .update instanceId r acceptsIncomplete → e.outcome.isOk
  unbind {instanceId bindingId : String} :
    e.call = .unbind instanceId bindingId → e.outcome.isOk
  lastOperation {instanceId : String} : e.call = .lastOperation instanceId → e.outcome.isOk

/-! ### What the tables hold -/

/-- The tables are in order and hold what is live after the history. -/
structure Tracks (history : List Entry) (s : InMemory) : Prop where
  valid : s.Valid
  instances_iff (instanceId : String) :
    (s.instances.find? instanceId).isSome ↔ IsLiveInstance history instanceId
  bindings_iff (instanceId bindingId : String) :
    (s.bindings.find? (instanceId, bindingId)).isSome ↔ IsLiveBinding history instanceId bindingId

theorem tracks_nil : Tracks [] InMemory.empty where
  valid := InMemory.valid_empty
  instances_iff _ := iff_of_false nofun not_since_nil
  bindings_iff _ _ := iff_of_false nofun not_since_nil

variable {b : Broker} {s s' : InMemory} {call : Call} {outcome : Except Failure Answer}

/-- What a call does to the instances that are kept. -/
theorem Serves.instances_iff (hserves : Serves b s call outcome s') (i : String) :
    (s'.instances.find? i).isSome ↔ Provisions i ⟨call, outcome⟩ ∨
      ((s.instances.find? i).isSome ∧ ¬ Deprovisions i ⟨call, outcome⟩) := by
  cases hserves with
  | incomplete instanceId acceptsIncomplete hparameters => simp [Provisions, Deprovisions]
  | provisioned instanceId r acceptsIncomplete details =>
    by_cases hi : i = instanceId
    · simp [Table.find?_put, hi]
    · simp [Table.find?_put, Deprovisions, hi]
  | @alreadyGone instanceId acceptsIncomplete hfind =>
    -- Nothing is erased, but the instance is not live before either.
    by_cases hi : i = instanceId
    · simp [Provisions, hi, hfind]
    · simp [Provisions, hi]
  | bindingsRemain acceptsIncomplete hfind hbindings => simp [Provisions]
  | @deprovisioned instanceId acceptsIncomplete hfind hbindings =>
    by_cases hi : i = instanceId
    · simp [Table.find?_erase, Provisions, hi]
    · simp [Table.find?_erase, Provisions, hi]
  | updated instanceId r acceptsIncomplete => simp [Provisions, Deprovisions]
  | unknown bindingId r hfind => simp [Provisions, Deprovisions]
  | boundAgain r hfind hbinding => simp [Provisions, Deprovisions]
  | bound r hfind hbinding => simp [Provisions, Deprovisions]
  | unbound instanceId bindingId => simp [Provisions, Deprovisions]
  | polled instanceId => simp [Provisions, Deprovisions]

/-- What a call does to the bindings that are kept. -/
theorem Serves.bindings_iff (hserves : Serves b s call outcome s') (i j : String) :
    (s'.bindings.find? (i, j)).isSome ↔ IsBind i j ⟨call, outcome⟩ ∨
      ((s.bindings.find? (i, j)).isSome ∧ ¬ IsUnbind i j ⟨call, outcome⟩) := by
  cases hserves with
  | incomplete instanceId acceptsIncomplete hparameters => simp [IsBind, IsUnbind]
  | provisioned instanceId r acceptsIncomplete details => simp [IsBind, IsUnbind]
  | alreadyGone acceptsIncomplete hfind => simp [IsBind, IsUnbind]
  | bindingsRemain acceptsIncomplete hfind hbindings => simp [IsBind, IsUnbind]
  | deprovisioned acceptsIncomplete hfind hbindings => simp [IsBind, IsUnbind]
  | updated instanceId r acceptsIncomplete => simp [IsBind, IsUnbind]
  | unknown bindingId r hfind => simp [IsUnbind]
  | @boundAgain instanceId bindingId r hfind hbinding =>
    -- Nothing is put, but the binding is live before already.
    by_cases hkey : i = instanceId ∧ j = bindingId
    · simp [hkey, hbinding]
    · simp [IsUnbind, hkey]
  | @bound instanceId bindingId r hfind hbinding =>
    by_cases hkey : i = instanceId ∧ j = bindingId
    · simp [Table.find?_put, hkey]
    · simp [Table.find?_put, IsUnbind, hkey]
  | unbound instanceId bindingId =>
    by_cases hkey : i = instanceId ∧ j = bindingId
    · simp [Table.find?_erase, IsBind, hkey]
    · simp [Table.find?_erase, IsBind, hkey]
  | polled instanceId => simp [IsBind, IsUnbind]

/-- Every call keeps the tables to what is live. -/
theorem Tracks.step (h : Tracks history s) (hvalid : s'.Valid)
    (hserves : Serves b s call outcome s') : Tracks (history ++ [⟨call, outcome⟩]) s' where
  valid := hvalid
  instances_iff i := by
    rw [IsLiveInstance, since_append_singleton_iff, hserves.instances_iff, h.instances_iff]
    rfl
  bindings_iff i j := by
    rw [IsLiveBinding, since_append_singleton_iff, hserves.bindings_iff, h.bindings_iff]
    rfl

/-! ### What a call comes to -/

/-- Where the tables hold what is live, the outcome of a call is the one that the history asks
for. -/
theorem Tracks.conforms (h : Tracks history s) (hserves : Serves b s call outcome s') :
    Conforms history ⟨call, outcome⟩ where
  bind {instanceId bindingId r} hcall := by
    obtain rfl : call = .bind instanceId bindingId r := hcall
    rw [← h.instances_iff]
    cases hserves with
    | unknown _ _ hfind => exact .inr ⟨by simp [hfind], rfl⟩
    | boundAgain _ hfind hbinding => exact .inl ⟨hfind, rfl⟩
    | bound _ hfind hbinding => exact .inl ⟨hfind, rfl⟩
  deprovision {instanceId acceptsIncomplete} hcall := by
    obtain rfl : call = .deprovision instanceId acceptsIncomplete := hcall
    simp only [← h.bindings_iff]
    cases hserves with
    | alreadyGone _ hfind =>
      -- An instance that is gone has left no binding behind.
      refine .inr ⟨?_, rfl⟩
      rintro ⟨bindingId, hbinding⟩
      simpa [hfind] using h.valid.bound hbinding
    | bindingsRemain _ hfind hbindings => exact .inl ⟨InMemory.hasBindings_iff.mp hbindings, rfl⟩
    | deprovisioned _ hfind hbindings =>
      exact .inr ⟨mt InMemory.hasBindings_iff.mpr hbindings, rfl⟩
  update {instanceId r acceptsIncomplete} hcall := by
    obtain rfl : call = .update instanceId r acceptsIncomplete := hcall
    cases hserves
    rfl
  unbind {instanceId bindingId} hcall := by
    obtain rfl : call = .unbind instanceId bindingId := hcall
    cases hserves
    rfl
  lastOperation {instanceId} hcall := by
    obtain rfl : call = .lastOperation instanceId := hcall
    cases hserves
    rfl

/-- The document of a binding that succeeds depends on its ID only. -/
theorem Serves.outcome_eq (hserves : Serves b s call outcome s') {i j : String}
    (h : IsBind i j ⟨call, outcome⟩) :
    outcome = .ok (.connection (InMemory.connectionFor j)) := by
  obtain ⟨⟨r, hcall⟩, hok⟩ := h
  obtain rfl : call = .bind i j r := hcall
  cases hserves with
  | unknown _ _ hfind => cases hok
  | boundAgain _ hfind hbinding => rfl
  | bound _ hfind hbinding => rfl

/-! ### Whole histories -/

/-- What every call preserves holds after all calls. -/
theorem play_induction {P : Session InMemory → Prop} (hfirst : P ⟨[], InMemory.empty⟩)
    (hstep : ∀ history s call outcome s', s'.Valid → Serves b s call outcome s' →
      P ⟨history, s⟩ → P ⟨history ++ [⟨call, outcome⟩], s'⟩)
    (calls : List Call) : P (b.playInMemory calls) := by
  have hall : (b.playInMemory calls).state.Valid ∧ P (b.playInMemory calls) := by
    unfold playInMemory
    induction calls using List.reverseRecOn with
    | nil => exact ⟨InMemory.valid_empty, hfirst⟩
    | append_singleton calls call ih =>
      rw [play_append_singleton]
      have hvalid := runAlone_preserves (P := InMemory.Valid) (e := InMemory.executor)
        (fun op _ hs => hs.perform op) (b.perform call) ih.1
      exact ⟨hvalid, hstep _ _ _ _ _ hvalid (serves_serve b ih.1 call) ih.2⟩
  exact hall.2

/-- The tables hold what is live after all calls. -/
theorem tracks_play (b : Broker) (calls : List Call) :
    Tracks (b.playInMemory calls).history (b.playInMemory calls).state :=
  play_induction (P := fun session => Tracks session.history session.state) tracks_nil
    (fun _ _ _ _ _ hvalid hserves h => h.step hvalid hserves) calls

/-- Every call in a history conforms to the history before it. -/
theorem conforms_play (b : Broker) (calls : List Call) :
    ∀ past e rest, (b.playInMemory calls).history = past ++ e :: rest → Conforms past e := by
  have hall := play_induction (b := b) (P := fun session => Tracks session.history session.state ∧
      ∀ past e rest, session.history = past ++ e :: rest → Conforms past e)
    ⟨tracks_nil, fun past e rest h => by simp at h⟩ ?_ calls
  · exact hall.2
  · intro history s call outcome s' hvalid hserves h
    refine ⟨h.1.step hvalid hserves, fun past e rest heq => ?_⟩
    -- The entry is the new one, of which the invariant speaks, or one of those before it.
    rcases rest.eq_nil_or_concat' with rfl | ⟨rest, last, rfl⟩
    · obtain ⟨rfl, hlast⟩ := List.append_inj' heq rfl
      obtain rfl := List.singleton_inj.mp hlast
      exact h.1.conforms hserves
    · rw [← List.cons_append, ← List.append_assoc] at heq
      obtain ⟨rfl, -⟩ := List.append_inj' heq rfl
      exact h.2 past e rest rfl

/-- Every binding that succeeds gives the document that follows from its ID. -/
theorem outcome_of_mem_play (b : Broker) (calls : List Call) {i j : String} {e : Entry}
    (he : e ∈ (b.playInMemory calls).history) (hbind : IsBind i j e) :
    e.outcome = .ok (.connection (InMemory.connectionFor j)) := by
  have hall := play_induction (b := b) (P := fun session => ∀ e ∈ session.history, IsBind i j e →
      e.outcome = .ok (.connection (InMemory.connectionFor j))) (by simp) ?_ calls
  · exact hall e he hbind
  · intro history s call outcome s' _ hserves h e he hbind
    rcases List.mem_append.mp he with he | he
    · exact h e he hbind
    · obtain rfl := List.mem_singleton.mp he
      exact hserves.outcome_eq hbind

/-- The bindings of an instance are counted once each. -/
theorem exists_list_of_bindings (hs : s.Valid) (i : String) :
    ∃ bindings : List String, bindings.Nodup ∧
      (∀ j, j ∈ bindings ↔ (s.bindings.find? (i, j)).isSome) ∧
      s.bindingCount i = bindings.length := by
  refine ⟨(s.bindings.keys.filter fun key => key.1 == i).map (·.2), ?_, fun j => ?_, ?_⟩
  · refine List.Nodup.map_on ?_ (hs.bindings_nodup.filter _)
    rintro ⟨i₁, j₁⟩ h₁ ⟨i₂, j₂⟩ h₂ rfl
    have h₁ : i₁ = i := by simpa using (List.mem_filter.mp h₁).2
    have h₂ : i₂ = i := by simpa using (List.mem_filter.mp h₂).2
    rw [h₁, h₂]
  · rw [Table.isSome_find?_iff, List.mem_map]
    constructor
    · rintro ⟨⟨i', j'⟩, hmem, rfl⟩
      obtain ⟨hkept, heq⟩ := List.mem_filter.mp hmem
      obtain rfl : i' = i := by simpa using heq
      exact hkept
    · intro hmem
      exact ⟨(i, j), List.mem_filter.mpr ⟨hmem, by simp⟩, rfl⟩
  · rw [List.length_map, InMemory.bindingCount, List.countP_eq_length_filter]

/-- Every history of calls over the executor in memory, from empty tables on, follows the lifecycle:
each call comes to what the calls before it ask for, a binding is always given the same document,
and the bindings that are kept are the live ones, each counted once and each of a live instance. -/
theorem play_refines_lifecycle (b : Broker) (calls : List Call) :
    (b.playInMemory calls).history.map Entry.call = calls ∧
    (∀ past e rest, (b.playInMemory calls).history = past ++ e :: rest → Conforms past e) ∧
    (∀ i j, ∀ e ∈ (b.playInMemory calls).history, ∀ e' ∈ (b.playInMemory calls).history,
      IsBind i j e → IsBind i j e' → e.outcome = e'.outcome) ∧
    (∀ i, ∃ live : List String, live.Nodup ∧
      (∀ j, j ∈ live ↔ IsLiveBinding (b.playInMemory calls).history i j) ∧
      (∀ j, j ∈ live ↔ (i, j) ∈ (b.playInMemory calls).state.bindings.keys) ∧
      (b.playInMemory calls).state.bindingCount i = live.length) ∧
    (∀ i j, IsLiveBinding (b.playInMemory calls).history i j →
      IsLiveInstance (b.playInMemory calls).history i) := by
  have htracks := tracks_play b calls
  refine ⟨?_, conforms_play b calls, ?_, ?_, ?_⟩
  · exact calls_play _ calls
  · intro i j e he e' he' hbind hbind'
    rw [outcome_of_mem_play b calls he hbind, outcome_of_mem_play b calls he' hbind']
  · intro i
    obtain ⟨live, hnodup, hlive, hcount⟩ := exists_list_of_bindings htracks.valid i
    refine ⟨live, hnodup, fun j => ?_, fun j => ?_, hcount⟩
    · rw [hlive, htracks.bindings_iff]
    · rw [hlive, Table.isSome_find?_iff]
  · intro i j hbinding
    rw [← htracks.instances_iff]
    exact htracks.valid.bound ((htracks.bindings_iff i j).mpr hbinding)

/-- An instance that has been provisioned and bound cannot be deprovisioned. -/
theorem deprovision_fails_while_bound :
    ∃ past outcome, ((⟨"service", true⟩ : Broker).playInMemory [
        .provision "i" ⟨"service", "plan", none, none,
          some [("CLUSTERNAME", .string "c"), ("NAMESPACE", .string "n")], none⟩ false,
        .bind "i" "b" ⟨"service", "plan", none, none, none⟩,
        .deprovision "i" false]).history = past ++ [⟨.deprovision "i" false, outcome⟩] ∧
      outcome = .error (.executor (.bindingsRemain "i")) := by
  have hconforms := (play_refines_lifecycle ⟨"service", true⟩ [
    .provision "i" ⟨"service", "plan", none, none,
      some [("CLUSTERNAME", .string "c"), ("NAMESPACE", .string "n")], none⟩ false,
    .bind "i" "b" ⟨"service", "plan", none, none, none⟩,
    .deprovision "i" false]).2.1
  refine ⟨[_, _], _, rfl, ?_⟩
  rcases (hconforms [_] _ [_] rfl).bind rfl with ⟨-, hbound⟩ | ⟨habsent, -⟩
  · rcases (hconforms [_, _] _ [] rfl).deprovision rfl with ⟨-, hfails⟩ | ⟨hnone, -⟩
    · exact hfails
    · exact absurd ⟨"b", [_], _, [], rfl, ⟨⟨_, rfl⟩, hbound⟩, by simp⟩ hnone
  · exact absurd ⟨[], _, [], rfl, ⟨⟨_, _, rfl⟩, rfl⟩, by simp⟩ habsent

end ServiceBroker.Broker

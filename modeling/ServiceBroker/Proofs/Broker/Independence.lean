import Mathlib.Data.Bool.Basic
import ServiceBroker.Proofs.Broker.Interleaving

/-!
# Instances do not disturb each other

The executor in memory keeps the bindings of all instances in one table, and looks through all of it
before an instance is deleted. Still every operation sees and changes the part of its own instance
only, whatever the IDs of the bindings are. So calls on one instance have the outcomes that they
would have alone, however calls on another come in between, and the tables that they lead to hold
the same as if all calls on the one had been made before those on the other.

## Main definitions

* `InMemory.AgreeOn`, `InMemory.Same`: tables that hold the same of an instance, and of all
* `Broker.Call.instanceId`: the instance that a call is about
* `Broker.StaysOn`: programs that ask for nothing but operations on an instance
* `Broker.Merges`: a list that two lists can be merged to
* `Broker.performAll`: calls one after the other, as one program

## Main results

* `InMemory.agreeOn_perform_of_ne`, `InMemory.AgreeOn.perform`: what an operation changes, and what
  it depends on
* `Broker.StaysOn.agreeOn_runAlone_of_ne`, `Broker.StaysOn.runAlone_congr`: the same for programs
* `Broker.merges_play`: calls on two instances, one call at a time
* `Broker.Interleaving.exists_runAlone_eq`: calls on instances of their own that overlap
* `Broker.instances_are_independent`: both are the same as one instance after the other
-/

namespace ServiceBroker

/-- The instance that an operation is about. -/
def Executor.Operation.instanceId : Executor.Operation → String
  | .createCluster order => order.instanceId
  | .deleteCluster instanceId => instanceId
  | .createBinding instanceId _ _ => instanceId
  | .deleteBinding instanceId _ => instanceId
  | .clusterDetail instanceId => instanceId

/-! ### The part of an instance -/

namespace InMemory

variable {s t u : InMemory} {id : String} {op : Executor.Operation}

/-- The tables hold the same of an instance. -/
structure AgreeOn (id : String) (s t : InMemory) : Prop where
  cluster : s.instances.find? id = t.instances.find? id
  binding (bindingId : String) : s.bindings.find? (id, bindingId) = t.bindings.find? (id, bindingId)

/-- The tables hold the same, in whatever order. -/
def Same (s t : InMemory) : Prop := ∀ id, AgreeOn id s t

theorem AgreeOn.refl (id : String) (s : InMemory) : AgreeOn id s s := ⟨rfl, fun _ => rfl⟩

theorem AgreeOn.symm (h : AgreeOn id s t) : AgreeOn id t s :=
  ⟨h.cluster.symm, fun bindingId => (h.binding bindingId).symm⟩

theorem AgreeOn.trans (h : AgreeOn id s t) (h' : AgreeOn id t u) : AgreeOn id s u :=
  ⟨h.cluster.trans h'.cluster, fun bindingId => (h.binding bindingId).trans (h'.binding bindingId)⟩

/-- Tables hold the same if they do so of two instances, and of the others. -/
theorem Same.of_agreeOn {i j : String} (hi : AgreeOn i s t) (hj : AgreeOn j s t)
    (hother : ∀ id, id ≠ i → id ≠ j → AgreeOn id s t) : Same s t := by
  intro id
  by_cases hidi : id = i
  · exact hidi ▸ hi
  · by_cases hidj : id = j
    · exact hidj ▸ hj
    · exact hother id hidi hidj

theorem AgreeOn.hasBindings_eq (h : AgreeOn id s t) : s.hasBindings id = t.hasBindings id := by
  rw [Bool.eq_iff_iff, hasBindings_iff, hasBindings_iff]
  simp only [h.binding]

/-- The part of another instance stays as it is. -/
theorem agreeOn_perform_of_ne (h : id ≠ op.instanceId) : AgreeOn id (perform op s).2 s := by
  cases op with
  | createCluster order =>
    have hne : id ≠ order.instanceId := h
    exact ⟨by simp [perform, Table.find?_put, hne], fun _ => rfl⟩
  | deleteCluster instanceId =>
    have hne : id ≠ instanceId := h
    unfold perform
    dsimp only
    split
    · exact .refl id s
    · split
      · exact .refl id s
      · exact ⟨by simp [Table.find?_erase, hne], fun _ => rfl⟩
  | createBinding instanceId bindingId appId =>
    have hne : id ≠ instanceId := h
    unfold perform
    dsimp only
    split
    · exact .refl id s
    · split
      · exact .refl id s
      · exact ⟨rfl, fun _ => by simp [Table.find?_put, hne]⟩
  | deleteBinding instanceId bindingId =>
    have hne : id ≠ instanceId := h
    exact ⟨rfl, fun _ => by simp [perform, Table.find?_erase, hne]⟩
  | clusterDetail instanceId =>
    rw [perform_clusterDetail]
    split <;> exact .refl id s

/-- The part of its own instance is all that an operation depends on. -/
theorem AgreeOn.perform (h : AgreeOn op.instanceId s t) :
    (InMemory.perform op s).1 = (InMemory.perform op t).1 ∧
      AgreeOn op.instanceId (InMemory.perform op s).2 (InMemory.perform op t).2 := by
  cases op with
  | createCluster order =>
    exact ⟨rfl, by simp [InMemory.perform, Table.find?_put, Executor.Operation.instanceId],
      fun bindingId => h.binding bindingId⟩
  | deleteCluster instanceId =>
    have hcluster : s.instances.find? instanceId = t.instances.find? instanceId := h.cluster
    have hbindings : s.hasBindings instanceId = t.hasBindings instanceId := h.hasBindings_eq
    unfold InMemory.perform
    dsimp only
    rw [hcluster, hbindings]
    split
    · exact ⟨rfl, h⟩
    · split
      · exact ⟨rfl, h⟩
      · exact ⟨rfl, by simp [Table.find?_erase, Executor.Operation.instanceId], h.binding⟩
  | createBinding instanceId bindingId appId =>
    have hcluster : s.instances.find? instanceId = t.instances.find? instanceId := h.cluster
    have hbinding := h.binding bindingId
    unfold InMemory.perform
    dsimp only [Executor.Operation.instanceId] at hbinding ⊢
    rw [hcluster, hbinding]
    split
    · exact ⟨rfl, h⟩
    · split
      · exact ⟨rfl, h⟩
      · refine ⟨rfl, hcluster, fun other => ?_⟩
        rw [Table.find?_put, Table.find?_put]
        exact if_congr Iff.rfl rfl (h.binding other)
  | deleteBinding instanceId bindingId =>
    refine ⟨rfl, h.cluster, fun other => ?_⟩
    dsimp only [InMemory.perform]
    rw [Table.find?_erase, Table.find?_erase]
    exact if_congr Iff.rfl rfl (h.binding other)
  | clusterDetail instanceId =>
    have hcluster : s.instances.find? instanceId = t.instances.find? instanceId := h.cluster
    rw [perform_clusterDetail, perform_clusterDetail, hcluster]
    split <;> exact ⟨rfl, h⟩

end InMemory

namespace Broker

variable {α β : Type} {b : Broker} {s t u : InMemory} {id i j : String} {call : Call}
  {calls xs ys zs : List Call} {p : Program effects α}

/-! ### Programs on one instance -/

/-- The instance that a call is about. -/
def Call.instanceId : Call → String
  | .provision instanceId _ _ => instanceId
  | .deprovision instanceId _ => instanceId
  | .update instanceId _ _ => instanceId
  | .bind instanceId _ _ => instanceId
  | .unbind instanceId _ => instanceId
  | .lastOperation instanceId => instanceId

/-- The request is an operation on the instance, or one of the lock. -/
def Request.IsOn (id : String) : Request → Prop
  | .execute op => op.instanceId = id
  | .acquire | .release => True

/-- The program asks for nothing but operations on the instance, and the lock. -/
def StaysOn (id : String) (p : Program effects α) : Prop :=
  Program.Always (E := effects) (fun r _ => r.IsOn id) p

/-- A call asks for nothing but operations on its instance. -/
theorem staysOn_perform (b : Broker) (call : Call) : StaysOn call.instanceId (b.perform call) := by
  refine (always_mayAsk_perform b call).mono fun r _ hr => ?_
  match r with
  | .acquire | .release => trivial
  | .execute op =>
    rcases hr with hchange | hother
    · cases call with
      | provision instanceId r acceptsIncomplete =>
        obtain ⟨parameters, -, rfl⟩ := Option.map_eq_some_iff.mp hchange
        rfl
      | deprovision instanceId acceptsIncomplete =>
        obtain rfl := Option.some.inj hchange
        rfl
      | update | bind | unbind | lastOperation => cases hchange
    · cases call with
      | provision | deprovision | update | lastOperation => cases hother
      | bind instanceId bindingId r => rcases hother with rfl | rfl <;> rfl
      | unbind instanceId bindingId =>
        obtain rfl := hother
        rfl

/-- A program on one instance leaves the others as they are. -/
theorem StaysOn.agreeOn_runAlone_of_ne (hp : StaysOn i p) (h : j ≠ i) (s : InMemory) :
    InMemory.AgreeOn j (runAlone InMemory.executor p s).2 s := by
  unfold runAlone
  induction p generalizing s with
  | done a => exact .refl j s
  | ask r resume ih =>
    cases r with
    | execute op =>
      have hop : j ≠ op.instanceId := hp.1 ▸ h
      exact (ih _ (hp.2 _) _).trans (InMemory.agreeOn_perform_of_ne hop)
    | acquire => exact ih () (hp.2 ()) s
    | release => exact ih () (hp.2 ()) s

/-- What a program on one instance comes to depends on the part of that instance only. -/
theorem StaysOn.runAlone_congr (hp : StaysOn i p) (h : InMemory.AgreeOn i s t) :
    (runAlone InMemory.executor p s).1 = (runAlone InMemory.executor p t).1 ∧
      InMemory.AgreeOn i (runAlone InMemory.executor p s).2
        (runAlone InMemory.executor p t).2 := by
  induction p generalizing s t with
  | done a => exact ⟨rfl, h⟩
  | ask r resume ih =>
    cases r with
    | execute op =>
      obtain rfl : op.instanceId = i := hp.1
      obtain ⟨hreply, hafter⟩ := h.perform
      change (runAlone InMemory.executor (resume (InMemory.perform op s).1) _).1 = _ ∧
        InMemory.AgreeOn _ (runAlone InMemory.executor (resume (InMemory.perform op s).1) _).2 _
      rw [hreply]
      exact ih _ (hp.2 _) hafter
    | acquire => exact ih () (hp.2 ()) h
    | release => exact ih () (hp.2 ()) h

/-! ### One call at a time -/

/-- Two lists can be merged to the third: it holds the entries of both, those of each in order. -/
inductive Merges {α : Type} : List α → List α → List α → Prop where
  | nil : Merges [] [] []
  | left (a : α) {xs ys zs : List α} : Merges xs ys zs → Merges (a :: xs) ys (a :: zs)
  | right (a : α) {xs ys zs : List α} : Merges xs ys zs → Merges xs (a :: ys) (a :: zs)

theorem Merges.mem_iff {a : α} {xs ys zs : List α} (h : Merges xs ys zs) :
    a ∈ zs ↔ a ∈ xs ∨ a ∈ ys := by
  induction h with
  | nil => simp
  | left c _ ih => rw [List.mem_cons, List.mem_cons, ih, or_assoc]
  | right c _ ih => rw [List.mem_cons, List.mem_cons, ih, or_left_comm]

theorem agreeOn_play_of_ne (h : ∀ call ∈ calls, j ≠ call.instanceId) (s : InMemory) :
    InMemory.AgreeOn j (b.play InMemory.executor s calls).state s := by
  induction calls generalizing s with
  | nil => exact .refl j s
  | cons call calls ih =>
    obtain ⟨hcall, hcalls⟩ := List.forall_mem_cons.mp h
    rw [play_cons]
    exact (ih hcalls _).trans ((staysOn_perform b call).agreeOn_runAlone_of_ne hcall s)

/-- Calls on two instances have the outcomes that those on each have alone, and lead to the part of
each that these lead to. -/
theorem merges_play (hij : i ≠ j) (hmerges : Merges xs ys zs)
    (hxs : ∀ call ∈ xs, call.instanceId = i) (hys : ∀ call ∈ ys, call.instanceId = j)
    (ht : InMemory.AgreeOn i s t) (hu : InMemory.AgreeOn j s u) :
    Merges (b.play InMemory.executor t xs).history (b.play InMemory.executor u ys).history
        (b.play InMemory.executor s zs).history ∧
      InMemory.AgreeOn i (b.play InMemory.executor s zs).state
        (b.play InMemory.executor t xs).state ∧
      InMemory.AgreeOn j (b.play InMemory.executor s zs).state
        (b.play InMemory.executor u ys).state := by
  induction hmerges generalizing s t u with
  | nil => exact ⟨.nil, ht, hu⟩
  | left call _ ih =>
    obtain ⟨hcall, hxs⟩ := List.forall_mem_cons.mp hxs
    subst hcall
    -- The call finds the part that it would find alone, and the other part is not touched by it.
    obtain ⟨houtcome, hafter⟩ := (staysOn_perform b call).runAlone_congr ht
    have hother := (staysOn_perform b call).agreeOn_runAlone_of_ne hij.symm s
    obtain ⟨hhistory, hstates⟩ := ih hxs hys hafter (hother.trans hu)
    rw [play_cons s, play_cons t]
    refine ⟨?_, hstates⟩
    dsimp only [serve]
    rw [← houtcome]
    exact .left _ hhistory
  | right call _ ih =>
    obtain ⟨hcall, hys⟩ := List.forall_mem_cons.mp hys
    subst hcall
    obtain ⟨houtcome, hafter⟩ := (staysOn_perform b call).runAlone_congr hu
    have hother := (staysOn_perform b call).agreeOn_runAlone_of_ne hij s
    obtain ⟨hhistory, hstates⟩ := ih hxs hys (hother.trans ht) hafter
    rw [play_cons s, play_cons u]
    refine ⟨?_, hstates⟩
    dsimp only [serve]
    rw [← houtcome]
    exact .right _ hhistory

/-! ### Calls that overlap -/

/-- The program of calls that are made one after the other, with all their outcomes. -/
def performAll (b : Broker) : List Call → Program effects (List (Except Failure Answer))
  | [] => .done []
  | call :: calls => do return (← b.perform call) :: (← b.performAll calls)

theorem staysOn_performAll (h : ∀ call ∈ calls, call.instanceId = i) :
    StaysOn i (b.performAll calls) := by
  induction calls with
  | nil => trivial
  | cons call calls ih =>
    obtain ⟨rfl, hcalls⟩ := List.forall_mem_cons.mp h
    exact Program.Always.bind (staysOn_perform b call) fun _ =>
      Program.Always.bind (ih hcalls) fun _ => trivial

/-- Alone it comes to the session of these calls. -/
theorem runAlone_performAll {σ : Type} {e : Executor σ} (first : σ) :
    runAlone e (b.performAll calls) first =
      ((b.play e first calls).history.map Entry.outcome, (b.play e first calls).state) := by
  induction calls generalizing first with
  | nil => rfl
  | cons call calls ih =>
    rw [play_cons]
    change runAlone e (b.perform call >>= fun outcome => _) first = _
    unfold runAlone at ih ⊢
    rw [Program.runIn_bind, Program.runIn_bind, ih]
    rfl

/-- What a turn of a program on one instance does: it leaves the others as they are, and the program
does the same to any tables that hold the same of its own. -/
theorem StaysOn.turn {w next : Shared InMemory} {r : Request}
    {resume : r.Reply → Program effects α} {reply : r.Reply}
    (h : StaysOn i (.ask (E := effects) r resume))
    (hmeet : w.meet? InMemory.executor r = some (reply, next)) :
    (∀ id, id ≠ i → InMemory.AgreeOn id next.state w.state) ∧ StaysOn i (resume reply) ∧
      ∀ t, InMemory.AgreeOn i w.state t → ∃ t', InMemory.AgreeOn i next.state t' ∧
        runAlone InMemory.executor (.ask (E := effects) r resume) t =
          runAlone InMemory.executor (resume reply) t' := by
  by_cases hr : r.IsQuiet
  · rw [Shared.state_of_meet? hr hmeet]
    cases r with
    | execute op => exact absurd rfl (hr op)
    | acquire => exact ⟨fun id _ => .refl id _, h.2 (), fun t ht => ⟨t, ht, rfl⟩⟩
    | release => exact ⟨fun id _ => .refl id _, h.2 (), fun t ht => ⟨t, ht, rfl⟩⟩
  · obtain ⟨op, rfl⟩ := not_forall_not.mp hr
    obtain rfl : op.instanceId = i := h.1
    obtain ⟨rfl, hstate⟩ := Shared.eq_of_meet?_execute hmeet
    rw [hstate]
    refine ⟨fun id hid => InMemory.agreeOn_perform_of_ne hid, h.2 _, fun t ht => ?_⟩
    obtain ⟨hreply, hafter⟩ := ht.perform
    refine ⟨_, hafter, ?_⟩
    rw [executor_perform, hreply]
    rfl

/-- While programs overlap, each on an instance of its own, each of them comes to what it would come
to alone, and the other instances stay as they are. -/
theorem Interleaving.exists_runAlone_eq {ι : Type} [DecidableEq ι] {ids : ι → String}
    {w w' : Shared InMemory} {programs programs' : ι → Program effects α}
    {log : List (ι × Program.Event effects)}
    (h : Interleaving InMemory.executor w programs log w' programs')
    (hids : Function.Injective ids) (hon : ∀ n, StaysOn (ids n) (programs n)) :
    (∀ n t, InMemory.AgreeOn (ids n) w.state t → ∃ t', InMemory.AgreeOn (ids n) w'.state t' ∧
      runAlone InMemory.executor (programs n) t = runAlone InMemory.executor (programs' n) t') ∧
    ∀ id, (∀ n, id ≠ ids n) → InMemory.AgreeOn id w'.state w.state := by
  induction h with
  | refl w programs => exact ⟨fun n t ht => ⟨t, ht, rfl⟩, fun id _ => .refl id _⟩
  | @turn w next w' programs programs' log m r resume reply hprogram hmeet _ ih =>
    obtain ⟨hafter, hm, hquiet⟩ := (hprogram ▸ hon m : StaysOn (ids m) _).turn hmeet
    obtain ⟨hown, hrest⟩ := ih fun n => by
      by_cases hn : n = m
      · subst hn
        rwa [Function.update_self]
      · rw [Function.update_of_ne hn]
        exact hon n
    refine ⟨fun n t ht => ?_, fun id hid => (hrest id hid).trans (hafter id (hid m))⟩
    by_cases hn : n = m
    · subst hn
      obtain ⟨t', ht', hrun⟩ := hquiet t ht
      obtain ⟨t'', ht'', hrun'⟩ := hown n t' ht'
      rw [Function.update_self] at hrun'
      exact ⟨t'', ht'', by rw [hprogram, hrun, hrun']⟩
    · -- A turn of another program is one on another instance.
      obtain ⟨t', ht', hrun⟩ := hown n t ((hafter _ fun heq => hn (hids heq)).trans ht)
      rw [Function.update_of_ne hn] at hrun
      exact ⟨t', ht', hrun⟩

/-! ### One instance after the other -/

/-- Calls on two instances have the outcomes that they have if those on the one are all made before
those on the other, and they leave the same instances and bindings. This is so if whole calls come in
any order in which those on each instance keep theirs, and also if the calls on the one overlap with
those on the other, so that their operations come in any order. -/
theorem instances_are_independent (b : Broker) (s : InMemory) (hij : i ≠ j)
    (hxs : ∀ call ∈ xs, call.instanceId = i) (hys : ∀ call ∈ ys, call.instanceId = j) :
    ∃ first second : List Entry,
      first.map Entry.call = xs ∧ second.map Entry.call = ys ∧
      (b.play InMemory.executor s (xs ++ ys)).history = first ++ second ∧
      (∀ zs, Merges xs ys zs →
        Merges first second (b.play InMemory.executor s zs).history ∧
        InMemory.Same (b.play InMemory.executor s zs).state
          (b.play InMemory.executor s (xs ++ ys)).state) ∧
      ∀ (log : List (Bool × Program.Event effects)) (w : Shared InMemory)
        (outcomes : Bool → List (Except Failure Answer)),
        Interleaving InMemory.executor ⟨false, s⟩ (fun side => b.performAll (cond side ys xs)) log w
          (fun side => .done (outcomes side)) →
        outcomes false = first.map Entry.outcome ∧ outcomes true = second.map Entry.outcome ∧
        InMemory.Same w.state (b.play InMemory.executor s (xs ++ ys)).state := by
  have hi := agreeOn_play_of_ne (b := b) (fun call h => hxs call h ▸ hij.symm) s
  have hj := agreeOn_play_of_ne (b := b) (fun call h => hys call h ▸ hij)
    (b.play InMemory.executor s xs).state
  -- A third instance is about none of the calls.
  have hother (id : String) (hidi : id ≠ i) (hidj : id ≠ j) :
      InMemory.AgreeOn id
        (b.play InMemory.executor (b.play InMemory.executor s xs).state ys).state s :=
    (agreeOn_play_of_ne (fun call h => hys call h ▸ hidj) _).trans
      (agreeOn_play_of_ne (fun call h => hxs call h ▸ hidi) s)
  rw [play_append]
  refine ⟨_, _, calls_play .., calls_play .., rfl, fun zs hmerges => ?_, fun log w outcomes h => ?_⟩
  · obtain ⟨hhistory, hzsi, hzsj⟩ := merges_play hij hmerges hxs hys (.refl i s) hi.symm
    refine ⟨hhistory, .of_agreeOn (hzsi.trans hj.symm) hzsj fun id hidi hidj => ?_⟩
    refine (agreeOn_play_of_ne (fun call h => ?_) s).trans (hother id hidi hidj).symm
    rcases hmerges.mem_iff.mp h with hcall | hcall
    · exact hxs call hcall ▸ hidi
    · exact hys call hcall ▸ hidj
  · have hids : Function.Injective (cond · j i) := Bool.injective_iff.mpr hij
    obtain ⟨hown, hrest⟩ := h.exists_runAlone_eq hids fun side => by
      cases side with
      | false => exact staysOn_performAll hxs
      | true => exact staysOn_performAll hys
    obtain ⟨t, ht, hrun⟩ := hown false s (.refl i s)
    obtain ⟨t', ht', hrun'⟩ := hown true _ hi.symm
    obtain ⟨houtcomes, rfl⟩ := Prod.mk.inj ((runAlone_performAll s).symm.trans hrun)
    obtain ⟨houtcomes', rfl⟩ := Prod.mk.inj ((runAlone_performAll _).symm.trans hrun')
    refine ⟨houtcomes.symm, houtcomes'.symm,
      .of_agreeOn (ht.trans hj.symm) ht' fun id hidi hidj => ?_⟩
    refine (hrest id fun side => ?_).trans (hother id hidi hidj).symm
    cases side with
    | false => exact hidi
    | true => exact hidj

namespace Neighbours

/-- A life of an instance, of which only the ID of the instance is its own. -/
def life (instanceId : String) : List Call :=
  [.provision instanceId ⟨"service", "plan", none, none,
      some [("CLUSTERNAME", .string "c"), ("NAMESPACE", .string "n")], none⟩ false,
    .bind instanceId "b" ⟨"service", "plan", none, none, none⟩,
    .deprovision instanceId false,
    .unbind instanceId "b",
    .deprovision instanceId false]

/-- Two lives in which one instance is always a step ahead of the other. -/
def alternating : List Call :=
  (life "i").zip (life "j") |>.flatMap fun (ahead, behind) => [ahead, behind]

theorem merges_alternating : Merges (life "i") (life "j") alternating :=
  .left _ (.right _ (.left _ (.right _ (.left _ (.right _ (.left _ (.right _ (.left _ (.right _
    .nil)))))))))

theorem instanceId_eq (instanceId : String) :
    ∀ call ∈ life instanceId, call.instanceId = instanceId := by
  simp [life, Call.instanceId]

end Neighbours

/-- The binding of one instance does not keep the other, and unbinding the one does not free it,
though the bindings have the same ID. -/
theorem instances_are_independent_neighbours :
    "i" ≠ "j" ∧ (∀ call ∈ Neighbours.life "i", call.instanceId = "i") ∧
      (∀ call ∈ Neighbours.life "j", call.instanceId = "j") ∧
      ∃ first second : List Entry,
        first.map Entry.call = Neighbours.life "i" ∧ second.map Entry.call = Neighbours.life "j" ∧
        Merges first second ((⟨"service", true⟩ : Broker).play InMemory.executor InMemory.empty
          Neighbours.alternating).history := by
  have hij : "i" ≠ "j" := by decide
  obtain ⟨first, second, hfirst, hsecond, -, hmerges, -⟩ :=
    instances_are_independent ⟨"service", true⟩ InMemory.empty hij
      (Neighbours.instanceId_eq "i") (Neighbours.instanceId_eq "j")
  exact ⟨hij, Neighbours.instanceId_eq "i", Neighbours.instanceId_eq "j", first, second, hfirst,
    hsecond, (hmerges _ Neighbours.merges_alternating).1⟩

end Broker

end ServiceBroker

import Mathlib.Data.List.Dedup
import Mathlib.Logic.Function.Basic
import ServiceBroker.Proofs.Broker.Session
import ServiceBroker.Server.Overlap

/-!
# Calls that overlap

Calls that are under way together take turns, and every operation of the executor is one turn. Some
calls come to the same as if they had been made as a whole at their last operation: what they have
asked before leaves the executor as it is, and what they then do follows from the state in which the
last operation finds it. If all calls are like this, they come to the same as one after the other in
the order of their last operations.

## Main definitions

* `Broker.Shared`: what calls that overlap share
* `Broker.Interleaving`: calls that take turns
* `Broker.callers`: whose turn it was at each operation of the executor
* `Broker.EndsIn`, `Broker.ActsLast`: calls that are done with the executor, and calls that come to
  the same as if made at their last operation
* `Broker.Replays`: calls that are made one after the other

## Main results

* `Overlap.meet?_shared`: the calls behind overlapping requests take turns like this
* `Broker.Interleaving.preserves`: what every operation preserves is preserved by calls that overlap
* `Broker.Interleaving.replays`: calls that act last come to the same one after the other
-/

namespace ServiceBroker

namespace Broker

variable {σ α ι : Type}

/-- What calls that overlap share: whether the lock is taken, and the state of the executor. -/
structure Shared (σ : Type) where
  locked : Bool
  state : σ

/-- Meet a request, unless the call has to wait for the lock. -/
def Shared.meet? (e : Executor σ) (w : Shared σ) : (r : Request) → Option (r.Reply × Shared σ)
  | .execute op => some ((e.perform op w.state).1, { w with state := (e.perform op w.state).2 })
  | .acquire => if w.locked then none else some ((), { w with locked := true })
  | .release => some ((), { w with locked := false })

/-- `Interleaving e w programs log w' programs'`: from `w` on the programs can take turns as in
`log`, and they have then led to `w'` and go on as `programs'`. -/
inductive Interleaving [DecidableEq ι] (e : Executor σ) : Shared σ → (ι → Program effects α) →
    List (ι × Program.Event effects) → Shared σ → (ι → Program effects α) → Prop where
  | refl (w : Shared σ) (programs : ι → Program effects α) : Interleaving e w programs [] w programs
  | turn {w next w' : Shared σ} {programs programs' : ι → Program effects α}
      {log : List (ι × Program.Event effects)} (i : ι) {r : Request}
      {resume : r.Reply → Program effects α} {reply : r.Reply} :
      programs i = .ask (E := effects) r resume → w.meet? e r = some (reply, next) →
      Interleaving e next (Function.update programs i (resume reply)) log w' programs' →
      Interleaving e w programs ((i, ⟨r, reply⟩) :: log) w' programs'

theorem Interleaving.stop [DecidableEq ι] {e : Executor σ} {w : Shared σ}
    {programs programs' : ι → Program effects α} (h : ∀ i, programs i = programs' i) :
    Interleaving e w programs [] w programs' :=
  funext h ▸ .refl w programs

/-- A turn after which the program goes on as `p`. -/
theorem Interleaving.turn_of_eq [DecidableEq ι] {e : Executor σ} {w next w' : Shared σ}
    {programs programs' : ι → Program effects α} {log : List (ι × Program.Event effects)} (i : ι)
    {r : Request} {resume : r.Reply → Program effects α} {reply : r.Reply} (p : Program effects α)
    (hprogram : programs i = .ask (E := effects) r resume)
    (hmeet : w.meet? e r = some (reply, next)) (hp : resume reply = p)
    (h : Interleaving e next (Function.update programs i p) log w' programs') :
    Interleaving e w programs ((i, ⟨r, reply⟩) :: log) w' programs' := by
  subst hp
  exact .turn i hprogram hmeet h

/-- Whose turn it was at each operation of the executor. -/
def callers : List (ι × Program.Event effects) → List ι
  | [] => []
  | (i, ⟨.execute _, _⟩) :: log => i :: callers log
  | (_, ⟨.acquire, _⟩) :: log | (_, ⟨.release, _⟩) :: log => callers log

variable {e : Executor σ} {w next w' : Shared σ} {programs programs' : ι → Program effects α}
  {log : List (ι × Program.Event effects)} {Inv : σ → Prop} {i : ι} {a : α}
  {op : Executor.Operation} {r : Request}

/-- The request is one of the lock and not of the executor. -/
def Request.IsQuiet (r : Request) : Prop := ∀ op, r ≠ .execute op

theorem Shared.eq_of_meet?_execute {reply : Executor.Outcome op}
    (h : w.meet? e (.execute op) = some (reply, next)) :
    reply = (e.perform op w.state).1 ∧ next.state = (e.perform op w.state).2 := by
  obtain ⟨rfl, rfl⟩ := Prod.mk.inj (Option.some.inj h)
  exact ⟨rfl, rfl⟩

/-- The lock is no part of the state of the executor. -/
theorem Shared.state_of_meet? {reply : r.Reply} (hr : r.IsQuiet)
    (h : w.meet? e r = some (reply, next)) : next.state = w.state := by
  cases r with
  | execute op => exact absurd rfl (hr op)
  | acquire =>
    unfold Shared.meet? at h
    dsimp only at h
    split at h
    · cases h
    · obtain ⟨-, rfl⟩ := Prod.mk.inj (Option.some.inj h)
      rfl
  | release =>
    obtain ⟨-, rfl⟩ := Prod.mk.inj (Option.some.inj h)
    rfl

theorem callers_cons_execute {reply : Executor.Outcome op} :
    callers ((i, ⟨.execute op, reply⟩) :: log) = i :: callers log := rfl

theorem callers_cons_of_isQuiet {reply : r.Reply} (hr : r.IsQuiet) :
    callers ((i, ⟨r, reply⟩) :: log) = callers log := by
  cases r with
  | execute op => exact absurd rfl (hr op)
  | acquire => rfl
  | release => rfl

/-- What every operation preserves is preserved while calls overlap. -/
theorem Interleaving.preserves [DecidableEq ι] (hInv : ∀ op s, Inv s → Inv (e.perform op s).2)
    (h : Interleaving e w programs log w' programs') (hw : Inv w.state) : Inv w'.state := by
  induction h with
  | refl => exact hw
  | @turn w next _ _ _ _ i r resume reply hprogram hmeet _ ih =>
    refine ih ?_
    by_cases hr : r.IsQuiet
    · rwa [Shared.state_of_meet? hr hmeet]
    · obtain ⟨op, rfl⟩ := not_forall_not.mp hr
      rw [(Shared.eq_of_meet?_execute hmeet).2]
      exact hInv op w.state hw

/-! ### Calls that act last -/

/-- The executor is not asked for anything more, and the value will be this. -/
def EndsIn (a : α) : Program effects α → Prop
  | .done a' => a' = a
  | .ask (.execute _) _ => False
  | .ask .acquire resume | .ask .release resume => EndsIn a (resume ())

/-- The next operations leave the executor as it is, up to one that is the last. This one comes to
what `alone` comes to in the state in which it finds the executor. -/
def ActsLast (e : Executor σ) (Inv : σ → Prop) (alone : StateM σ α) : Program effects α → Prop
  | .done _ => False
  | .ask (.execute op) resume => ∀ s, Inv s →
    (∃ a, alone s = (a, (e.perform op s).2) ∧ EndsIn a (resume (e.perform op s).1)) ∨
      ((e.perform op s).2 = s ∧ ActsLast e Inv alone (resume (e.perform op s).1))
  | .ask .acquire resume | .ask .release resume => ActsLast e Inv alone (resume ())

variable {alone : StateM σ α} {p : Program effects α} {resume : r.Reply → Program effects α}
  {reply : r.Reply}

theorem endsIn_ask_iff (hr : r.IsQuiet) :
    EndsIn a (.ask (E := effects) r resume) ↔ EndsIn a (resume reply) := by
  cases r with
  | execute op => exact absurd rfl (hr op)
  | acquire => rfl
  | release => rfl

theorem actsLast_ask_iff (hr : r.IsQuiet) :
    ActsLast e Inv alone (.ask (E := effects) r resume) ↔ ActsLast e Inv alone (resume reply) := by
  cases r with
  | execute op => exact absurd rfl (hr op)
  | acquire => rfl
  | release => rfl

theorem EndsIn.unique {a' : α} (h : EndsIn a p) (h' : EndsIn a' p) : a = a' := by
  induction p with
  | done b => exact h.symm.trans h'
  | ask r resume ih =>
    cases r with
    | execute op => exact h.elim
    | acquire => exact ih () h h'
    | release => exact ih () h h'

/-- A call that still has to act is not done with the executor. -/
theorem ActsLast.not_endsIn (h : ActsLast e Inv alone p) : ¬ EndsIn a p := by
  induction p with
  | done b => exact h.elim
  | ask r resume ih =>
    cases r with
    | execute op => exact id
    | acquire => exact ih () h
    | release => exact ih () h

/-- A call that is done with the executor does nothing to its state. -/
theorem EndsIn.runAlone_eq (h : EndsIn a p) (s : σ) : runAlone e p s = (a, s) := by
  induction p with
  | done b => exact congrArg (·, s) h
  | ask r resume ih =>
    cases r with
    | execute op => exact h.elim
    | acquire => exact ih () h
    | release => exact ih () h

theorem EndsIn.map {β : Type} (f : α → β) (h : EndsIn a p) : EndsIn (f a) (do return f (← p)) := by
  induction p with
  | done b => exact congrArg f h
  | ask r resume ih =>
    cases r with
    | execute op => exact h.elim
    | acquire => exact ih () h
    | release => exact ih () h

theorem ActsLast.map {β : Type} (f : α → β) {q : Program effects α}
    (h : ActsLast e Inv (runAlone e q) p) :
    ActsLast e Inv (runAlone e (do return f (← q))) (do return f (← p)) := by
  induction p with
  | done b => exact h.elim
  | ask r resume ih =>
    cases r with
    | execute op =>
      intro s hs
      rcases h s hs with ⟨a, halone, hends⟩ | ⟨hstate, hacts⟩
      · -- What is done with the value belongs to the last operation, as no other follows it.
        exact .inl ⟨f a, by rw [runAlone_map, halone], hends.map f⟩
      · exact .inr ⟨hstate, ih _ hacts⟩
    | acquire => exact ih () h
    | release => exact ih () h

/-- A call whose first operation is its last acts last. -/
theorem actsLast_execute_bind {op : Executor.Operation}
    {f : Executor.Outcome op → Program effects α} (hf : ∀ outcome, ∃ a, EndsIn a (f outcome)) :
    ActsLast e Inv (runAlone e (execute op >>= f)) (execute op >>= f) := by
  intro s _
  obtain ⟨a, ha⟩ := hf (e.perform op s).1
  exact .inl ⟨a, ha.runAlone_eq _, ha⟩

/-- So does one whose only operation is under the lock. -/
theorem actsLast_exclusively_bind {op : Executor.Operation}
    {f : Executor.Outcome op → Program effects α} (hf : ∀ outcome, ∃ a, EndsIn a (f outcome)) :
    ActsLast e Inv (runAlone e (exclusively op >>= f)) (exclusively op >>= f) := by
  intro s _
  obtain ⟨a, ha⟩ := hf (e.perform op s).1
  exact .inl ⟨a, ha.runAlone_eq _, ha⟩

/-! ### One after the other -/

/-- Made one after the other, calls that come to `alone` have these outcomes, and lead from the one
state to the other. -/
def Replays (alone : ι → StateM σ α) (outcome : ι → α) : σ → List ι → σ → Prop
  | s, [], s' => s' = s
  | s, i :: rest, s' => ∃ next, alone i s = (outcome i, next) ∧ Replays alone outcome next rest s'

/-- Calls that do nothing may stand anywhere. -/
theorem Replays.of_filter {alone : ι → StateM σ α} {outcome : ι → α} {order : List ι} {s s' : σ}
    {keep : ι → Bool} (hidle : ∀ i, ¬ keep i → ∀ s, alone i s = (outcome i, s))
    (h : Replays alone outcome s (order.filter keep) s') : Replays alone outcome s order s' := by
  induction order generalizing s with
  | nil => exact h
  | cons i order ih =>
    rw [List.filter_cons] at h
    split at h
    · obtain ⟨next, halone, hrest⟩ := h
      exact ⟨next, halone, ih hrest⟩
    · next hkeep => exact ⟨s, hidle i hkeep s, ih h⟩

/-- The session of calls that are made one after the other. -/
theorem Replays.play_eq {b : Broker} {calls : ι → Call} {outcome : ι → Except Failure Answer}
    {order : List ι} {s s' : σ}
    (h : Replays (fun i => b.serve e (calls i)) outcome s order s') :
    b.play e s (order.map calls) = ⟨order.map fun i => ⟨calls i, outcome i⟩, s'⟩ := by
  -- The history of the session grows, so the statement is about any history to begin with.
  have hfold (history : List Entry) : (order.map calls).foldl (Session.step b e) ⟨history, s⟩ =
      ⟨history ++ order.map fun i => ⟨calls i, outcome i⟩, s'⟩ := by
    induction order generalizing s history with
    | nil =>
      obtain rfl := h
      rw [List.map_nil, List.map_nil, List.append_nil]
      rfl
    | cons i order ih =>
      obtain ⟨next, hserve, hrest⟩ := h
      have hstep : Session.step b e ⟨history, s⟩ (calls i) =
          ⟨history ++ [⟨calls i, outcome i⟩], next⟩ := by
        change b.serve e (calls i) s = (outcome i, next) at hserve
        rw [Session.step]
        dsimp only
        rw [hserve]
      rw [List.map_cons, List.foldl_cons, hstep, ih hrest, List.append_assoc]
      rfl
  exact hfold []

/-! ### Calls that act last take effect at once -/

/-- The call acts last, or it is done with the executor. -/
def IsReady (e : Executor σ) (Inv : σ → Prop) (alone : StateM σ α) (p : Program effects α) : Prop :=
  ActsLast e Inv alone p ∨ ∃ a, EndsIn a p

/-- The call acts within the log, or it is done with the executor and does not occur there. -/
def IsDue (e : Executor σ) (Inv : σ → Prop) (alone : StateM σ α) (outcome : α) (i : ι)
    (log : List (ι × Program.Event effects)) (p : Program effects α) : Prop :=
  (i ∈ callers log ∧ ActsLast e Inv alone p) ∨ (i ∉ callers log ∧ EndsIn outcome p)

/-- What one turn does to a call that acts last: it leaves the state as it is, or it does all that
the call does. -/
theorem ActsLast.turn (h : ActsLast e Inv alone (.ask (E := effects) r resume)) (hw : Inv w.state)
    (hmeet : w.meet? e r = some (reply, next)) :
    (next.state = w.state ∧ ActsLast e Inv alone (resume reply)) ∨
      ∃ op a, r = .execute op ∧ alone w.state = (a, next.state) ∧ EndsIn a (resume reply) := by
  by_cases hr : r.IsQuiet
  · exact .inl ⟨Shared.state_of_meet? hr hmeet, (actsLast_ask_iff hr).mp h⟩
  · obtain ⟨op, rfl⟩ := not_forall_not.mp hr
    obtain ⟨rfl, hstate⟩ := Shared.eq_of_meet?_execute hmeet
    rw [hstate]
    rcases h w.state hw with ⟨a, halone, hends⟩ | hkeeps
    · exact .inr ⟨op, a, rfl, halone, hends⟩
    · exact .inl hkeeps

theorem EndsIn.turn (h : EndsIn a (.ask (E := effects) r resume))
    (hmeet : w.meet? e r = some (reply, next)) :
    r.IsQuiet ∧ next.state = w.state ∧ EndsIn a (resume reply) := by
  have hr : r.IsQuiet := by
    rintro op rfl
    exact h.elim
  exact ⟨hr, Shared.state_of_meet? hr hmeet, (endsIn_ask_iff hr).mp h⟩

theorem IsReady.turn (h : IsReady e Inv alone (.ask (E := effects) r resume)) (hw : Inv w.state)
    (hmeet : w.meet? e r = some (reply, next)) : IsReady e Inv alone (resume reply) := by
  rcases h with hacts | ⟨a, hends⟩
  · rcases hacts.turn hw hmeet with ⟨-, hacts'⟩ | ⟨-, a, -, -, hends⟩
    · exact .inl hacts'
    · exact .inr ⟨a, hends⟩
  · exact .inr ⟨a, (hends.turn hmeet).2.2⟩

theorem mem_callers_cons_of_ne {j : ι} (hj : j ≠ i) :
    j ∈ callers ((i, ⟨r, reply⟩) :: log) ↔ j ∈ callers log := by
  cases r with
  | execute op => exact List.mem_cons.trans (or_iff_right hj)
  | acquire => rfl
  | release => rfl

/-- If calls come to the same one after the other after a turn, then also before it. -/
theorem IsDue.turn [DecidableEq ι] {alone : ι → StateM σ α} {outcome : ι → α} {s' : σ}
    (h : IsReady e Inv (alone i) (.ask (E := effects) r resume)) (hw : Inv w.state)
    (hmeet : w.meet? e r = some (reply, next))
    (hdue : IsDue e Inv (alone i) (outcome i) i log (resume reply))
    (hreplays : Replays alone outcome next.state (callers log).dedup s') :
    IsDue e Inv (alone i) (outcome i) i ((i, ⟨r, reply⟩) :: log) (.ask (E := effects) r resume) ∧
      Replays alone outcome w.state (callers ((i, ⟨r, reply⟩) :: log)).dedup s' := by
  rcases h with hacts | ⟨a, hends⟩
  · rcases hacts.turn hw hmeet with ⟨hstate, hacts'⟩ | ⟨op, a, rfl, halone, hends⟩
    · -- The call has still to act, so this turn is none of its last operation.
      have hmem : i ∈ callers log := hdue.elim And.left fun h => absurd h.2 hacts'.not_endsIn
      rw [hstate] at hreplays
      cases r with
      | execute op =>
        rw [IsDue, callers_cons_execute, List.dedup_cons_of_mem hmem]
        exact ⟨.inl ⟨List.mem_cons_self, hacts⟩, hreplays⟩
      | acquire => exact ⟨.inl ⟨hmem, hacts⟩, hreplays⟩
      | release => exact ⟨.inl ⟨hmem, hacts⟩, hreplays⟩
    · -- This is its last operation, and with it the call is made as a whole.
      rcases hdue with ⟨-, hacts'⟩ | ⟨hmem, hends'⟩
      · exact absurd hends hacts'.not_endsIn
      · obtain rfl := hends.unique hends'
        rw [IsDue, callers_cons_execute, List.dedup_cons_of_notMem hmem]
        exact ⟨.inl ⟨List.mem_cons_self, hacts⟩, next.state, halone, hreplays⟩
  · obtain ⟨hr, hstate, hends'⟩ := hends.turn hmeet
    rw [IsDue, callers_cons_of_isQuiet hr, endsIn_ask_iff hr, actsLast_ask_iff hr, ← hstate]
    exact ⟨hdue, hreplays⟩

/-- Calls that act last, or are done with the executor, come to the same one after the other, in the
order of their last operations. -/
theorem Interleaving.replays [DecidableEq ι] (hInv : ∀ op s, Inv s → Inv (e.perform op s).2)
    {alone : ι → StateM σ α} {outcome : ι → α}
    (h : Interleaving e w programs log w' fun i => .done (outcome i)) (hw : Inv w.state)
    (hready : ∀ i, IsReady e Inv (alone i) (programs i)) :
    (∀ i, IsDue e Inv (alone i) (outcome i) i log (programs i)) ∧
      Replays alone outcome w.state (callers log).dedup w'.state := by
  -- The end is a variable during the induction, or the index would be in the way.
  generalize hend : (fun i => Program.done (outcome i)) = programs' at h
  induction h with
  | refl w programs =>
    subst hend
    exact ⟨fun i => .inr ⟨List.not_mem_nil, rfl⟩, rfl⟩
  | @turn w next w' programs programs' log i r resume reply hprogram hmeet hlater ih =>
    -- A turn changes one program, so all others are due after it exactly if they are before.
    have hself : Function.update programs i (resume reply) i = resume reply :=
      Function.update_self ..
    have hothers {j : ι} (hj : j ≠ i) : Function.update programs i (resume reply) j = programs j :=
      Function.update_of_ne hj _ _
    have hnow : IsReady e Inv (alone i) (.ask (E := effects) r resume) := hprogram ▸ hready i
    have hnext : Inv next.state :=
      Interleaving.preserves hInv (.turn i hprogram hmeet (.refl _ _)) hw
    obtain ⟨hdue, hreplays⟩ := ih hnext (fun j => by
      by_cases hj : j = i
      · subst hj
        rw [hself]
        exact hnow.turn hw hmeet
      · rw [hothers hj]
        exact hready j) hend
    obtain ⟨hi, hreplays'⟩ := IsDue.turn hnow hw hmeet (hself ▸ hdue i) hreplays
    refine ⟨fun j => ?_, hreplays'⟩
    by_cases hj : j = i
    · subst hj
      rwa [hprogram]
    · have hdue' := hdue j
      rw [hothers hj] at hdue'
      rwa [IsDue, mem_callers_cons_of_ne hj]

end Broker

namespace Overlap

variable {σ : Type} {e : Executor σ}

/-- What the calls behind overlapping requests share. -/
def shared (w : Overlap σ) : Broker.Shared σ := ⟨w.locked, w.server.executor⟩

/-- Unless the gate waits for a call, the calls behind overlapping requests take turns as any calls
do. -/
theorem meet?_shared (validate : String → Except Failure String) {w : Overlap σ}
    (hgate : ∀ name, w.gate ≠ .waiting name) (r : Broker.Request) :
    w.shared.meet? e r = (w.meet e validate (.step r)).1.map fun reply =>
      (reply, (w.meet e validate (.step r)).2.shared) := by
  cases r with
  | execute op =>
    obtain ⟨server, locked, gate, mostChanges⟩ := w
    cases gate with
    | waiting name => exact absurd rfl (hgate name)
    | holding op' => rfl
    | passed => rfl
  | acquire =>
    obtain ⟨server, locked, gate, mostChanges⟩ := w
    cases locked <;> rfl
  | release => rfl

end Overlap

end ServiceBroker

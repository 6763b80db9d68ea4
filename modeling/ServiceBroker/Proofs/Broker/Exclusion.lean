import ServiceBroker.Proofs.Broker.Interleaving

/-!
# One cluster is changed at a time

An operation of the executor takes its time: it starts and it finishes, and other calls go on in
between. Only the lock keeps them from changing clusters meanwhile. A call that changes a cluster
takes the lock, carries out one operation and frees the lock again, whatever the operation came to.
All other calls do without the lock, and so it does not matter to them who holds it.

## Main definitions

* `Broker.phases`, `Broker.phased`: programs whose operations start and finish
* `Broker.Traffic`: calls that are under way, and the one that holds the lock
* `Broker.Traffic.Turn`, `Broker.Traffic.Run`: what one of them does next, and what they have done
* `Broker.changeTrace`: all that a call does that changes a cluster
* `Broker.Stage`: how far such a call has come

## Main results

* `Broker.Traffic.Run.reaches`: every call does what its program asks
* `Broker.Traffic.Run.holder_iff`: the lock is held by the call that is between taking and freeing it
* `Broker.Interleaving.exists_run`: calls whose operations take no time are among these
* `Broker.clusters_change_one_at_a_time`: cluster changes exclude each other, and nothing else
-/

namespace ServiceBroker.Broker

open Program

/-! ### Operations that take their time -/

/-- What a verb asks for if operations take their time. -/
inductive Phase where
  | acquire
  | release
  | start (op : Executor.Operation)
  | finish (op : Executor.Operation)
  deriving DecidableEq, Repr

/-- The type of the reply. What an operation came to is known when it finishes. -/
abbrev Phase.Reply : Phase → Type
  | .finish op => Executor.Outcome op
  | .acquire | .release | .start _ => Unit

theorem Phase.nonempty_reply (r : Phase) : Nonempty r.Reply := by
  cases r with
  | finish op => exact ⟨.error (.instanceNotFound "")⟩
  | acquire | release | start => exact ⟨()⟩

/-- The effects of verbs whose operations take their time. -/
abbrev phases : Effects := ⟨Phase, Phase.Reply⟩

/-- The phases of a request. -/
def Request.phased : (r : Request) → Program phases r.Reply
  | .execute op =>
    .ask (E := phases) (.start op) fun _ => .ask (E := phases) (.finish op) fun outcome =>
      .done outcome
  | .acquire => .ask (E := phases) .acquire fun _ => .done ()
  | .release => .ask (E := phases) .release fun _ => .done ()

/-- The program in which all operations take their time. -/
def phased {α : Type} (p : Program effects α) : Program phases α := p.substitute Request.phased

/-- The phase does not concern the lock, and changes no cluster. -/
def Phase.IsOpen : Phase → Prop
  | .acquire | .release => False
  | .start op | .finish op => op.changesCluster = false

theorem Phase.IsOpen.ne {r : Phase} (h : r.IsOpen) : r ≠ .acquire ∧ r ≠ .release := by
  constructor <;> rintro rfl <;> exact h

variable {ι α : Type} {op : Executor.Operation} {f : Executor.Outcome op → α} {r : Phase}
  {trace : List (Event phases)} {e : Event phases} {p q : Program phases α} {b : Broker}
  {call : Call}

/-! ### What a call does -/

/-- Go past the lock, with the value that was found under it. -/
def leave (a : α) : Program phases α := .ask (E := phases) .release fun _ => .done a

/-- Wait for an operation to finish. -/
def await (op : Executor.Operation) (f : Executor.Outcome op → α) : Program phases α :=
  .ask (E := phases) (.finish op) fun outcome => leave (f outcome)

/-- Carry out an operation under the lock. -/
def enter (op : Executor.Operation) (f : Executor.Outcome op → α) : Program phases α :=
  .ask (E := phases) (.start op) fun _ => await op f

/-- Take the lock, and carry out an operation. -/
def approach (op : Executor.Operation) (f : Executor.Outcome op → α) : Program phases α :=
  .ask (E := phases) .acquire fun _ => enter op f

/-- All that a call does that changes a cluster. -/
def changeTrace (op : Executor.Operation) (outcome : Executor.Outcome op) : List (Event phases) :=
  [⟨.acquire, ()⟩, ⟨.start op, ()⟩, ⟨.finish op, outcome⟩, ⟨.release, ()⟩]

/-- How far a call has come that changes a cluster: what it has done, and how it goes on. -/
inductive Stage (op : Executor.Operation) (f : Executor.Outcome op → α) :
    List (Event phases) → Program phases α → Prop where
  | waiting : Stage op f [] (approach op f)
  | entered : Stage op f [⟨.acquire, ()⟩] (enter op f)
  | changing : Stage op f [⟨.acquire, ()⟩, ⟨.start op, ()⟩] (await op f)
  | changed (outcome : Executor.Outcome op) :
      Stage op f [⟨.acquire, ()⟩, ⟨.start op, ()⟩, ⟨.finish op, outcome⟩] (leave (f outcome))
  | left (outcome : Executor.Outcome op) : Stage op f (changeTrace op outcome) (.done (f outcome))

/-- What such a call has done tells how it goes on. -/
theorem stage_of_reaches (h : Reaches (approach op f) trace q) : Stage op f trace q := by
  rcases reaches_ask_iff.mp h with ⟨rfl, rfl⟩ | ⟨_, rest, rfl, hentered⟩
  · exact .waiting
  rcases reaches_ask_iff.mp hentered with ⟨rfl, rfl⟩ | ⟨_, rest, rfl, hchanging⟩
  · exact .entered
  rcases reaches_ask_iff.mp hchanging with ⟨rfl, rfl⟩ | ⟨outcome, rest, rfl, hchanged⟩
  · exact .changing
  rcases reaches_ask_iff.mp hchanged with ⟨rfl, rfl⟩ | ⟨_, rest, rfl, hleft⟩
  · exact .changed outcome
  obtain ⟨rfl, rfl⟩ := reaches_done_iff.mp hleft
  exact .left outcome

theorem exists_phased_exclusively_bind {g : Executor.Outcome op → Program effects α}
    (hg : ∀ outcome, ∃ a, g outcome = .done a) :
    ∃ f, phased (exclusively op >>= g) = approach op f := by
  choose f hf using hg
  obtain rfl : g = fun outcome => .done (f outcome) := funext hf
  exact ⟨f, rfl⟩

/-- A call that changes a cluster carries out one operation under the lock, and that is all. -/
theorem exists_phased_eq_approach (b : Broker) (h : call.change? = some op) :
    ∃ f, phased (b.perform call) = approach op f := by
  cases call with
  | provision instanceId r acceptsIncomplete =>
    obtain ⟨parameters, hparameters, rfl⟩ := Option.map_eq_some_iff.mp h
    rw [perform, provision, eq_ok_of_toOption hparameters]
    dsimp only
    rw [bind_assoc]
    refine exists_phased_exclusively_bind fun outcome => ?_
    cases outcome <;> exact ⟨_, rfl⟩
  | deprovision instanceId acceptsIncomplete =>
    obtain rfl := Option.some.inj h
    rw [perform, deprovision, bind_assoc]
    refine exists_phased_exclusively_bind fun outcome => ?_
    cases outcome with
    | ok => exact ⟨_, rfl⟩
    | error failure => cases failure <;> exact ⟨_, rfl⟩
  | update | bind | unbind | lastOperation => cases h

/-- A call that changes no cluster does without the lock. -/
theorem always_isOpen (b : Broker) (h : call.change? = none) :
    Always (E := phases) (fun r _ => r.IsOpen) (phased (b.perform call)) := by
  refine (always_mayAsk_perform b call).substitute fun r hr => ?_
  match r with
  | .acquire | .release =>
    have hsome : call.change?.isSome := hr
    rw [h] at hsome
    cases hsome
  | .execute op =>
    have hop : op.changesCluster = false := by
      rcases hr with hchange | hother
      · rw [h] at hchange
        cases hchange
      · cases call with
        | provision | deprovision | update | lastOperation => cases hother
        | bind instanceId bindingId r => rcases hother with rfl | rfl <;> rfl
        | unbind instanceId bindingId =>
          obtain rfl := hother
          rfl
    exact ⟨hop, fun _ => ⟨hop, fun _ => trivial⟩⟩

/-- A provision with parameters that cannot be used does nothing. -/
theorem phased_incomplete {instanceId : String} {request : ProvisionRequest}
    {acceptsIncomplete : Bool} {failure : Failure}
    (h : ProvisionParameters.ofMembers request.parameters = .error failure) :
    phased (b.perform (.provision instanceId request acceptsIncomplete)) =
      .done (.error failure) := by
  rw [perform, provision, h]
  rfl

/-! ### Calls that are under way -/

/-- Calls that are under way: which of them holds the lock, and how each goes on. -/
structure Traffic (ι α : Type) where
  holder : Option ι
  programs : ι → Program phases α

/-- The call `n` may go on with the phase while the lock is held by `before`, and it is then held by
`after`. -/
def Phase.Moves (n : ι) : Phase → Option ι → Option ι → Prop
  | .acquire, before, after => before = none ∧ after = some n
  | .release, _, after => after = none
  | .start _, before, after | .finish _, before, after => after = before

namespace Traffic

variable {first w w' : Traffic ι α} {m n : ι} {log : List (ι × Event phases)}

/-- Nothing has been done yet, and the lock is free. -/
def start (b : Broker) (calls : ι → Call) : Traffic ι (Except Failure Answer) :=
  ⟨none, fun n => phased (b.perform (calls n))⟩

/-- The call `n` does what it asks for next. What an operation comes to may be anything. -/
structure Turn (w : Traffic ι α) (n : ι) (e : Event phases) (w' : Traffic ι α) : Prop where
  goes : ∃ resume, w.programs n = .ask (E := phases) e.request resume ∧ w'.programs n = resume e.reply
  stays (m : ι) : m ≠ n → w'.programs m = w.programs m
  moves : e.request.Moves n w.holder w'.holder

/-- From `first` on the calls can take turns as in `log`, and this leads to the last. -/
inductive Run (first : Traffic ι α) : List (ι × Event phases) → Traffic ι α → Prop where
  | nil : Run first [] first
  | snoc {log : List (ι × Event phases)} {w w' : Traffic ι α} {n : ι} {e : Event phases} :
      Run first log w → w.Turn n e w' → Run first (log ++ [(n, e)]) w'

theorem Run.append {log' : List (ι × Event phases)} (h : Run first log w) (h' : Run w log' w') :
    Run first (log ++ log') w' := by
  induction h' with
  | nil => rwa [List.append_nil]
  | snoc _ hturn ih =>
    rw [← List.append_assoc]
    exact ih.snoc hturn

/-- The call has started to change a cluster, and has not finished. -/
def IsChanging (w : Traffic ι α) (n : ι) : Prop :=
  ∃ op resume, w.programs n = .ask (E := phases) (.finish op) resume ∧ op.changesCluster

theorem eventsOf_snoc_self [DecidableEq ι] :
    eventsOf n (log ++ [(n, e)]) = eventsOf n log ++ [e] := by
  rw [eventsOf_append, eventsOf_cons_self, eventsOf]

theorem eventsOf_snoc_of_ne [DecidableEq ι] (h : m ≠ n) :
    eventsOf n (log ++ [(m, e)]) = eventsOf n log := by
  rw [eventsOf_append, eventsOf, if_neg h, eventsOf, List.append_nil]

/-- Every call does what its program asks. -/
theorem Run.reaches [DecidableEq ι] (h : Run first log w) (n : ι) :
    Reaches (first.programs n) (eventsOf n log) (w.programs n) := by
  induction h with
  | nil => exact .refl _
  | @snoc log w w' m e _ hturn ih =>
    by_cases hm : m = n
    · subst hm
      obtain ⟨resume, hprogram, hgoes⟩ := hturn.goes
      rw [eventsOf_snoc_self]
      refine reaches_append_iff.mpr ⟨_, ih, ?_⟩
      rw [hprogram, hgoes]
      exact .ask e.request resume e.reply (.refl _)
    · rw [eventsOf_snoc_of_ne hm, hturn.stays n (Ne.symm hm)]
      exact ih

end Traffic

/-! ### Who holds the lock -/

/-- Whether the lock is held after a phase. -/
def Phase.holds : Phase → Bool → Bool
  | .acquire, _ => true
  | .release, _ => false
  | .start _, held | .finish _, held => held

/-- The lock has been taken and not been freed again. -/
def isInside (trace : List (Event phases)) : Bool :=
  trace.foldl (fun held e => e.request.holds held) false

theorem isInside_snoc (trace : List (Event phases)) (e : Event phases) :
    isInside (trace ++ [e]) = e.request.holds (isInside trace) := by
  rw [isInside, List.foldl_append]
  rfl

theorem isInside_of_isOpen (h : ∀ e ∈ trace, e.request.IsOpen) : isInside trace = false := by
  induction trace using List.reverseRecOn with
  | nil => rfl
  | append_singleton trace e ih =>
    have he : e.request.IsOpen := h e (by simp)
    have htrace : isInside trace = false := ih fun e' he' => h e' (List.mem_append_left _ he')
    rw [isInside_snoc, htrace]
    obtain ⟨r, reply⟩ := e
    cases r with
    | acquire => exact he.elim
    | release | start | finish => rfl

/-- The program frees the lock only if it has taken it. -/
def IsTidy (p : Program phases α) : Prop :=
  Guarded (E := phases) (fun past r => r = .release → isInside past) [] p

theorem isTidy_approach : IsTidy (approach op f) :=
  ⟨nofun, fun _ => ⟨nofun, fun _ => ⟨nofun, fun _ => ⟨fun _ => rfl, fun _ => trivial⟩⟩⟩⟩

theorem isTidy_of_isOpen (h : Always (E := phases) (fun r _ => r.IsOpen) p) : IsTidy p := by
  refine (h.guarded []).mono fun _ r hr hrelease => ?_
  subst hrelease
  exact hr.elim

theorem isTidy_perform (b : Broker) (call : Call) : IsTidy (phased (b.perform call)) := by
  cases h : call.change? with
  | none => exact isTidy_of_isOpen (always_isOpen b h)
  | some op =>
    obtain ⟨f, hf⟩ := exists_phased_eq_approach b h
    rw [hf]
    exact isTidy_approach

theorem Phase.Moves.eq_iff_self {before after : Option ι} {held : Bool} {n : ι}
    (h : r.Moves n before after) (hbefore : before = some n ↔ held) :
    after = some n ↔ r.holds held := by
  cases r with
  | acquire =>
    rw [h.2]
    exact iff_of_true rfl rfl
  | release =>
    obtain rfl : after = none := h
    exact ⟨nofun, nofun⟩
  | start | finish =>
    obtain rfl : after = before := h
    exact hbefore

theorem Phase.Moves.eq_iff_of_ne {before after : Option ι} {m n : ι} (h : r.Moves m before after)
    (hrelease : r = .release → before = some m) (hm : m ≠ n) :
    after = some n ↔ before = some n := by
  have hne : some m ≠ some n := fun heq => hm (Option.some.inj heq)
  cases r with
  | acquire =>
    rw [h.1, h.2]
    exact ⟨fun heq => absurd heq hne, nofun⟩
  | release =>
    obtain rfl : after = none := h
    rw [hrelease rfl]
    exact ⟨nofun, fun heq => absurd heq hne⟩
  | start | finish =>
    obtain rfl : after = before := h
    rfl

theorem Phase.IsOpen.moves_iff {before after : Option ι} {n : ι} (h : r.IsOpen) :
    r.Moves n before after ↔ after = before := by
  cases r with
  | acquire | release => exact h.elim
  | start | finish => rfl

namespace Traffic

variable [DecidableEq ι] {first w w' : Traffic ι α} {m n : ι} {log : List (ι × Event phases)}

/-- The lock is held by the call that is between taking it and freeing it. -/
theorem Run.holder_iff (h : Run first log w) (hfree : first.holder = none)
    (htidy : ∀ n, IsTidy (first.programs n)) (n : ι) :
    w.holder = some n ↔ isInside (eventsOf n log) := by
  induction h generalizing n with
  | nil =>
    rw [hfree]
    exact ⟨nofun, nofun⟩
  | @snoc log w w' m e hrun hturn ih =>
    by_cases hm : m = n
    · subst hm
      rw [eventsOf_snoc_self, isInside_snoc]
      exact hturn.moves.eq_iff_self (ih m)
    · rw [eventsOf_snoc_of_ne hm, ← ih n]
      refine hturn.moves.eq_iff_of_ne (fun hrelease => (ih m).mpr ?_) hm
      have hreaches := (hrun.snoc hturn).reaches m
      rw [eventsOf_snoc_self] at hreaches
      exact (htidy m).of_reaches hreaches hrelease

theorem turn_update {resume : r.Reply → Program phases α} {holder : Option ι}
    (hprogram : w.programs n = .ask (E := phases) r resume) (hmoves : r.Moves n w.holder holder)
    (reply : r.Reply) :
    w.Turn n ⟨r, reply⟩ ⟨holder, Function.update w.programs n (resume reply)⟩ where
  goes := ⟨resume, hprogram, Function.update_self ..⟩
  stays _ hm := Function.update_of_ne hm ..
  moves := hmoves

theorem exists_turn {resume : r.Reply → Program phases α} {holder : Option ι}
    (hprogram : w.programs n = .ask (E := phases) r resume) (hmoves : r.Moves n w.holder holder)
    (reply : r.Reply) :
    ∃ w', w.Turn n ⟨r, reply⟩ w' ∧ w'.holder = holder ∧ w'.programs n = resume reply :=
  ⟨_, turn_update hprogram hmoves reply, rfl, Function.update_self ..⟩

/-- Whatever the operation came to, a call that waits for it can go on to free the lock. -/
theorem exists_run_await (h : w.programs n = await op f) (outcome : Executor.Outcome op) :
    ∃ w', Run w [(n, ⟨.finish op, outcome⟩), (n, ⟨.release, ()⟩)] w' ∧ w'.holder = none ∧
      w'.programs n = .done (f outcome) := by
  obtain ⟨u, hfinish, -, hu⟩ := exists_turn h rfl outcome
  obtain ⟨w', hrelease, hholder, hdone⟩ := exists_turn hu rfl ()
  exact ⟨w', (Run.nil.snoc hfinish).snoc hrelease, hholder, hdone⟩

variable {b : Broker} {calls : ι → Call} {w : Traffic ι (Except Failure Answer)}

theorem Run.stage (h : Run (start b calls) log w) (hop : (calls n).change? = some op) :
    ∃ f, Stage op f (eventsOf n log) (w.programs n) := by
  obtain ⟨f, hf⟩ := exists_phased_eq_approach b hop
  refine ⟨f, stage_of_reaches ?_⟩
  rw [← hf]
  exact h.reaches n

theorem Run.isOpen (h : Run (start b calls) log w) (hnone : (calls n).change? = none) :
    (∀ e ∈ eventsOf n log, e.request.IsOpen) ∧
      ∀ r resume, w.programs n = .ask (E := phases) r resume → r.IsOpen := by
  have hopen := always_isOpen b hnone
  refine ⟨fun e he => ?_, fun r resume hprogram => ?_⟩
  · obtain ⟨before, after, hsplit⟩ := List.append_of_mem he
    have hreaches := h.reaches n
    rw [hsplit] at hreaches
    exact (hopen.guarded []).of_reaches hreaches
  · exact hopen.of_reaches (hprogram ▸ h.reaches n)

theorem Run.holder_iff_isInside (h : Run (start b calls) log w) (n : ι) :
    w.holder = some n ↔ isInside (eventsOf n log) :=
  h.holder_iff rfl (fun n => isTidy_perform b (calls n)) n

/-- A call that waits for a cluster change has taken the lock and started this, and nothing else. -/
theorem Run.exists_eq_await (h : Run (start b calls) log w)
    {resume : Executor.Outcome op → Program phases (Except Failure Answer)}
    (hprogram : w.programs n = .ask (E := phases) (.finish op) resume) (hop : op.changesCluster) :
    (∃ f, w.programs n = await op f) ∧ eventsOf n log = [⟨.acquire, ()⟩, ⟨.start op, ()⟩] := by
  cases hchange : (calls n).change? with
  | none =>
    have hopen : op.changesCluster = false := (h.isOpen hchange).2 _ _ hprogram
    rw [hopen] at hop
    cases hop
  | some op' =>
    obtain ⟨f, hstage⟩ := h.stage hchange
    generalize eventsOf n log = trace at hstage ⊢
    generalize w.programs n = p at hstage hprogram ⊢
    cases hstage with
    | changing =>
      cases hprogram
      exact ⟨⟨f, rfl⟩, rfl⟩
    | waiting | entered | changed | left => cases hprogram

/-- Clusters are changed under the lock only. -/
theorem Run.holder_of_isChanging (h : Run (start b calls) log w) (hn : w.IsChanging n) :
    w.holder = some n := by
  obtain ⟨op, resume, hprogram, hop⟩ := hn
  rw [h.holder_iff_isInside, (h.exists_eq_await hprogram hop).2]
  rfl

/-- The call that holds the lock is never in the way of its own end. -/
theorem Run.exists_run_free (h : Run (start b calls) log w) (hn : w.holder = some n) :
    (calls n).change?.isSome ∧
      ∃ (rest : List (Event phases)) (w' : Traffic ι (Except Failure Answer)),
        Run w (rest.map (n, ·)) w' ∧ w'.holder = none := by
  rw [h.holder_iff_isInside] at hn
  cases hop : (calls n).change? with
  | none =>
    rw [isInside_of_isOpen (h.isOpen hop).1] at hn
    cases hn
  | some op =>
    refine ⟨rfl, ?_⟩
    obtain ⟨f, hstage⟩ := h.stage hop
    generalize eventsOf n log = trace at hstage hn
    generalize hprogram : w.programs n = p at hstage
    cases hstage with
    | waiting => cases hn
    | entered =>
      obtain ⟨u, hstart, -, hu⟩ := exists_turn hprogram rfl ()
      obtain ⟨w', hrun, hfree, -⟩ := exists_run_await hu (.error (.instanceNotFound ""))
      exact ⟨[_, _, _], w', (Run.nil.snoc hstart).append hrun, hfree⟩
    | changing =>
      obtain ⟨w', hrun, hfree, -⟩ := exists_run_await hprogram (.error (.instanceNotFound ""))
      exact ⟨[_, _], w', hrun, hfree⟩
    | changed outcome =>
      obtain ⟨w', hrelease, hfree, -⟩ := exists_turn hprogram rfl ()
      exact ⟨[_], w', Run.nil.snoc hrelease, hfree⟩
    | left outcome => cases hn

/-- A call that changes a cluster holds the lock once it has begun, until it has done all. -/
theorem Run.holder_iff_of_change? (h : Run (start b calls) log w)
    (hop : (calls n).change? = some op) :
    w.holder = some n ↔
      eventsOf n log ≠ [] ∧ ∀ outcome, eventsOf n log ≠ changeTrace op outcome := by
  obtain ⟨f, hstage⟩ := h.stage hop
  rw [h.holder_iff_isInside]
  generalize eventsOf n log = trace at hstage
  generalize w.programs n = p at hstage
  cases hstage with
  | waiting => exact ⟨nofun, fun hne => absurd rfl hne.1⟩
  | entered | changing | changed => exact ⟨fun _ => ⟨nofun, nofun⟩, fun _ => rfl⟩
  | left outcome => exact ⟨nofun, fun hne => absurd rfl (hne.2 outcome)⟩

/-- A call that waits for a cluster change can go on to free the lock, whatever it came to. -/
theorem Run.exists_run_finish (h : Run (start b calls) log w)
    {resume : Executor.Outcome op → Program phases (Except Failure Answer)}
    (hprogram : w.programs n = .ask (E := phases) (.finish op) resume) (hop : op.changesCluster)
    (outcome : Executor.Outcome op) :
    ∃ w', Run w [(n, ⟨.finish op, outcome⟩), (n, ⟨.release, ()⟩)] w' ∧ w'.holder = none ∧
      ∃ result, w'.programs n = .done result := by
  obtain ⟨⟨f, hawait⟩, -⟩ := h.exists_eq_await hprogram hop
  obtain ⟨w', hrun, hfree, hdone⟩ := exists_run_await hawait outcome
  exact ⟨w', hrun, hfree, _, hdone⟩

/-- A call that changes no cluster never has the lock. -/
theorem Run.holder_ne_of_change? (h : Run (start b calls) log w) (hnone : (calls n).change? = none) :
    w.holder ≠ some n := by
  rw [Ne, h.holder_iff_isInside, isInside_of_isOpen (h.isOpen hnone).1]
  exact nofun

/-- What it does leaves the holder of the lock, and would be the same under any other. -/
theorem Run.turn_of_change? (h : Run (start b calls) log w) (hnone : (calls n).change? = none)
    {w' : Traffic ι (Except Failure Answer)} (hturn : w.Turn n e w') :
    w'.holder = w.holder ∧ ∀ holder, Turn ⟨holder, w.programs⟩ n e ⟨holder, w'.programs⟩ := by
  obtain ⟨resume, hprogram, hgoes⟩ := hturn.goes
  have hopen := (h.isOpen hnone).2 _ _ hprogram
  exact ⟨hopen.moves_iff.mp hturn.moves, fun holder =>
    ⟨⟨resume, hprogram, hgoes⟩, hturn.stays, hopen.moves_iff.mpr rfl⟩⟩

/-- It never has to wait for the lock. -/
theorem Run.exists_turn_of_change? (h : Run (start b calls) log w)
    (hnone : (calls n).change? = none) :
    (∃ result, w.programs n = .done result) ∨
      ∀ holder, ∃ e w', Turn ⟨holder, w.programs⟩ n e w' := by
  cases hprogram : w.programs n with
  | done result => exact .inl ⟨result, rfl⟩
  | ask r resume =>
    obtain ⟨reply⟩ := r.nonempty_reply
    exact .inr fun holder => ⟨_, _, turn_update (w := ⟨holder, w.programs⟩) hprogram
      (((h.isOpen hnone).2 _ _ hprogram).moves_iff.mpr rfl) reply⟩

end Traffic

/-! ### Operations that take no time -/

/-- Calls that take turns at whole operations are calls whose operations finish as soon as they have
started. -/
theorem Interleaving.exists_run [DecidableEq ι] {σ : Type} {ex : Executor σ} {w w' : Shared σ}
    {programs programs' : ι → Program effects α} {log : List (ι × Event effects)}
    (h : Interleaving ex w programs log w' programs') {first : Traffic ι α}
    {before : List (ι × Event phases)} {holder : Option ι} (hholder : holder.isSome = w.locked)
    (hfirst : Traffic.Run first before ⟨holder, fun n => phased (programs n)⟩) :
    ∃ after holder', holder'.isSome = w'.locked ∧
      Traffic.Run first after ⟨holder', fun n => phased (programs' n)⟩ := by
  induction h generalizing before holder with
  | refl w programs => exact ⟨before, holder, hholder, hfirst⟩
  | @turn w next w' programs programs' log n r resume reply hprogram hmeet _ ih =>
    have hphased : phased (programs n) = r.phased >>= fun reply => phased (resume reply) :=
      congrArg phased hprogram
    have hself := congrArg phased (Function.update_self n (resume reply) programs)
    have hothers (m : ι) (hm : m ≠ n) :=
      congrArg phased (Function.update_of_ne hm (resume reply) programs)
    cases r with
    | acquire =>
      unfold Shared.meet? at hmeet
      dsimp only at hmeet
      split at hmeet
      · cases hmeet
      · next hlocked =>
        obtain ⟨rfl, rfl⟩ := Prod.mk.inj (Option.some.inj hmeet)
        have hnone : holder = none := by simpa [hlocked] using hholder
        exact @ih _ (some n) rfl
          (hfirst.snoc (e := ⟨.acquire, ()⟩) ⟨⟨_, hphased, hself⟩, hothers, hnone, rfl⟩)
    | release =>
      obtain ⟨rfl, rfl⟩ := Prod.mk.inj (Option.some.inj hmeet)
      exact @ih _ none rfl
        (hfirst.snoc (e := ⟨.release, ()⟩) ⟨⟨_, hphased, hself⟩, hothers, rfl⟩)
    | execute op =>
      obtain ⟨rfl, rfl⟩ := Prod.mk.inj (Option.some.inj hmeet)
      have hmoves : Phase.Moves n (.start op) holder holder := rfl
      have hstart := hfirst.snoc (Traffic.turn_update hphased hmoves ())
      refine ih hholder (hstart.snoc (n := n) (e := ⟨.finish op, (ex.perform op w.state).1⟩)
        ⟨⟨_, Function.update_self .., hself⟩, fun m hm => ?_, rfl⟩)
      exact (hothers m hm).trans
        (Function.update_of_ne hm _ fun m => phased (programs m)).symm

/-! ### Cluster changes exclude each other -/

/-- Let any calls be under way, with operations that take their time and come to anything. At most
one of the calls changes a cluster at any time. Such a call takes the lock, carries out one operation
and frees the lock, whatever this came to. A provision with parameters that cannot be used does
nothing. It and all calls of the other verbs never take the lock, and what they do is the same
whoever holds it. -/
theorem clusters_change_one_at_a_time [DecidableEq ι] (b : Broker) (calls : ι → Call)
    {log : List (ι × Event phases)} {w : Traffic ι (Except Failure Answer)}
    (h : Traffic.Run (.start b calls) log w) :
    (∀ m n, w.IsChanging m → w.IsChanging n → m = n) ∧
    (∀ n op, (calls n).change? = some op →
      (∃ f, Stage op f (eventsOf n log) (w.programs n)) ∧
      (w.holder = some n ↔
        eventsOf n log ≠ [] ∧ ∀ outcome, eventsOf n log ≠ changeTrace op outcome)) ∧
    (∀ n op resume, w.programs n = .ask (E := phases) (.finish op) resume → op.changesCluster →
      ∀ outcome, ∃ w', Traffic.Run w [(n, ⟨.finish op, outcome⟩), (n, ⟨.release, ()⟩)] w' ∧
        w'.holder = none ∧ ∃ result, w'.programs n = .done result) ∧
    (∀ n, w.holder = some n → (calls n).change?.isSome ∧
      ∃ (rest : List (Event phases)) (w' : Traffic ι (Except Failure Answer)),
        Traffic.Run w (rest.map (n, ·)) w' ∧ w'.holder = none) ∧
    (∀ n instanceId request acceptsIncomplete failure,
      calls n = .provision instanceId request acceptsIncomplete →
      ProvisionParameters.ofMembers request.parameters = .error failure →
      eventsOf n log = [] ∧ w.programs n = .done (.error failure)) ∧
    ∀ n, (calls n).change? = none →
      w.holder ≠ some n ∧
      (∀ e ∈ eventsOf n log, e.request ≠ .acquire ∧ e.request ≠ .release) ∧
      (∀ e w', w.Turn n e w' → w'.holder = w.holder ∧
        ∀ holder, Traffic.Turn ⟨holder, w.programs⟩ n e ⟨holder, w'.programs⟩) ∧
      ((∃ result, w.programs n = .done result) ∨
        ∀ holder, ∃ e w', Traffic.Turn ⟨holder, w.programs⟩ n e w') := by
  refine ⟨fun m n hm hn => ?_, fun n op hop => ⟨h.stage hop, h.holder_iff_of_change? hop⟩,
    fun n op resume hprogram hop => h.exists_run_finish hprogram hop,
    fun n => h.exists_run_free, ?_, ?_⟩
  · exact Option.some.inj ((h.holder_of_isChanging hm).symm.trans (h.holder_of_isChanging hn))
  · intro n instanceId request acceptsIncomplete failure hcall hfailure
    have hreaches := h.reaches n
    change Reaches (phased (b.perform (calls n))) _ _ at hreaches
    rw [hcall, phased_incomplete hfailure] at hreaches
    exact reaches_done_iff.mp hreaches
  · intro n hnone
    refine ⟨h.holder_ne_of_change? hnone, fun e he => ?_, fun e w' hturn =>
      h.turn_of_change? hnone hturn, h.exists_turn_of_change? hnone⟩
    exact ((h.isOpen hnone).1 e he).ne

namespace Meanwhile

/-- A provision and a deprovision. -/
def calls : Fin 2 → Call
  | 0 => .provision "i" ⟨"service", "plan", none, none,
      some [("CLUSTERNAME", .string "c"), ("NAMESPACE", .string "n")], none⟩ false
  | 1 => .deprovision "j" false

/-- The creation that the provision asks for. -/
def creation : Executor.Operation := .createCluster ⟨"i", "c", "n", "plan"⟩

/-- The provision has taken the lock, and the creation has started. -/
def log : List (Fin 2 × Event phases) := [(0, ⟨.acquire, ()⟩), (0, ⟨.start creation, ()⟩)]

theorem change?_calls : (calls 0).change? = some creation := by decide +kernel

theorem exists_run (b : Broker) :
    ∃ (f : _) (w : Traffic (Fin 2) (Except Failure Answer)),
      Traffic.Run (.start b calls) log w ∧ w.programs 0 = await creation f := by
  obtain ⟨f, hf⟩ := exists_phased_eq_approach b change?_calls
  have happroach : (Traffic.start b calls).programs 0 = approach creation f := hf
  have htaken : Phase.Moves 0 .acquire (Traffic.start b calls).holder (some 0) := ⟨rfl, rfl⟩
  obtain ⟨u, hacquire, -, hu⟩ := Traffic.exists_turn happroach htaken ()
  obtain ⟨w, hstart, -, hw⟩ := Traffic.exists_turn hu rfl ()
  exact ⟨f, w, (Traffic.Run.nil.snoc hacquire).snoc hstart, hw⟩

end Meanwhile

/-- While a cluster is created no other is deleted, and the deletion can go on even if the creation
fails. -/
theorem clusters_change_one_at_a_time_meanwhile :
    ∃ w, Traffic.Run (.start ⟨"service", true⟩ Meanwhile.calls) Meanwhile.log w ∧
      w.IsChanging 0 ∧ ¬ w.IsChanging 1 ∧
      ∀ failure, ∃ w', Traffic.Run w
        [(0, ⟨.finish Meanwhile.creation, .error failure⟩), (0, ⟨.release, ()⟩)] w' ∧
        w'.holder = none := by
  obtain ⟨f, w, hrun, hw⟩ := Meanwhile.exists_run ⟨"service", true⟩
  have hchanging : w.IsChanging 0 := ⟨Meanwhile.creation, _, hw, rfl⟩
  obtain ⟨hone, -, hfrees, -⟩ := clusters_change_one_at_a_time _ _ hrun
  refine ⟨w, hrun, hchanging, fun hother => ?_, fun failure => ?_⟩
  · exact absurd (hone 0 1 hchanging hother) (by decide)
  · obtain ⟨w', hrun', hfree, -⟩ := hfrees 0 Meanwhile.creation _ hw rfl (.error failure)
    exact ⟨w', hrun', hfree⟩

end ServiceBroker.Broker

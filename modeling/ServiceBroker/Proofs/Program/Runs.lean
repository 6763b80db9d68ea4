import ServiceBroker.Program

/-!
# Runs of programs

`Program.Run` speaks of programs that come to their end. A program may also be watched before it is
done, or be given up on the way, and several programs may be under way at once. Statements about
what a program may ask, and when, are made of programs in progress and so hold of all of these.

## Main definitions

* `Program.Reaches`: a program in progress
* `Program.Spells`: events with a run in the place of each request
* `Program.Guarded`: every request of a program is allowed by the events before it
* `Program.Always`: wherever a program asks something, it goes on in some way
* `Program.Served`: events whose replies are given by a state
* `Program.events`: the events of a program that is run on a state
* `Program.eventsOf`: the events of one of several programs that run side by side

## Main results

* `Program.run_bind_iff`: a run of a sequence is a run of each part
* `Program.run_bind_ok_iff`: a sequence that must not fail, part by part
* `Program.run_substitute_iff`: a run with requests replaced
* `Program.Guarded.of_reaches`: what a guarded program asks is allowed when it asks it
* `Program.runIn_eq_iff`: running a program on a state is a run with the replies of that state
-/

namespace ServiceBroker.Program

variable {E F : Effects} {α β : Type} {trace : List (Event E)}

/-- `Reaches p trace q`: the program `p` can ask the requests of `trace`, be given its replies and
go on as `q`. -/
inductive Reaches : Program E α → List (Event E) → Program E α → Prop where
  | refl (p : Program E α) : Reaches p [] p
  | ask (r : E.Request) (k : E.Reply r → Program E α) (reply : E.Reply r)
      {trace : List (Event E)} {q : Program E α} :
      Reaches (k reply) trace q → Reaches (ask r k) (⟨r, reply⟩ :: trace) q

/-! ### Runs part by part -/

theorem bind_assoc {γ : Type} (p : Program E α) (f : α → Program E β) (g : β → Program E γ) :
    p >>= f >>= g = p >>= fun a => f a >>= g := by
  induction p with
  | done a => rfl
  | ask r k ih => exact congrArg (ask r) (funext ih)

/-- A sequence that ends with the value of its first part is that part. -/
theorem bind_done (p : Program E α) : (p >>= fun a => done a) = p := by
  induction p with
  | done a => rfl
  | ask r k ih => exact congrArg (ask r) (funext ih)

theorem run_done_iff {a b : α} : Run (done a : Program E α) trace b ↔ trace = [] ∧ b = a := by
  constructor
  · intro h
    cases h
    exact ⟨rfl, rfl⟩
  · rintro ⟨rfl, rfl⟩
    exact .done b

theorem run_ask_iff {r : E.Request} {k : E.Reply r → Program E α} {a : α} :
    Run (ask r k) trace a ↔ ∃ reply rest, trace = ⟨r, reply⟩ :: rest ∧ Run (k reply) rest a := by
  constructor
  · intro h
    cases h with
    | ask _ _ reply h => exact ⟨reply, _, rfl, h⟩
  · rintro ⟨reply, rest, rfl, h⟩
    exact .ask r k reply h

/-- A run of a sequence is a run of its first part, followed by a run of what comes after. -/
theorem run_bind_iff {p : Program E α} {f : α → Program E β} {b : β} :
    Run (p >>= f) trace b ↔
      ∃ first a rest, trace = first ++ rest ∧ Run p first a ∧ Run (f a) rest b := by
  induction p generalizing trace with
  | done a =>
    constructor
    · intro h
      exact ⟨[], a, trace, rfl, .done a, h⟩
    · rintro ⟨first, a', rest, rfl, h, h'⟩
      obtain ⟨rfl, rfl⟩ := run_done_iff.mp h
      exact h'
  | ask r k ih =>
    -- The first request of the sequence is that of its first part, which goes on after the reply.
    rw [ask_bind, run_ask_iff]
    constructor
    · rintro ⟨reply, rest, rfl, h⟩
      obtain ⟨first, a, rest, rfl, hp, hf⟩ := (ih reply).mp h
      exact ⟨_, a, rest, rfl, .ask r k reply hp, hf⟩
    · rintro ⟨first, a, rest, rfl, hp, hf⟩
      obtain ⟨reply, first, rfl, hk⟩ := run_ask_iff.mp hp
      exact ⟨reply, _, rfl, (ih reply).mpr ⟨first, a, rest, rfl, hk, hf⟩⟩

/-- A sequence goes on with the value of its first part once that has been run. -/
theorem run_bind_append_iff {p : Program E α} {f : α → Program E β} {a : α} {b : β}
    {first rest : List (Event E)} (h : Run p first a) :
    Run (p >>= f) (first ++ rest) b ↔ Run (f a) rest b := by
  induction h with
  | done a => exact Iff.rfl
  | ask r k reply _ ih =>
    rw [← ih]
    constructor
    · intro h
      cases h with
      | ask _ _ _ h => exact h
    · exact .ask r (fun reply => k reply >>= f) reply

/-- A sequence that ends as soon as its first part fails succeeds only if both parts do. -/
theorem run_bind_ok_iff {ε ε' : Type} {p : Program E (Except ε α)}
    {f : Except ε α → Program E (Except ε' β)} {b : β}
    (hf : ∀ e, ∃ e', f (.error e) = done (.error e')) :
    Run (p >>= f) trace (.ok b) ↔ ∃ first a rest, trace = first ++ rest ∧
      Run p first (.ok a) ∧ Run (f (.ok a)) rest (.ok b) := by
  rw [run_bind_iff]
  constructor
  · rintro ⟨first, result, rest, rfl, hfirst, hrest⟩
    cases result with
    | error e =>
      obtain ⟨e', he⟩ := hf e
      rw [he] at hrest
      cases (run_done_iff.mp hrest).2
    | ok a => exact ⟨first, a, rest, rfl, hfirst, hrest⟩
  · rintro ⟨first, a, rest, rfl, hfirst, hrest⟩
    exact ⟨first, .ok a, rest, rfl, hfirst, hrest⟩

/-- A program that fails unless something holds succeeds only if that holds. -/
theorem run_ite_ok_iff {ε : Type} {c : Prop} [Decidable c] {p : Program E (Except ε α)} {e : ε}
    {a : α} : Run (if c then p else done (.error e)) trace (.ok a) ↔ c ∧ Run p trace (.ok a) := by
  by_cases hc : c
  · rw [if_pos hc]
    exact (and_iff_right hc).symm
  · rw [if_neg hc]
    refine iff_of_false (fun h => ?_) fun h => hc h.1
    cases (run_done_iff.mp h).2

/-- A program whose requests can all be replied to can be run to its end. -/
theorem exists_run (hreply : ∀ r, Nonempty (E.Reply r)) (p : Program E α) :
    ∃ trace a, Run p trace a := by
  induction p with
  | done a => exact ⟨[], a, .done a⟩
  | ask r k ih =>
    obtain ⟨reply⟩ := hreply r
    obtain ⟨trace, a, hrun⟩ := ih reply
    exact ⟨_, a, .ask r k reply hrun⟩

/-- A program that has been run to its end has reached it. -/
theorem run_iff_reaches_done {p : Program E α} {a : α} : Run p trace a ↔ Reaches p trace (done a) := by
  constructor
  · intro h
    induction h with
    | done a => exact .refl _
    | ask r k reply _ ih => exact .ask r k reply ih
  · intro h
    -- The end is a variable during the induction, or the index `done a` would be in the way.
    generalize hq : (done a : Program E α) = q at h
    induction h with
    | refl p => exact hq ▸ .done a
    | ask r k reply _ ih => exact .ask r k reply (ih hq)

theorem reaches_done_iff {a : α} {q : Program E α} :
    Reaches (done a) trace q ↔ trace = [] ∧ q = done a := by
  constructor
  · intro h
    cases h
    exact ⟨rfl, rfl⟩
  · rintro ⟨rfl, rfl⟩
    exact .refl _

/-- A program in progress has asked nothing yet, or its first request has been replied to. -/
theorem reaches_ask_iff {r : E.Request} {k : E.Reply r → Program E α} {q : Program E α} :
    Reaches (ask r k) trace q ↔ (trace = [] ∧ q = ask r k) ∨
      ∃ reply rest, trace = ⟨r, reply⟩ :: rest ∧ Reaches (k reply) rest q := by
  constructor
  · intro h
    cases h with
    | refl => exact .inl ⟨rfl, rfl⟩
    | ask _ _ reply h => exact .inr ⟨reply, _, rfl, h⟩
  · rintro (⟨rfl, rfl⟩ | ⟨reply, rest, rfl, h⟩)
    · exact .refl _
    · exact .ask r k reply h

/-- A program that has asked nothing is where it began. -/
theorem reaches_nil_iff {p q : Program E α} : Reaches p [] q ↔ q = p := by
  constructor
  · intro h
    generalize hnone : ([] : List (Event E)) = trace at h
    cases h with
    | refl => rfl
    | ask => cases hnone
  · rintro rfl
    exact .refl _

/-- A program in progress can be watched up to some point and from there on. -/
theorem reaches_append_iff {before after : List (Event E)} {p q : Program E α} :
    Reaches p (before ++ after) q ↔ ∃ p', Reaches p before p' ∧ Reaches p' after q := by
  induction before generalizing p with
  | nil =>
    constructor
    · exact fun h => ⟨p, .refl p, h⟩
    · rintro ⟨p', hp, h⟩
      cases hp
      exact h
  | cons e before ih =>
    constructor
    · intro h
      cases h with
      | ask r k reply h =>
        obtain ⟨p', hp, hq⟩ := ih.mp h
        exact ⟨p', .ask r k reply hp, hq⟩
    · rintro ⟨p', hp, hq⟩
      cases hp with
      | ask r k reply hp => exact .ask r k reply (ih.mpr ⟨p', hp, hq⟩)

/-- A program can go on after its first request as it can after the reply. -/
theorem exists_reaches_ask {r : E.Request} {k : E.Reply r → Program E α} {reply : E.Reply r}
    (h : ∃ q, Reaches (k reply) trace q) : ∃ q, Reaches (ask r k) (⟨r, reply⟩ :: trace) q := by
  obtain ⟨q, hq⟩ := h
  exact ⟨q, .ask r k reply hq⟩

/-- A program can be done after its first request as it can after the reply. -/
theorem exists_run_ask {r : E.Request} {k : E.Reply r → Program E α} {reply : E.Reply r}
    (h : ∃ a, Run (k reply) trace a) : ∃ a, Run (ask r k) (⟨r, reply⟩ :: trace) a := by
  obtain ⟨a, ha⟩ := h
  exact ⟨a, .ask r k reply ha⟩

/-- A sequence in progress is still in its first part, or has come to the end of it. -/
theorem reaches_bind {p : Program E α} {f : α → Program E β} {q : Program E β}
    (h : Reaches (p >>= f) trace q) :
    (∃ p', Reaches p trace p') ∨
      ∃ first a rest, trace = first ++ rest ∧ Run p first a ∧ Reaches (f a) rest q := by
  induction p generalizing trace with
  | done a => exact .inr ⟨[], a, trace, rfl, .done a, h⟩
  | ask r k ih =>
    rw [ask_bind] at h
    rcases reaches_ask_iff.mp h with ⟨rfl, -⟩ | ⟨reply, rest, rfl, hk⟩
    · exact .inl ⟨_, .refl _⟩
    · rcases ih reply hk with ⟨p', hp⟩ | ⟨first, a, rest, rfl, hp, hf⟩
      · exact .inl ⟨p', .ask r k reply hp⟩
      · exact .inr ⟨_, a, rest, rfl, .ask r k reply hp, hf⟩

/-- What comes before a value that is made at once is the first part alone. -/
theorem reaches_of_reaches_bind_done {p : Program E α} {f : α → β} {q : Program E β}
    (h : Reaches (p >>= fun a => done (f a)) trace q) : ∃ p', Reaches p trace p' := by
  rcases reaches_bind h with hp | ⟨first, a, rest, rfl, hp, hrest⟩
  · exact hp
  · obtain ⟨rfl, -⟩ := reaches_done_iff.mp hrest
    rw [List.append_nil]
    exact ⟨done a, run_iff_reaches_done.mp hp⟩

theorem run_bind_done_iff {p : Program E α} {f : α → β} {b : β} :
    Run (p >>= fun a => done (f a)) trace b ↔ ∃ a, Run p trace a ∧ b = f a := by
  rw [run_bind_iff]
  constructor
  · rintro ⟨first, a, rest, rfl, hp, hrest⟩
    obtain ⟨rfl, rfl⟩ := run_done_iff.mp hrest
    exact ⟨a, (List.append_nil first).symm ▸ hp, rfl⟩
  · rintro ⟨a, hp, rfl⟩
    exact ⟨trace, a, [], (List.append_nil trace).symm, hp, .done _⟩

/-! ### Requests that are replaced -/

/-- `Spells f events trace`: with a run of `f` in the place of each request, the events come to
`trace`. -/
inductive Spells (f : (r : E.Request) → Program F (E.Reply r)) :
    List (Event E) → List (Event F) → Prop where
  | nil : Spells f [] []
  | cons {r : E.Request} {reply : E.Reply r} {events : List (Event E)} (first : List (Event F))
      {rest : List (Event F)} :
      Run (f r) first reply → Spells f events rest → Spells f (⟨r, reply⟩ :: events) (first ++ rest)

/-- A run with requests replaced is a run of the program, with a run in the place of each request. -/
theorem run_substitute_iff {f : (r : E.Request) → Program F (E.Reply r)} {p : Program E α} {a : α}
    {trace : List (Event F)} :
    Run (p.substitute f) trace a ↔ ∃ events, Run p events a ∧ Spells f events trace := by
  induction p generalizing trace with
  | done a' =>
    constructor
    · intro h
      obtain ⟨rfl, rfl⟩ := run_done_iff.mp h
      exact ⟨[], .done _, .nil⟩
    · rintro ⟨events, hrun, hspells⟩
      obtain ⟨rfl, rfl⟩ := run_done_iff.mp hrun
      cases hspells
      exact .done _
  | ask r k ih =>
    have hask : (ask r k).substitute f = f r >>= fun reply => (k reply).substitute f := rfl
    rw [hask, run_bind_iff]
    constructor
    · rintro ⟨first, reply, rest, rfl, hfirst, hrest⟩
      obtain ⟨events, hrun, hspells⟩ := (ih reply).mp hrest
      exact ⟨_, .ask r k reply hrun, .cons first hfirst hspells⟩
    · rintro ⟨events, hrun, hspells⟩
      obtain ⟨reply, later, rfl, hlater⟩ := run_ask_iff.mp hrun
      cases hspells with
      | cons first hfirst hspells =>
        exact ⟨first, reply, _, rfl, hfirst, (ih reply).mpr ⟨later, hlater, hspells⟩⟩

/-! ### What a program may ask -/

/-- Every request of the program is one that `allowed` holds of after the events that came before
it, `past` being those before the program. -/
def Guarded (allowed : List (Event E) → E.Request → Prop) (past : List (Event E)) :
    Program E α → Prop
  | done _ => True
  | ask r k => allowed past r ∧ ∀ reply, Guarded allowed (past ++ [⟨r, reply⟩]) (k reply)

namespace Guarded

variable {allowed : List (Event E) → E.Request → Prop} {past : List (Event E)}

/-- Whatever a guarded program asks is allowed when it asks it. -/
theorem of_reaches {p q : Program E α} {before after : List (Event E)} {e : Event E}
    (h : Guarded allowed past p) (hq : Reaches p (before ++ e :: after) q) :
    allowed (past ++ before) e.request := by
  induction before generalizing past p with
  | nil =>
    cases hq with
    | ask r k reply _ => simpa using h.1
  | cons e' before ih =>
    cases hq with
    | ask r k reply hq => simpa using ih (h.2 reply) hq

/-- A sequence is guarded if its first part is, and what comes after each run of that part. -/
theorem bind {p : Program E α} {f : α → Program E β} (hp : Guarded allowed past p)
    (hf : ∀ trace a, Run p trace a → Guarded allowed (past ++ trace) (f a)) :
    Guarded allowed past (p >>= f) := by
  induction p generalizing past with
  | done a => simpa using hf [] a (.done a)
  | ask r k ih =>
    refine ⟨hp.1, fun reply => ih reply (hp.2 reply) fun trace a h => ?_⟩
    simpa using hf _ a (.ask r k reply h)

/-- A program is guarded by what is allowed whenever its guard is. -/
theorem mono {allowed' : List (Event E) → E.Request → Prop} {p : Program E α}
    (h : Guarded allowed past p)
    (hallowed : ∀ more r, allowed (past ++ more) r → allowed' (past ++ more) r) :
    Guarded allowed' past p := by
  induction p generalizing past with
  | done a => trivial
  | ask r k ih =>
    refine ⟨by simpa using hallowed [] r (by simpa using h.1), fun reply => ?_⟩
    refine ih reply (h.2 reply) fun more r' hr' => ?_
    rw [List.append_assoc] at hr' ⊢
    exact hallowed _ r' hr'

end Guarded

/-! ### How a program goes on -/

/-- Wherever the program asks something, the request and what follows it are such that `Q` holds. -/
def Always (Q : (r : E.Request) → (E.Reply r → Program E α) → Prop) : Program E α → Prop
  | done _ => True
  | ask r k => Q r k ∧ ∀ reply, Always Q (k reply)

theorem Always.of_reaches {Q : (r : E.Request) → (E.Reply r → Program E α) → Prop}
    {p : Program E α} {r : E.Request} {k : E.Reply r → Program E α} (h : Always Q p)
    (hq : Reaches p trace (ask r k)) : Q r k := by
  generalize hask : ask r k = q at hq
  induction hq with
  | refl p =>
    subst hask
    exact h.1
  | ask r' k' reply _ ih => exact ih (h.2 reply) hask

theorem Always.mono {Q Q' : (r : E.Request) → (E.Reply r → Program E α) → Prop} {p : Program E α}
    (h : Always Q p) (hQ : ∀ r k, Q r k → Q' r k) : Always Q' p := by
  induction p with
  | done a => trivial
  | ask r k ih => exact ⟨hQ r k h.1, fun reply => ih reply (h.2 reply)⟩

/-- A sequence asks for what its parts ask for. -/
theorem Always.bind {Q : E.Request → Prop} {p : Program E α} {f : α → Program E β}
    (hp : Always (fun r _ => Q r) p) (hf : ∀ a, Always (fun r _ => Q r) (f a)) :
    Always (fun r _ => Q r) (p >>= f) := by
  induction p with
  | done a => exact hf a
  | ask r k ih => exact ⟨hp.1, fun reply => ih reply (hp.2 reply)⟩

/-- With its requests replaced, a program asks for what they are replaced by. -/
theorem Always.substitute {Q : E.Request → Prop} {Q' : F.Request → Prop} {p : Program E α}
    {f : (r : E.Request) → Program F (E.Reply r)} (hp : Always (fun r _ => Q r) p)
    (hf : ∀ r, Q r → Always (fun r _ => Q' r) (f r)) :
    Always (fun r _ => Q' r) (p.substitute f) := by
  induction p with
  | done a => trivial
  | ask r k ih => exact (hf r hp.1).bind fun reply => ih reply (hp.2 reply)

/-- What a program may ask at any time is also allowed when it asks it. -/
theorem Always.guarded {Q : E.Request → Prop} {p : Program E α}
    (h : Always (fun r _ => Q r) p) (past : List (Event E)) : Guarded (fun _ r => Q r) past p := by
  induction p generalizing past with
  | done a => trivial
  | ask r k ih => exact ⟨h.1, fun reply => ih reply (h.2 reply) _⟩

/-! ### Programs on a state -/

section Served

variable {σ : Type} {answer : (r : E.Request) → StateM σ (E.Reply r)} {s s' : σ}

/-- The replies are those that are given from the state `s` on, and `s'` is the state they lead to.
-/
inductive Served (answer : (r : E.Request) → StateM σ (E.Reply r)) :
    σ → List (Event E) → σ → Prop where
  | nil (s : σ) : Served answer s [] s
  | cons (r : E.Request) {s s' : σ} {trace : List (Event E)} :
      Served answer (answer r s).2 trace s' → Served answer s (⟨r, (answer r s).1⟩ :: trace) s'

theorem served_nil_iff : Served answer s [] s' ↔ s' = s := by
  constructor
  · intro h
    cases h
    rfl
  · rintro rfl
    exact .nil _

theorem served_cons_iff {r : E.Request} {reply : E.Reply r} :
    Served answer s (⟨r, reply⟩ :: trace) s' ↔
      reply = (answer r s).1 ∧ Served answer (answer r s).2 trace s' := by
  constructor
  · intro h
    cases h with
    | cons _ h => exact ⟨rfl, h⟩
  · rintro ⟨rfl, h⟩
    exact .cons r h

theorem served_append_iff {before after : List (Event E)} :
    Served answer s (before ++ after) s' ↔
      ∃ mid, Served answer s before mid ∧ Served answer mid after s' := by
  induction before generalizing s with
  | nil =>
    constructor
    · exact fun h => ⟨_, .nil _, h⟩
    · rintro ⟨mid, hbefore, hafter⟩
      cases hbefore
      exact hafter
  | cons e before ih =>
    constructor
    · intro h
      cases h with
      | cons r h =>
        obtain ⟨mid, hbefore, hafter⟩ := ih.mp h
        exact ⟨mid, .cons r hbefore, hafter⟩
    · rintro ⟨mid, hbefore, hafter⟩
      cases hbefore with
      | cons r hbefore => exact .cons r (ih.mpr ⟨mid, hbefore, hafter⟩)

/-- The events of a program that is run on a state. -/
def events (answer : (r : E.Request) → StateM σ (E.Reply r)) : Program E α → σ → List (Event E)
  | done _, _ => []
  | ask r k, s => ⟨r, (answer r s).1⟩ :: events answer (k (answer r s).1) (answer r s).2

/-- These are the events of a run with the replies of that state. -/
theorem events_eq_iff {p : Program E α} :
    p.events answer s = trace ↔ ∃ a s', Run p trace a ∧ Served answer s trace s' := by
  induction p generalizing s trace with
  | done a =>
    constructor
    · rintro rfl
      exact ⟨a, s, .done a, .nil s⟩
    · rintro ⟨a', s', hrun, -⟩
      exact (run_done_iff.mp hrun).1.symm
  | ask r k ih =>
    constructor
    · rintro rfl
      obtain ⟨a, s', hrun, hserved⟩ := (ih (answer r s).1).mp rfl
      exact ⟨a, s', .ask r k _ hrun, .cons r hserved⟩
    · rintro ⟨a, s', hrun, hserved⟩
      cases hserved with
      | nil => cases hrun
      | cons _ hserved =>
        cases hrun with
        | ask _ _ _ hrun => exact congrArg (_ :: ·) ((ih _).mpr ⟨a, s', hrun, hserved⟩)

@[simp] theorem runIn_done (a : α) : (done a : Program E α).runIn answer s = (a, s) := rfl

@[simp] theorem runIn_ask (r : E.Request) (k : E.Reply r → Program E α) :
    (ask r k).runIn answer s = (k (answer r s).1).runIn answer (answer r s).2 := rfl

@[simp] theorem events_done (a : α) : (done a : Program E α).events answer s = [] := rfl

@[simp] theorem events_ask (r : E.Request) (k : E.Reply r → Program E α) :
    (ask r k).events answer s =
      ⟨r, (answer r s).1⟩ :: (k (answer r s).1).events answer (answer r s).2 := rfl

/-- A sequence goes on from the state that its first part has led to. -/
theorem runIn_bind {p : Program E α} {f : α → Program E β} :
    (p >>= f).runIn answer s = (f (p.runIn answer s).1).runIn answer (p.runIn answer s).2 := by
  induction p generalizing s with
  | done a => rfl
  | ask r k ih => exact ih _

/-- Running a program on a state is a run of it with the replies of that state. -/
theorem runIn_eq_iff {p : Program E α} {a : α} :
    p.runIn answer s = (a, s') ↔ ∃ trace, Run p trace a ∧ Served answer s trace s' := by
  induction p generalizing s with
  | done b =>
    constructor
    · intro h
      cases h
      exact ⟨[], .done _, .nil _⟩
    · rintro ⟨trace, hrun, hserved⟩
      cases hrun
      cases hserved
      rfl
  | ask r k ih =>
    have hstep : (ask r k).runIn answer s = (k (answer r s).1).runIn answer (answer r s).2 := rfl
    rw [hstep, ih]
    constructor
    · rintro ⟨trace, hrun, hserved⟩
      exact ⟨_, .ask r k _ hrun, .cons r hserved⟩
    · rintro ⟨trace, hrun, hserved⟩
      cases hserved with
      | nil => cases hrun
      | cons _ hserved =>
        cases hrun with
        | ask _ _ _ hrun => exact ⟨_, hrun, hserved⟩

end Served

/-! ### Programs side by side -/

variable {ι : Type} [DecidableEq ι]

/-- The events of one of several programs that run side by side. -/
def eventsOf (n : ι) : List (ι × Event E) → List (Event E)
  | [] => []
  | (m, e) :: log => if m = n then e :: eventsOf n log else eventsOf n log

@[simp] theorem eventsOf_append (n : ι) (log log' : List (ι × Event E)) :
    eventsOf n (log ++ log') = eventsOf n log ++ eventsOf n log' := by
  induction log with
  | nil => rfl
  | cons entry log ih =>
    simp only [List.cons_append, eventsOf, ih]
    split <;> rfl

@[simp] theorem eventsOf_cons_self (n : ι) (e : Event E) (log : List (ι × Event E)) :
    eventsOf n ((n, e) :: log) = e :: eventsOf n log := if_pos rfl

@[simp] theorem eventsOf_map_self (n : ι) (trace : List (Event E)) :
    eventsOf n (trace.map (n, ·)) = trace := by
  induction trace with
  | nil => rfl
  | cons e trace ih => rw [List.map_cons, eventsOf_cons_self, ih]

theorem eventsOf_map_of_ne {m n : ι} (h : m ≠ n) (trace : List (Event E)) :
    eventsOf n (trace.map (m, ·)) = [] := by
  induction trace with
  | nil => rfl
  | cons e trace ih => rw [List.map_cons, eventsOf, if_neg h, ih]

theorem mem_eventsOf {n : ι} {e : Event E} {log : List (ι × Event E)} (h : (n, e) ∈ log) :
    e ∈ eventsOf n log := by
  obtain ⟨before, after, rfl⟩ := List.append_of_mem h
  simp

/-- Where one program's event stands among the events of all. -/
theorem exists_append_of_eventsOf {n : ι} {log : List (ι × Event E)} {e : Event E}
    {before after : List (Event E)} (h : eventsOf n log = before ++ e :: after) :
    ∃ front rest, log = front ++ (n, e) :: rest ∧ eventsOf n front = before ∧
      eventsOf n rest = after := by
  induction log generalizing before with
  | nil => simp [eventsOf] at h
  | cons entry log ih =>
    obtain ⟨m, e'⟩ := entry
    rw [eventsOf] at h
    split at h
    · next hm =>
      subst hm
      cases before with
      | nil =>
        obtain ⟨rfl, hrest⟩ := List.cons.inj h
        exact ⟨[], log, rfl, rfl, hrest⟩
      | cons e'' before =>
        obtain ⟨rfl, hrest⟩ := List.cons.inj h
        obtain ⟨front, rest, rfl, rfl, hafter⟩ := ih hrest
        exact ⟨(m, e') :: front, rest, rfl, by simp, hafter⟩
    · next hm =>
      obtain ⟨front, rest, rfl, hbefore, hafter⟩ := ih h
      exact ⟨(m, e') :: front, rest, rfl, by rw [eventsOf, if_neg hm, hbefore], hafter⟩

theorem mem_of_mem_eventsOf {n : ι} {e : Event E} {log : List (ι × Event E)}
    (h : e ∈ eventsOf n log) : (n, e) ∈ log := by
  obtain ⟨before, after, hsplit⟩ := List.append_of_mem h
  obtain ⟨front, rest, rfl, -, -⟩ := exists_append_of_eventsOf hsplit
  exact List.mem_append_right _ List.mem_cons_self

end ServiceBroker.Program

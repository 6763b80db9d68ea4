import Mathlib.Data.List.Basic
import Mathlib.Data.List.Induction
import ServiceBroker.Locator
import ServiceBroker.Proofs.Outcome
import ServiceBroker.Proofs.Program.Runs

/-!
# The memo of a locator

Steps of a locator that come one after the other share the answers to lookups: each lookup takes the
next one, whichever instance it is made for. Whether an answer is used, and for what, so depends on
all steps before. Here a history of steps is kept, and everything that a step does is read off the
history before it.

## Main definitions

* `Locator.afterRecall`, `Locator.afterLookup`: the parts of a resolution
* `Locator.Step`, `Locator.Entry`: a step, and what came of it
* `Locator.Session`, `Locator.play`: the steps so far, and the script after them
* `Locator.Does`: what a step does to a script
* `Locator.IsResolved`, `Locator.FirstFound`: what a history tells about an instance
* `Locator.Remembers`: a step comes to what the history before it asks for

## Main results

* `Locator.does_run`: every step does one of five things
* `Locator.Tracks.step`: every step keeps the memo to what the history tells
* `Locator.play_remembers`: a locator is a memo of the first answers that could be used
-/

namespace ServiceBroker.Locator

open Program

/-! ### Resolutions -/

/-- The failure of an instance that no cluster belongs to. -/
def notFound (labelKey instanceId : String) : Executor.Failure :=
  .instanceNotFound s!"no cluster matches selector {selector labelKey instanceId}"

/-- What becomes of a resolution with the answer to its lookup. -/
def afterLookup (labelKey instanceId : String) :
    Answer → Program effects (Except Executor.Failure String)
  | .error failure => .done (.error failure)
  | .ok [] => .done (.error (notFound labelKey instanceId))
  | .ok (namespaceName :: _) =>
    .ask (.remember instanceId namespaceName) fun _ => .done (.ok namespaceName)

/-- What becomes of a resolution with what it recalls. -/
def afterRecall (labelKey instanceId : String) :
    Option String → Program effects (Except Executor.Failure String)
  | some namespaceName => .done (.ok namespaceName)
  | none => .ask (.lookup (selector labelKey instanceId)) (afterLookup labelKey instanceId)

/-- A resolution recalls, and then looks up what it has not recalled. -/
theorem resolve_eq (labelKey instanceId : String) :
    resolve labelKey instanceId = .ask (.recall instanceId) (afterRecall labelKey instanceId) := by
  refine congrArg (ask _) (funext fun known => ?_)
  cases known with
  | some namespaceName => rfl
  | none =>
    refine congrArg (ask _) (funext fun answer => ?_)
    match answer with
    | .error failure => rfl
    | .ok [] => rfl
    | .ok (namespaceName :: others) => rfl

/-! ### Steps -/

/-- What can be done with a locator. -/
inductive Step where
  | resolve (instanceId : String)
  | selector (instanceId : String)
  deriving DecidableEq, Repr

/-- The program of a step. -/
def perform (labelKey : String) : Step → Program effects (Except Executor.Failure String)
  | .resolve instanceId => resolve labelKey instanceId
  | .selector instanceId => .done (.ok (selector labelKey instanceId))

/-- The lookups among some events: the selectors, with the answers they got. -/
def lookups : List (Event effects) → List (String × Answer)
  | [] => []
  | ⟨.lookup selector, answer⟩ :: events => (selector, answer) :: lookups events
  | ⟨.recall _, _⟩ :: events | ⟨.remember .., _⟩ :: events => lookups events

/-- A step, the lookups that it made, and its outcome. -/
structure Entry where
  step : Step
  lookups : List (String × Answer)
  outcome : Except Executor.Failure String

/-- The steps so far, the oldest first, and the script after them. -/
structure Session where
  history : List Entry
  script : Script

/-- The session after one more step. -/
def Session.step (labelKey : String) (s : Session) (step : Step) : Session where
  history := s.history ++ [{
    step
    lookups := lookups ((perform labelKey step).events Script.answer s.script)
    outcome := ((perform labelKey step).runIn Script.answer s.script).1 }]
  script := ((perform labelKey step).runIn Script.answer s.script).2

/-- The session of some steps, one after the other, with the given answers to lookups. -/
def play (labelKey : String) (answers : List Answer) (steps : List Step) : Session :=
  steps.foldl (Session.step labelKey) ⟨[], ⟨[], answers, []⟩⟩

variable {labelKey instanceId namespaceName : String} {answers : List Answer} {s s' : Script}
  {history : List Entry} {e : Entry}

theorem play_append_singleton (labelKey : String) (answers : List Answer) (steps : List Step)
    (step : Step) : play labelKey answers (steps ++ [step]) =
      (play labelKey answers steps).step labelKey step := by
  rw [play, List.foldl_append]
  rfl

/-- The answer that the next lookup gets. -/
def Script.next (s : Script) : Answer := s.answers.head?.getD (.ok [])

/-- The script after a lookup. -/
def Script.afterLookup (s : Script) (selector : String) : Script :=
  { s with answers := s.answers.tail, asked := selector :: s.asked }

/-- `Does labelKey s e s'`: on the script `s` the step of the entry comes to what the entry says,
and leads to `s'`. -/
inductive Does (labelKey : String) (s : Script) : Entry → Script → Prop where
  | selected (instanceId : String) :
      Does labelKey s ⟨.selector instanceId, [], .ok (selector labelKey instanceId)⟩ s
  | recalled {instanceId namespaceName : String} :
      s.memo.find? instanceId = some namespaceName →
      Does labelKey s ⟨.resolve instanceId, [], .ok namespaceName⟩ s
  | found {instanceId namespaceName : String} {others : List String} :
      s.memo.find? instanceId = none → s.next = .ok (namespaceName :: others) →
      Does labelKey s ⟨.resolve instanceId,
          [(selector labelKey instanceId, .ok (namespaceName :: others))], .ok namespaceName⟩
        { s.afterLookup (selector labelKey instanceId) with
          memo := s.memo.put instanceId namespaceName }
  | missing {instanceId : String} : s.memo.find? instanceId = none → s.next = .ok [] →
      Does labelKey s ⟨.resolve instanceId, [(selector labelKey instanceId, .ok [])],
          .error (notFound labelKey instanceId)⟩
        (s.afterLookup (selector labelKey instanceId))
  | failed {instanceId : String} {failure : Executor.Failure} :
      s.memo.find? instanceId = none → s.next = .error failure →
      Does labelKey s ⟨.resolve instanceId, [(selector labelKey instanceId, .error failure)],
          .error failure⟩
        (s.afterLookup (selector labelKey instanceId))

/-- Every step does one of these things. -/
theorem does_run (labelKey : String) (s : Script) (step : Step) :
    Does labelKey s ⟨step, lookups ((perform labelKey step).events Script.answer s),
        ((perform labelKey step).runIn Script.answer s).1⟩
      ((perform labelKey step).runIn Script.answer s).2 := by
  cases step with
  | selector instanceId => exact .selected instanceId
  | resolve instanceId =>
    have hrecall : Script.answer (.recall instanceId) s = (s.memo.find? instanceId, s) := rfl
    have hlookup : Script.answer (.lookup (selector labelKey instanceId)) s =
        (s.next, s.afterLookup (selector labelKey instanceId)) := rfl
    rw [perform, resolve_eq, runIn_ask, events_ask, hrecall]
    cases hfind : s.memo.find? instanceId with
    | some namespaceName => exact .recalled hfind
    | none =>
      dsimp only [afterRecall]
      rw [runIn_ask, events_ask, hlookup]
      -- Nothing is kept for the instance, so the next answer decides.
      match hnext : s.next with
      | .ok (namespaceName :: others) => exact .found hfind hnext
      | .ok [] => exact .missing hfind hnext
      | .error failure => exact .failed hfind hnext

/-! ### What a history tells -/

/-- The entry is a success in resolving the instance. -/
def Entry.Resolves (e : Entry) (instanceId : String) : Prop :=
  e.step = .resolve instanceId ∧ e.outcome.isOk

/-- Some step has resolved the instance. -/
def IsResolved (history : List Entry) (instanceId : String) : Prop :=
  ∃ e ∈ history, e.Resolves instanceId

/-- The namespace heads the answer that was got by the first step to resolve the instance. -/
def FirstFound (labelKey : String) (history : List Entry) (instanceId namespaceName : String) :
    Prop :=
  ∃ past e rest others, history = past ++ e :: rest ∧ ¬ IsResolved past instanceId ∧
    e.Resolves instanceId ∧
    e.lookups = [(selector labelKey instanceId, .ok (namespaceName :: others))]

/-- All lookups that the steps have made. -/
def made (history : List Entry) : List (String × Answer) := history.flatMap Entry.lookups

/-- The answer in the given place; when no answer is left, a lookup finds nothing. -/
def answerAt (answers : List Answer) (k : Nat) : Answer := answers[k]?.getD (.ok [])

@[simp] theorem isResolved_append_singleton_iff :
    IsResolved (history ++ [e]) instanceId ↔
      IsResolved history instanceId ∨ e.Resolves instanceId := by
  simp [IsResolved, or_and_right, exists_or]

@[simp] theorem made_append_singleton : made (history ++ [e]) = made history ++ e.lookups := by
  simp [made]

/-- After one more entry, a namespace is the first one found if it was before, or if this is the
first entry to resolve the instance. -/
theorem firstFound_append_singleton_iff :
    FirstFound labelKey (history ++ [e]) instanceId namespaceName ↔
      FirstFound labelKey history instanceId namespaceName ∨
        ¬ IsResolved history instanceId ∧ e.Resolves instanceId ∧ ∃ others,
          e.lookups = [(selector labelKey instanceId, .ok (namespaceName :: others))] := by
  constructor
  · rintro ⟨past, e', rest, others, heq, hpast, hresolves, hlookups⟩
    rcases rest.eq_nil_or_concat' with rfl | ⟨rest, last, rfl⟩
    · obtain ⟨rfl, hlast⟩ := List.append_inj' heq rfl
      obtain rfl := List.singleton_inj.mp hlast
      exact Or.inr ⟨hpast, hresolves, others, hlookups⟩
    · rw [← List.cons_append, ← List.append_assoc] at heq
      obtain ⟨rfl, -⟩ := List.append_inj' heq rfl
      exact Or.inl ⟨past, e', rest, others, rfl, hpast, hresolves, hlookups⟩
  · rintro (⟨past, e', rest, others, rfl, hpast, hresolves, hlookups⟩ |
      ⟨hpast, hresolves, others, hlookups⟩)
    · exact ⟨past, e', rest ++ [e], others, by simp, hpast, hresolves, hlookups⟩
    · exact ⟨history, e, [], others, rfl, hpast, hresolves, hlookups⟩

/-! ### What a step changes -/

/-- A namespace is kept for the instances that were kept before, and for one that is resolved. -/
theorem Does.isSome_iff (h : Does labelKey s e s') (i : String) :
    (s'.memo.find? i).isSome ↔ (s.memo.find? i).isSome ∨ e.Resolves i := by
  cases h with
  | selected instanceId => simp [Entry.Resolves]
  | @recalled instanceId namespaceName hfind =>
    -- Nothing is put, but the instance that is resolved was kept already.
    by_cases hi : i = instanceId
    · simp [hi, hfind]
    · simp [Entry.Resolves, Ne.symm hi]
  | @found instanceId namespaceName others hfind hnext =>
    by_cases hi : i = instanceId
    · simp [Entry.Resolves, Table.find?_put, hi]
    · simp [Entry.Resolves, Table.find?_put, hi, Ne.symm hi]
  | missing hfind hnext => simp [Entry.Resolves, Script.afterLookup]
  | failed hfind hnext => simp [Entry.Resolves, Script.afterLookup]

/-- What was kept stays, and what is new heads the answer to a lookup of this very step. -/
theorem Does.find?_iff (h : Does labelKey s e s') (i ns : String) :
    s'.memo.find? i = some ns ↔ s.memo.find? i = some ns ∨
      s.memo.find? i = none ∧ e.Resolves i ∧
        ∃ others, e.lookups = [(selector labelKey i, .ok (ns :: others))] := by
  cases h with
  | selected instanceId => simp
  | recalled hfind => simp
  | @found instanceId namespaceName others hfind hnext =>
    by_cases hi : i = instanceId
    · simp [Entry.Resolves, Table.find?_put, hi, hfind]
    · simp [Entry.Resolves, Table.find?_put, hi, Ne.symm hi]
  | missing hfind hnext => simp [Entry.Resolves, Script.afterLookup]
  | failed hfind hnext => simp [Entry.Resolves, Script.afterLookup]

/-- A step makes no lookup, or one that takes the next answer. -/
theorem Does.lookups_cases (h : Does labelKey s e s') :
    (e.lookups = [] ∧ s'.answers = s.answers) ∨
      ∃ selector, e.lookups = [(selector, s.next)] ∧ s'.answers = s.answers.tail := by
  cases h with
  | selected instanceId => exact Or.inl ⟨rfl, rfl⟩
  | recalled hfind => exact Or.inl ⟨rfl, rfl⟩
  | found hfind hnext => exact Or.inr ⟨_, by rw [hnext], rfl⟩
  | missing hfind hnext => exact Or.inr ⟨_, by rw [hnext], rfl⟩
  | failed hfind hnext => exact Or.inr ⟨_, by rw [hnext], rfl⟩

theorem Does.keys_nodup (h : Does labelKey s e s') (hs : s.memo.keys.Nodup) :
    s'.memo.keys.Nodup := by
  cases h with
  | found hfind hnext => exact Table.keys_nodup_put hs _ _
  | selected | recalled | missing | failed => exact hs

/-- The memo holds what the history tells, and the answers that are left are those that the lookups
so far have not taken. -/
structure Tracks (labelKey : String) (answers : List Answer) (session : Session) : Prop where
  keys_nodup : session.script.memo.keys.Nodup
  isSome_iff (instanceId : String) : (session.script.memo.find? instanceId).isSome ↔
    IsResolved session.history instanceId
  find?_iff (instanceId namespaceName : String) :
    session.script.memo.find? instanceId = some namespaceName ↔
      FirstFound labelKey session.history instanceId namespaceName
  answers_eq : session.script.answers = answers.drop (made session.history).length
  answered {k : Nat} {lookup : String × Answer} :
    (made session.history)[k]? = some lookup → lookup.2 = answerAt answers k

theorem tracks_nil (labelKey : String) (answers : List Answer) :
    Tracks labelKey answers ⟨[], ⟨[], answers, []⟩⟩ where
  keys_nodup := List.nodup_nil
  isSome_iff instanceId := by simp [IsResolved, Table.find?]
  find?_iff instanceId namespaceName := by simp [FirstFound, Table.find?]
  answers_eq := rfl
  answered h := by simp [made] at h

namespace Tracks

theorem find?_eq_none_iff (h : Tracks labelKey answers ⟨history, s⟩) (instanceId : String) :
    s.memo.find? instanceId = none ↔ ¬ IsResolved history instanceId := by
  rw [← Option.not_isSome_iff_eq_none]
  exact not_congr (h.isSome_iff instanceId)

/-- The next lookup takes the answer whose place is the number of lookups so far. -/
theorem next_eq (h : Tracks labelKey answers ⟨history, s⟩) :
    s.next = answerAt answers (made history).length := by
  have hanswers : s.answers = answers.drop (made history).length := h.answers_eq
  rw [Script.next, hanswers, List.head?_drop, answerAt]

/-- Every step keeps the memo to what the history tells. -/
theorem step (h : Tracks labelKey answers ⟨history, s⟩) (hdoes : Does labelKey s e s') :
    Tracks labelKey answers ⟨history ++ [e], s'⟩ where
  keys_nodup := hdoes.keys_nodup h.keys_nodup
  isSome_iff instanceId := by
    have hbefore := h.isSome_iff instanceId
    simp only [isResolved_append_singleton_iff]
    rw [hdoes.isSome_iff, hbefore]
  find?_iff instanceId namespaceName := by
    have hbefore := h.find?_iff instanceId namespaceName
    rw [firstFound_append_singleton_iff, hdoes.find?_iff, hbefore, h.find?_eq_none_iff]
  answers_eq := by
    have hbefore : s.answers = answers.drop (made history).length := h.answers_eq
    simp only [made_append_singleton, List.length_append]
    rcases hdoes.lookups_cases with ⟨hnone, hanswers⟩ | ⟨selector, hone, hanswers⟩
    · simp [hnone, hanswers, hbefore]
    · simp [hone, hanswers, hbefore]
  answered {k lookup} hlookup := by
    simp only [made_append_singleton] at hlookup
    -- The lookup is one of those before, or the one that this step has made.
    by_cases hk : k < (made history).length
    · rw [List.getElem?_append_left hk] at hlookup
      exact h.answered hlookup
    · rw [List.getElem?_append_right (Nat.le_of_not_lt hk)] at hlookup
      rcases hdoes.lookups_cases with ⟨hnone, -⟩ | ⟨selector, hone, -⟩
      · simp [hnone] at hlookup
      · rw [hone, List.getElem?_singleton] at hlookup
        split at hlookup
        · next hfirst =>
          obtain rfl := Option.some.inj hlookup
          have hlast : k = (made history).length := by omega
          rw [hlast]
          exact h.next_eq
        · cases hlookup

end Tracks

/-! ### What a step comes to -/

/-- A step after the entries of `past`, which takes the memo from `memo` to `memo'`, comes to what
the history asks for. -/
structure Remembers (labelKey : String) (answers : List Answer) (past : List Entry) (e : Entry)
    (memo memo' : Table String String) : Prop where
  /-- Asking for a selector is no lookup and changes nothing. -/
  selector {instanceId : String} : e.step = .selector instanceId →
    e.lookups = [] ∧ e.outcome = .ok (Locator.selector labelKey instanceId) ∧ memo' = memo
  /-- A lookup is made exactly if the instance has not been resolved before, and takes the next
  answer. -/
  lookups {instanceId : String} : e.step = .resolve instanceId →
    (IsResolved past instanceId ∧ e.lookups = []) ∨
      (¬ IsResolved past instanceId ∧ e.lookups =
        [(Locator.selector labelKey instanceId, answerAt answers (made past).length)])
  /-- An instance is resolved exactly if a namespace is kept for it, or is found now. -/
  isOk_iff {instanceId : String} : e.step = .resolve instanceId →
    (e.outcome.isOk ↔ (memo.find? instanceId).isSome ∨ ∃ namespaceName others, e.lookups =
      [(Locator.selector labelKey instanceId, .ok (namespaceName :: others))])
  /-- The namespace is always the one that was found first. -/
  firstFound {instanceId namespaceName : String} : e.step = .resolve instanceId →
    e.outcome = .ok namespaceName →
      FirstFound labelKey (past ++ [e]) instanceId namespaceName
  /-- A failure is that of the lookup, or tells that nothing was found, and changes nothing. -/
  failure {instanceId : String} {failure : Executor.Failure} : e.step = .resolve instanceId →
    e.outcome = .error failure → memo' = memo ∧
      (e.lookups = [(Locator.selector labelKey instanceId, .error failure)] ∨
        e.lookups = [(Locator.selector labelKey instanceId, .ok [])] ∧
          failure = notFound labelKey instanceId)

/-- Where the memo holds what the history tells, a step comes to what the history asks for. -/
theorem Tracks.remembers (h : Tracks labelKey answers ⟨history, s⟩)
    (hdoes : Does labelKey s e s') :
    Remembers labelKey answers history e s.memo s'.memo where
  selector {instanceId} hstep := by
    cases hdoes with
    | selected => cases hstep; exact ⟨rfl, rfl, rfl⟩
    | recalled | found | missing | failed => cases hstep
  lookups {instanceId} hstep := by
    have hnext := h.next_eq
    have hsome := h.isSome_iff instanceId
    have hnone := h.find?_eq_none_iff instanceId
    cases hdoes with
    | selected => cases hstep
    | recalled hfind =>
      cases hstep
      exact Or.inl ⟨hsome.mp (by simp [hfind]), rfl⟩
    | found hfind hanswer | missing hfind hanswer | failed hfind hanswer =>
      cases hstep
      exact Or.inr ⟨hnone.mp hfind, by rw [← hnext, hanswer]⟩
  isOk_iff {instanceId} hstep := by
    cases hdoes with
    | selected => cases hstep
    | recalled hfind => cases hstep; simp [hfind]
    | found hfind hanswer => cases hstep; simp
    | missing hfind hanswer => cases hstep; simp [hfind]
    | failed hfind hanswer => cases hstep; simp [hfind]
  firstFound {instanceId namespaceName} hstep houtcome := by
    have hafter := (h.step hdoes).find?_iff instanceId namespaceName
    -- Whether recalled or found, the namespace is the one that is kept after the step.
    refine hafter.mp ?_
    cases hdoes with
    | selected => cases hstep
    | recalled hfind => cases hstep; cases houtcome; exact hfind
    | found hfind hanswer => cases hstep; cases houtcome; simp [Table.find?_put]
    | missing hfind hanswer => cases houtcome
    | failed hfind hanswer => cases houtcome
  failure {instanceId failure} hstep houtcome := by
    cases hdoes with
    | selected => cases hstep
    | recalled hfind => cases houtcome
    | found hfind hanswer => cases houtcome
    | missing hfind hanswer =>
      cases hstep
      cases houtcome
      exact ⟨rfl, Or.inr ⟨rfl, rfl⟩⟩
    | failed hfind hanswer =>
      cases hstep
      cases houtcome
      exact ⟨rfl, Or.inl rfl⟩

/-! ### Whole histories -/

/-- The memo holds what the history tells after all steps. -/
theorem tracks_play (labelKey : String) (answers : List Answer) (steps : List Step) :
    Tracks labelKey answers (play labelKey answers steps) := by
  induction steps using List.reverseRecOn with
  | nil => exact tracks_nil labelKey answers
  | append_singleton steps step ih =>
    rw [play_append_singleton]
    exact ih.step (does_run labelKey _ step)

/-- The history of a session is one of the steps that have been made. -/
theorem steps_play (labelKey : String) (answers : List Answer) (steps : List Step) :
    (play labelKey answers steps).history.map Entry.step = steps := by
  induction steps using List.reverseRecOn with
  | nil => rfl
  | append_singleton steps step ih =>
    rw [play_append_singleton, Session.step, List.map_append, ih]
    rfl

/-- Whatever the answers to lookups are, and whatever steps are made one after the other, a locator
is a memo. The lookups take the answers in their order, one each. Each instance that has been
resolved has one entry, and there are no others. Every further step comes to what the steps before
it ask for: an instance is looked up only until it has been resolved for the first time, it is then
always the namespace found at that time, and failures leave nothing behind. -/
theorem play_remembers (labelKey : String) (answers : List Answer) (steps : List Step) :
    (play labelKey answers steps).history.map Entry.step = steps ∧
    (∀ k lookup, (made (play labelKey answers steps).history)[k]? = some lookup →
      lookup.2 = answerAt answers k) ∧
    (play labelKey answers steps).script.answers =
      answers.drop (made (play labelKey answers steps).history).length ∧
    (∃ resolved : List String, resolved.Nodup ∧
      (∀ i, i ∈ resolved ↔ IsResolved (play labelKey answers steps).history i) ∧
      (play labelKey answers steps).script.memo.length = resolved.length) ∧
    ∀ step, ∃ e, e.step = step ∧
      (play labelKey answers (steps ++ [step])).history =
        (play labelKey answers steps).history ++ [e] ∧
      Remembers labelKey answers (play labelKey answers steps).history e
        (play labelKey answers steps).script.memo
        (play labelKey answers (steps ++ [step])).script.memo := by
  have htracks := tracks_play labelKey answers steps
  refine ⟨steps_play labelKey answers steps, fun k lookup => htracks.answered, htracks.answers_eq,
    ?_, ?_⟩
  · refine ⟨(play labelKey answers steps).script.memo.keys, htracks.keys_nodup, fun i => ?_, ?_⟩
    · rw [← Table.isSome_find?_iff, htracks.isSome_iff]
    · rw [Table.keys, List.length_map]
  · intro step
    have hdoes := does_run labelKey (play labelKey answers steps).script step
    rw [play_append_singleton]
    exact ⟨_, rfl, rfl, htracks.remembers hdoes⟩

/-- What was found after a failure stays, although a later lookup has got another answer. -/
theorem play_remembers_after_failure :
    ∃ e, (play "key" [.error (.transportFailure "down"), .ok ["a", "b"], .ok ["c"], .ok ["d"]]
        [.resolve "i", .resolve "i", .resolve "j", .resolve "i"]).history =
      [⟨.resolve "i", [("key=i", .error (.transportFailure "down"))],
          .error (.transportFailure "down")⟩,
        ⟨.resolve "i", [("key=i", .ok ["a", "b"])], .ok "a"⟩,
        ⟨.resolve "j", [("key=j", .ok ["c"])], .ok "c"⟩, e] ∧
      e.lookups = [] ∧ e.outcome = .ok "a" := by
  obtain ⟨e, hstep, hhistory, h⟩ := (play_remembers "key"
    [.error (.transportFailure "down"), .ok ["a", "b"], .ok ["c"], .ok ["d"]]
    [.resolve "i", .resolve "i", .resolve "j"]).2.2.2.2 (.resolve "i")
  refine ⟨e, hhistory, ?_, ?_⟩
  · rcases h.lookups hstep with ⟨-, hnone⟩ | ⟨hfirst, -⟩
    · exact hnone
    · exact absurd ⟨⟨.resolve "i", [("key=i", .ok ["a", "b"])], .ok "a"⟩,
        List.mem_cons_of_mem _ List.mem_cons_self, rfl, rfl⟩ hfirst
  · obtain rfl := List.singleton_inj.mp (List.append_cancel_left hhistory)
    rfl

end ServiceBroker.Locator

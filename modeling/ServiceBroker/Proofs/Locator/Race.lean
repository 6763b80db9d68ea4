import Mathlib.Logic.Function.Basic
import ServiceBroker.Proofs.Locator.Memo

/-!
# Resolutions that race

Recalling and remembering the namespace of an instance are two turns, and other resolutions may have
theirs in between. Several of them may so miss the same entry, get answers of their own, and write
late, when others have already gone on with what was kept first. What makes this harmless is that
nothing is ever kept but what heads an answer that was given, and that this is known already of the
answers which pending resolutions hold.

## Main definitions

* `Locator.Racing`, `Locator.Race`: resolutions that share a memo and take turns
* `Locator.Heads`: a namespace heads an answer to a lookup for an instance
* `Locator.Stage`: what a resolution can be in the middle of
* `Locator.Sound`: what the memo and all resolutions hold heads answers that were given

## Main results

* `Locator.Sound.turn`: every turn keeps this
* `Locator.Race.sound`: so it holds at every point of a race
* `Locator.races_are_harmless`: entries are made of answers and stay, and where the answers agree all
  resolutions do
-/

namespace ServiceBroker.Locator

open Program

/-! ### Turns -/

/-- The memo after an event. -/
def keep (memo : Table String String) : Event effects → Table String String
  | ⟨.recall _, _⟩ | ⟨.lookup _, _⟩ => memo
  | ⟨.remember instanceId namespaceName, _⟩ => memo.put instanceId namespaceName

/-- What is recalled is what the memo holds. The answers to lookups may be any. -/
def Tells (memo : Table String String) : Event effects → Prop
  | ⟨.recall instanceId, known⟩ => known = memo.find? instanceId
  | ⟨.lookup _, _⟩ | ⟨.remember .., _⟩ => True

/-- A memo, and how each of the resolutions that share it goes on. -/
structure Racing (ι : Type) where
  memo : Table String String
  programs : ι → Program effects (Except Executor.Failure String)

variable {ι : Type} [DecidableEq ι]

/-- Resolutions of the given instances, before the first turn. -/
def Racing.start (labelKey : String) (instances : ι → String) : Racing ι where
  memo := []
  programs n := resolve labelKey (instances n)

/-- The state after a turn, which leaves the resolution `n` with the program `p`. -/
def Racing.turn (s : Racing ι) (n : ι) (e : Event effects)
    (p : Program effects (Except Executor.Failure String)) : Racing ι where
  memo := keep s.memo e
  programs := Function.update s.programs n p

/-- `Race s log s'`: from `s` on the resolutions can take turns as in `log`, which leads to `s'`. -/
inductive Race (s : Racing ι) : List (ι × Event effects) → Racing ι → Prop where
  | refl : Race s [] s
  | turn {s' : Racing ι} {log : List (ι × Event effects)} (n : ι) (r : Request) (reply : r.Reply)
      {resume : r.Reply → Program effects (Except Executor.Failure String)} :
      Race s log s' → s'.programs n = .ask (E := effects) r resume →
      Tells s'.memo ⟨r, reply⟩ →
      Race s (log ++ [(n, ⟨r, reply⟩)]) (s'.turn n ⟨r, reply⟩ (resume reply))

variable {labelKey i j namespaceName : String} {instances : ι → String}
  {log more : List (ι × Event effects)} {s s' : Racing ι} {n : ι} {r : Request}
  {resume : r.Reply → Program effects (Except Executor.Failure String)} {reply : r.Reply}

/-! ### What a resolution can be in the middle of -/

/-- A resolution of the instance, in progress. Whatever namespace it holds is one that `Known` holds
of. -/
inductive Stage (labelKey instanceId : String) (Known : String → Prop) :
    Program effects (Except Executor.Failure String) → Prop where
  | recalling : Stage labelKey instanceId Known
      (.ask (.recall instanceId) (afterRecall labelKey instanceId))
  | lookingUp : Stage labelKey instanceId Known
      (.ask (.lookup (selector labelKey instanceId)) (afterLookup labelKey instanceId))
  | remembering {namespaceName : String} : Known namespaceName → Stage labelKey instanceId Known
      (.ask (.remember instanceId namespaceName) fun _ => .done (.ok namespaceName))
  | resolved {namespaceName : String} : Known namespaceName →
      Stage labelKey instanceId Known (.done (.ok namespaceName))
  | failed (failure : Executor.Failure) : Stage labelKey instanceId Known (.done (.error failure))

namespace Stage

variable {Known Known' : String → Prop} {p : Program effects (Except Executor.Failure String)}

theorem mono (h : Stage labelKey i Known p)
    (hknown : ∀ namespaceName, Known namespaceName → Known' namespaceName) :
    Stage labelKey i Known' p := by
  cases h with
  | recalling => exact .recalling
  | lookingUp => exact .lookingUp
  | remembering hholds => exact .remembering (hknown _ hholds)
  | resolved hholds => exact .resolved (hknown _ hholds)
  | failed failure => exact .failed failure

/-- A reply takes a resolution to another stage, if it is known what the reply tells. -/
theorem goesOn (h : Stage labelKey i Known (.ask (E := effects) r resume))
    (hrecall : ∀ namespaceName, r = .recall i → reply ≍ some namespaceName → Known namespaceName)
    (hlookup : ∀ namespaceName others, r = .lookup (selector labelKey i) →
      reply ≍ (.ok (namespaceName :: others) : Answer) → Known namespaceName) :
    Stage labelKey i Known (resume reply) := by
  cases h with
  | recalling =>
    match reply with
    | some namespaceName => exact .resolved (hrecall namespaceName rfl HEq.rfl)
    | none => exact .lookingUp
  | lookingUp =>
    match reply with
    | .error failure => exact .failed failure
    | .ok [] => exact .failed _
    | .ok (namespaceName :: others) => exact .remembering (hlookup namespaceName others rfl HEq.rfl)
  | remembering hholds => exact .resolved hholds

/-- A turn leaves an entry as it is, unless the resolution is of this very instance and writes what
it holds. -/
theorem find?_keep (h : Stage labelKey i Known (.ask (E := effects) r resume)) (reply : r.Reply)
    (memo : Table String String) (j : String) :
    (keep memo ⟨r, reply⟩).find? j = memo.find? j ∨
      i = j ∧ ∃ namespaceName, Known namespaceName ∧
        (keep memo ⟨r, reply⟩).find? j = some namespaceName := by
  cases h with
  | recalling => exact Or.inl rfl
  | lookingUp => exact Or.inl rfl
  | @remembering namespaceName hholds =>
    by_cases hj : j = i
    · exact Or.inr ⟨hj.symm, namespaceName, hholds, by simp [keep, Table.find?_put, hj]⟩
    · exact Or.inl (by simp [keep, Table.find?_put, hj])

end Stage

/-! ### What a turn keeps -/

/-- The namespace heads an answer that was given to a lookup for the instance. -/
def Heads (labelKey : String) (log : List (ι × Event effects)) (instanceId namespaceName : String) :
    Prop :=
  ∃ n others, (n, (⟨.lookup (selector labelKey instanceId), .ok (namespaceName :: others)⟩ :
    Event effects)) ∈ log

omit [DecidableEq ι] in
theorem Heads.append (h : Heads labelKey log i namespaceName) (more : List (ι × Event effects)) :
    Heads labelKey (log ++ more) i namespaceName := by
  obtain ⟨n, others, hmem⟩ := h
  exact ⟨n, others, List.mem_append_left _ hmem⟩

/-- All that is kept, and all that a resolution holds, heads an answer to a lookup for its instance.
-/
structure Sound (labelKey : String) (instances : ι → String) (log : List (ι × Event effects))
    (s : Racing ι) : Prop where
  entries {instanceId namespaceName : String} : s.memo.find? instanceId = some namespaceName →
    Heads labelKey log instanceId namespaceName
  stages (n : ι) : Stage labelKey (instances n) (Heads labelKey log (instances n)) (s.programs n)

omit [DecidableEq ι] in
theorem sound_start (labelKey : String) (instances : ι → String) :
    Sound labelKey instances [] (.start labelKey instances) where
  entries h := nomatch h
  stages n := by
    have hstart : (Racing.start labelKey instances).programs n = resolve labelKey (instances n) := rfl
    rw [hstart, resolve_eq]
    exact .recalling

namespace Sound

omit [DecidableEq ι] in
theorem stage (h : Sound labelKey instances log s)
    (hprogram : s.programs n = .ask (E := effects) r resume) :
    Stage labelKey (instances n) (Heads labelKey log (instances n)) (.ask (E := effects) r resume) :=
  hprogram ▸ h.stages n

/-- Every turn keeps it so that all that is held heads an answer. -/
theorem turn (h : Sound labelKey instances log s)
    (hprogram : s.programs n = .ask (E := effects) r resume) (htells : Tells s.memo ⟨r, reply⟩) :
    Sound labelKey instances (log ++ [(n, ⟨r, reply⟩)]) (s.turn n ⟨r, reply⟩ (resume reply)) where
  entries {i namespaceName} hfind := by
    -- The entry was there before, or the turn has written what the resolution held.
    rcases (h.stage hprogram).find?_keep reply s.memo i with
      hsame | ⟨rfl, written, hheads, hwritten⟩
    · exact (h.entries (hsame.symm.trans hfind)).append _
    · obtain rfl := Option.some.inj (hwritten.symm.trans hfind)
      exact hheads.append _
  stages m := by
    have hbefore := (h.stages m).mono fun _ hheads => hheads.append [(n, ⟨r, reply⟩)]
    by_cases hm : m = n
    · subst hm
      rw [hprogram] at hbefore
      have hafter : (s.turn m ⟨r, reply⟩ (resume reply)).programs m = resume reply :=
        Function.update_self _ _ _
      rw [hafter]
      refine hbefore.goesOn (fun namespaceName hrecall hreply => ?_)
        fun namespaceName others hlookup hreply => ?_
      · -- What is recalled was kept, and so heads an answer already.
        subst hrecall
        have hfind : s.memo.find? (instances m) = some namespaceName :=
          htells.symm.trans (eq_of_heq hreply)
        exact (h.entries hfind).append _
      · -- What has been looked up heads the answer of this very turn.
        subst hlookup
        obtain rfl := eq_of_heq hreply
        exact ⟨m, others, List.mem_append_right _ List.mem_cons_self⟩
    · have hafter : (s.turn n ⟨r, reply⟩ (resume reply)).programs m = s.programs m :=
        Function.update_of_ne hm _ _
      rw [hafter]
      exact hbefore

end Sound

/-! ### What a race keeps -/

/-- At every point of a race all that is held heads an answer. -/
theorem Race.sound (h : Race s more s') (hs : Sound labelKey instances log s) :
    Sound labelKey instances (log ++ more) s' := by
  induction h with
  | refl => rwa [List.append_nil]
  | turn n r reply _ hprogram htells ih =>
    rw [← List.append_assoc]
    exact ih.turn hprogram htells

/-- An entry stays as it is, unless a resolution of this very instance has had a turn; it then heads
an answer. -/
theorem Race.find?_cases (h : Race s more s') (hs : Sound labelKey instances log s) (i : String) :
    s'.memo.find? i = s.memo.find? i ∨ (∃ n e, (n, e) ∈ more ∧ instances n = i) ∧
      ∃ namespaceName, Heads labelKey (log ++ more) i namespaceName ∧
        s'.memo.find? i = some namespaceName := by
  induction h with
  | refl => exact Or.inl rfl
  | @turn s' more n r reply resume hrace hprogram htells ih =>
    have hstage := (hrace.sound hs).stage hprogram
    rcases hstage.find?_keep reply s'.memo i with
      hsame | ⟨hi, written, hheads, hwritten⟩
    · -- This turn leaves the entry alone, so it is what the turns before have made of it.
      rcases ih with hbefore | ⟨⟨m, e, hmem, hm⟩, namespaceName, hheads, hfind⟩
      · exact Or.inl (hsame.trans hbefore)
      · refine Or.inr ⟨⟨m, e, List.mem_append_left _ hmem, hm⟩, namespaceName, ?_,
          hsame.trans hfind⟩
        rw [← List.append_assoc]
        exact hheads.append _
    · refine Or.inr ⟨⟨n, _, List.mem_append_right _ List.mem_cons_self, hi⟩, written, ?_, hwritten⟩
      rw [← List.append_assoc, ← hi]
      exact hheads.append _

omit [DecidableEq ι] in
/-- What a finished resolution has returned heads an answer. -/
theorem Sound.heads_of_resolved (h : Sound labelKey instances log s)
    (hdone : s.programs n = .done (.ok namespaceName)) :
    Heads labelKey log (instances n) namespaceName := by
  have hstage := h.stages n
  rw [hdone] at hstage
  cases hstage with
  | resolved hheads => exact hheads

/-- However any number of resolutions take turns, and whatever answers their lookups get, the
following holds of each instance `i` at every point of the race. Its entry heads an answer that was
given to a lookup for `i`, so without such an answer there is none. From then on the entry is never
removed, and only resolutions of `i` can change it. Where all answers that find something agree on
what they find first, it is never changed once it is written, and all resolutions of `i` that
succeed return the same. -/
theorem races_are_harmless (labelKey : String) (instances : ι → String)
    (hlog : Race (.start labelKey instances) log s) (hmore : Race s more s') (i : String) :
    (∀ namespaceName, s.memo.find? i = some namespaceName →
      Heads labelKey log i namespaceName) ∧
    ((∀ n answer, (n, (⟨.lookup (selector labelKey i), answer⟩ : Event effects)) ∈ log →
      answer = .ok [] ∨ ∃ failure, answer = .error failure) → s.memo.find? i = none) ∧
    ((s.memo.find? i).isSome → (s'.memo.find? i).isSome) ∧
    ((∀ n e, (n, e) ∈ more → instances n ≠ i) → s'.memo.find? i = s.memo.find? i) ∧
    ((∀ a b, Heads labelKey (log ++ more) i a → Heads labelKey (log ++ more) i b → a = b) →
      (∀ namespaceName, s.memo.find? i = some namespaceName →
        s'.memo.find? i = some namespaceName) ∧
      ∀ m n a b, instances m = i → instances n = i → s'.programs m = .done (.ok a) →
        s'.programs n = .done (.ok b) → a = b) := by
  have hsound : Sound labelKey instances log s := hlog.sound (sound_start labelKey instances)
  have hsound' : Sound labelKey instances (log ++ more) s' := hmore.sound hsound
  have hentry := hmore.find?_cases hsound i
  refine ⟨fun _ => hsound.entries, fun hnone => ?_, fun hsome => ?_, fun hothers => ?_,
    fun hagree => ⟨fun namespaceName hfind => ?_, fun m n a b hm hn ha hb => ?_⟩⟩
  · -- An entry would head an answer that is neither empty nor a failure.
    by_contra hfind
    obtain ⟨namespaceName, hfind⟩ := Option.ne_none_iff_exists'.mp hfind
    obtain ⟨n, others, hmem⟩ := hsound.entries hfind
    rcases hnone n _ hmem with hempty | ⟨failure, hfailure⟩
    · cases hempty
    · cases hfailure
  · rcases hentry with hsame | ⟨-, namespaceName, -, hfind⟩
    · rwa [hsame]
    · simp [hfind]
  · rcases hentry with hsame | ⟨⟨n, e, hmem, hn⟩, -⟩
    · exact hsame
    · exact absurd hn (hothers n e hmem)
  · rcases hentry with hsame | ⟨-, written, hheads, hwritten⟩
    · exact hsame.trans hfind
    · -- A late write puts back what was there, since both head an answer.
      have hfirst : written = namespaceName :=
        hagree _ _ hheads ((hsound.entries hfind).append more)
      rw [hwritten, hfirst]
  · subst hm
    have hb' : Heads labelKey (log ++ more) (instances m) b :=
      hn ▸ hsound'.heads_of_resolved hb
    exact hagree a b (hsound'.heads_of_resolved ha) hb'

namespace Racing

/-- Any number of resolutions of one instance. -/
def trial : Racing Nat := start "key" fun _ => "i"

/-- The first two have missed the entry, the first one has got an answer and written it, and the
third one has recalled it. -/
def trialAhead : Racing Nat :=
  ((((trial.turn 0 ⟨.recall "i", none⟩ (afterRecall "key" "i" none)).turn
    1 ⟨.recall "i", none⟩ (afterRecall "key" "i" none)).turn
    0 ⟨.lookup "key=i", .ok ["a", "b"]⟩ (afterLookup "key" "i" (.ok ["a", "b"]))).turn
    0 ⟨.remember "i" "a", ()⟩ (.done (.ok "a"))).turn
    2 ⟨.recall "i", some "a"⟩ (.done (.ok "a"))

/-- The second one has written what it has got, too. -/
def trialLate : Racing Nat :=
  (trialAhead.turn 1 ⟨.lookup "key=i", .ok ["a"]⟩ (afterLookup "key" "i" (.ok ["a"]))).turn
    1 ⟨.remember "i" "a", ()⟩ (.done (.ok "a"))

end Racing

/-- A resolution that writes late, when another one has recalled the entry, is harmless. -/
theorem races_are_harmless_trial : ∃ log more, Race .trial log .trialAhead ∧
    Race .trialAhead more .trialLate ∧ Racing.trialAhead.memo.find? "i" = some "a" ∧
      Racing.trialLate.memo.find? "i" = some "a" ∧
        ∀ m n a b, Racing.trialLate.programs m = .done (.ok a) →
          Racing.trialLate.programs n = .done (.ok b) → a = b := by
  have hmissed := Race.turn 1 (.recall "i") none
    (Race.turn 0 (.recall "i") none (.refl (s := .trial)) (resolve_eq "key" "i") rfl)
    (resolve_eq "key" "i") rfl
  have hwritten := Race.turn 0 (.remember "i" "a") ()
    (hmissed.turn 0 (.lookup "key=i") (.ok ["a", "b"]) rfl trivial) rfl trivial
  have hlog : Race .trial _ .trialAhead :=
    hwritten.turn 2 (.recall "i") (some "a") (resolve_eq "key" "i") rfl
  have hmore : Race .trialAhead _ .trialLate :=
    ((Race.refl (s := .trialAhead)).turn 1 (.lookup "key=i") (.ok ["a"]) rfl trivial).turn
      1 (.remember "i" "a") () rfl trivial
  have h := (races_are_harmless "key" (fun _ => "i") hlog hmore "i").2.2.2.2 ?_
  · exact ⟨_, _, hlog, hmore, rfl, h.1 "a" rfl, fun m n a b => h.2 m n a b rfl rfl⟩
  · -- Both answers that find something find this first.
    rintro a b ⟨m, others, hm⟩ ⟨n, others', hn⟩
    simp [selector] at hm hn
    have ha : a = "a" := hm.elim (·.2.1) (·.2.1)
    have hb : b = "a" := hn.elim (·.2.1) (·.2.1)
    rw [ha, hb]

end ServiceBroker.Locator

import ServiceBroker.Executor.InMemory
import ServiceBroker.Proofs.Authentication.Verdict
import ServiceBroker.Proofs.Text.Split
import ServiceBroker.Server.Basic

/-!
# Only callers who may call reach the broker

A caller is looked at before anything else of a request to the broker. So whoever is refused learns
nothing about the broker and its instances: the answer is the same in every state of the server, and
whatever the IDs, the query and the body are.

## Main definitions

* `Server.Need.IsBroker`: what only a caller who is admitted may bring about
* `Server.IsForBroker`: a request that an endpoint of the broker answers to
* `Server.credentials?`: what a request says about its caller
* `Server.sent`: a response as it is sent, without a body if only the head is asked for

## Main results

* `Server.guarded_answer`: the broker is needed only for callers who are admitted
* `Server.answer_eq`: a request for the broker begins with the look at its caller
* `Server.unauthenticated_requests_stop`: what is kept from callers who are refused
-/

namespace ServiceBroker

open Program

/-! ### Paths of the broker -/

namespace Route

variable {path : List Char} {route : Route} {segments : List String}

/-- A path is made of its segments. -/
theorem path_eq (h : (splitAt (· == '/') path).map String.ofList = segments) :
    path = ['/'].intercalate (segments.map String.toList) := by
  rw [← h, List.map_map]
  have hid : String.toList ∘ String.ofList = id := funext fun _ => String.toList_ofList
  rw [hid, List.map_id, intercalate_splitAt]

/-- A path with a segment after `/v2` starts with `/v2/`. -/
theorem prefix_intercalate (segment : String) (rest : List String) :
    "/v2/".toList <+: ['/'].intercalate (("" :: "v2" :: segment :: rest).map String.toList) := by
  simp only [List.map_cons, List.intercalate_cons_cons]
  exact ⟨_, rfl⟩

/-- The routes of the broker are those below `/v2/`. -/
theorem isGuarded_iff (h : ofPath? path = some route) :
    route.isGuarded ↔ "/v2/".toList <+: path := by
  generalize hsegments : (splitAt (· == '/') path).map String.ofList = segments
  rw [ofPath?, hsegments] at h
  rw [path_eq hsegments]
  have hbelow := prefix_intercalate
  -- The table lists the four routes below `/v2/` first, then the two that are open to anyone.
  unfold ofSegments? at h
  split at h
  · cases h
    exact iff_of_true rfl (hbelow ..)
  · split at h <;> cases h
    exact iff_of_true rfl (hbelow ..)
  · cases h
    exact iff_of_true rfl (hbelow ..)
  · split at h <;> cases h
    exact iff_of_true rfl (hbelow ..)
  · cases h
    exact iff_of_false nofun (by decide)
  · cases h
    exact iff_of_false nofun (by decide)
  · cases h

end Route

namespace Server

variable {s : Server} {r : Http.Request} {trace checked : List (Event effects)} {v : Verdict}
  {failure : Failure} {caller : String} {σ : Type} {e : Executor σ}
  {validate : String → Except Failure String} {state state' : State σ}

/-! ### Callers -/

/-- What a request says about its caller. -/
def credentials? (r : Http.Request) : Option (List Char) :=
  (r.header? "authorization").bind Header.visible?

/-- Every caller is admitted or refused. -/
theorem admitted_or_refused (h : Run (s.authenticate r) checked v) :
    (∃ caller, v = .admitted caller) ∨ ∃ failure, v = .refused failure := by
  have hheader : ∀ value ∈ credentials? r, ∀ c ∈ value, c.toNat < 128 := by
    intro value hvalue
    obtain ⟨bytes, -, hvisible⟩ := Option.bind_eq_some_iff.mp hvalue
    exact Header.ascii_of_visible? hvisible
  obtain ⟨trace, hrun, -⟩ := run_substitute_iff.mp h
  cases v with
  | admitted caller => exact .inl ⟨caller, rfl⟩
  | refused failure => exact .inr ⟨failure, rfl⟩
  | crashed => exact absurd rfl (Policy.ne_crashed_of_run hheader hrun)

/-- The verdict that a server comes to is that of its policy, and its state is not touched. -/
theorem eq_verdict_of_served (h : Run (s.authenticate r) checked v)
    (hserved : Served (sequential e validate) state checked state') :
    v = s.policy.verdict validate (credentials? r) ∧ state' = state := by
  unfold authenticate at h
  unfold Policy.verdict credentials?
  generalize s.policy.authenticate _ = p at h
  induction p generalizing checked with
  | done v' =>
    obtain ⟨rfl, rfl⟩ := run_done_iff.mp h
    cases hserved
    exact ⟨rfl, rfl⟩
  | ask request k ih =>
    change Run (.ask (E := effects) (.validate request) fun reply => (k reply).substitute _) _ _ at h
    obtain ⟨reply, rest, rfl, hk⟩ := run_ask_iff.mp h
    cases hserved with
    | cons _ hserved => exact ih _ hserved hk

/-! ### What the broker is needed for -/

/-- The need is one of the broker: a verb takes a step, or is counted. -/
def Need.IsBroker : Need → Prop
  | .step _ | .record .. => True
  | .validate _ | .readMetrics => False

/-- The broker is needed only once the caller has been admitted. -/
def NeedsAdmission (s : Server) (r : Http.Request) (past : List (Event effects)) (need : Need) :
    Prop :=
  need.IsBroker → ∃ checked rest caller, past = checked ++ rest ∧
    Run (s.authenticate r) checked (.admitted caller)

theorem guarded_of_admitted {α : Type} (h : Run (s.authenticate r) checked (.admitted caller))
    (rest : List (Event effects)) (p : Program effects α) :
    Guarded (E := effects) (NeedsAdmission s r) (checked ++ rest) p := by
  induction p generalizing rest with
  | done a => trivial
  | ask need k ih =>
    refine ⟨fun _ => ⟨checked, rest, caller, rfl, h⟩, fun reply => ?_⟩
    rw [List.append_assoc]
    exact ih reply _

theorem guarded_authenticate {past : List (Event effects)} :
    Guarded (E := effects) (NeedsAdmission s r) past (s.authenticate r) := by
  unfold authenticate
  generalize s.policy.authenticate _ = p
  induction p generalizing past with
  | done v => trivial
  | ask request k ih => exact ⟨nofun, fun reply => ih reply⟩

theorem guarded_guarded (p : Program effects Http.Response) :
    Guarded (E := effects) (NeedsAdmission s r) [] (s.guarded r p) := by
  refine guarded_authenticate.bind fun checked v h => ?_
  cases v with
  | admitted caller => simpa using guarded_of_admitted h [] p
  | refused failure => trivial
  | crashed => trivial

/-- Two routes are open to anyone, and neither has to do with a verb. -/
theorem guarded_answerAt_of_open {route : Route} {endpoint : Endpoint}
    (hopen : ¬ route.isGuarded) (hendpoint : route.endpoint? r.method = some endpoint) :
    Guarded (E := effects) (NeedsAdmission s r) [] (s.answerAt r endpoint) := by
  cases route with
  | health =>
    obtain ⟨-, rfl⟩ : Route.isReading r.method ∧ Endpoint.health = endpoint := by
      simpa [Route.endpoint?] using hendpoint
    trivial
  | metrics =>
    obtain ⟨-, rfl⟩ : Route.isReading r.method ∧ Endpoint.metrics = endpoint := by
      simpa [Route.endpoint?] using hendpoint
    exact ⟨nofun, fun counters => trivial⟩
  | catalog | «instance» _ | lastOperation _ | binding _ _ => exact absurd rfl hopen

theorem guarded_answerOn (route : Route) :
    Guarded (E := effects) (NeedsAdmission s r) [] (s.answerOn r route) := by
  unfold answerOn
  cases hendpoint : route.endpoint? r.method with
  | some endpoint =>
    dsimp only
    split
    · exact guarded_guarded _
    · next hopen => exact guarded_answerAt_of_open hopen hendpoint
  | none =>
    -- The caller is looked at here too, before it is told that the method is not allowed.
    dsimp only
    refine Guarded.bind ?_ fun _ _ _ => trivial
    split
    · exact guarded_guarded _
    · trivial

/-- The broker is needed only for callers who are admitted. -/
theorem guarded_answer : Guarded (E := effects) (NeedsAdmission s r) [] (s.answer r) := by
  unfold answer
  split
  · trivial
  · split
    · exact (guarded_answerOn _).bind fun _ _ _ => trivial
    · exact guarded_answerOn _

/-! ### Requests for the broker -/

/-- An endpoint of the broker answers to the path and the method of the request. -/
def IsForBroker (r : Http.Request) : Prop :=
  ∃ route endpoint, Route.ofPath? r.target.path = some route ∧
    route.endpoint? r.method = some endpoint ∧ "/v2/".toList <+: r.target.path

/-- A response as it is sent: whoever asks for the head alone gets no body. -/
def sent (r : Http.Request) (response : Http.Response) : Http.Response :=
  if r.method = "HEAD" then response.headOnly else response

/-- A request on a guarded route begins with the look at its caller, and goes on with its endpoint. -/
theorem answer_eq_bind {route : Route} {endpoint : Endpoint} (hroute : s.route? r = some route)
    (hendpoint : route.endpoint? r.method = some endpoint) (hguarded : route.isGuarded) :
    s.answer r = s.authenticate r >>= fun
      | .admitted _ => do return sent r (← s.answerAt r endpoint)
      | .refused failure => .done (sent r (refusal failure))
      | .crashed => .done (sent r (.bare 500)) := by
  have hon : s.answerOn r route = s.guarded r (s.answerAt r endpoint) := by
    unfold answerOn
    rw [hendpoint]
    dsimp only
    rw [if_pos hguarded]
  unfold answer sent
  rw [hroute]
  dsimp only
  rw [hon]
  unfold guarded
  split
  · rw [bind_assoc]
    refine congrArg (s.authenticate r >>= ·) (funext fun v => ?_)
    cases v <;> rfl
  · refine congrArg (s.authenticate r >>= ·) (funext fun v => ?_)
    cases v with
    | admitted caller => exact (bind_done _).symm
    | refused failure => rfl
    | crashed => rfl

/-- A request for the broker begins with the look at its caller. -/
theorem answer_eq (h : IsForBroker r) :
    ∃ p, s.answer r = s.authenticate r >>= fun
      | .admitted _ => p
      | .refused failure => .done (sent r (refusal failure))
      | .crashed => .done (sent r (.bare 500)) := by
  obtain ⟨route, endpoint, hroute, hendpoint, hpath⟩ := h
  have hguarded : route.isGuarded := (Route.isGuarded_iff hroute).mpr hpath
  -- Only the route to the metrics can be switched off, and it is not one of the broker.
  have hfound : s.route? r = some route := by
    have hother : route ≠ .metrics := fun h => by rw [h] at hguarded; cases hguarded
    rw [route?, hroute, Option.filter_some, if_pos]
    exact Bool.or_eq_true_iff.mpr (.inl (decide_eq_true hother))
  refine ⟨do return sent r (← s.answerAt r endpoint), ?_⟩
  rw [answer_eq_bind hfound hendpoint hguarded]

/-- What is left of a request once its caller has been refused. -/
theorem run_answer_iff_of_refused (hbroker : IsForBroker r)
    (h : Run (s.authenticate r) checked (.refused failure)) {more : List (Event effects)}
    {response : Http.Response} :
    Run (s.answer r) (checked ++ more) response ↔
      more = [] ∧ response = sent r (refusal failure) := by
  obtain ⟨p, hp⟩ := answer_eq (s := s) hbroker
  rw [hp, run_bind_append_iff h, run_done_iff]

/-! ### What is served -/

/-- Serving a request is a run of its answer. -/
theorem exists_run_of_serve (s : Server) (r : Http.Request) (e : Executor σ)
    (validate : String → Except Failure String) (state : State σ) :
    ∃ trace, Run (s.answer r) trace (s.serve e validate r state).1 ∧
      Served (sequential e validate) state trace (s.serve e validate r state).2 :=
  runIn_eq_iff.mp rfl

/-- Without the broker nothing of the state of a server changes. -/
theorem eq_of_served (hserved : Served (sequential e validate) state trace state')
    (h : ∀ event ∈ trace, ¬ event.request.IsBroker) : state' = state := by
  induction hserved with
  | nil state => rfl
  | cons need hserved ih =>
    rw [ih fun event hevent => h event (List.mem_cons_of_mem _ hevent)]
    have hneed := h _ List.mem_cons_self
    cases need with
    | validate v => rfl
    | readMetrics => rfl
    | step request => exact absurd trivial hneed
    | record verb outcome => exact absurd trivial hneed

/-- A caller who is refused leaves the state of a server as it is, whatever the request. -/
theorem serve_snd_of_refused
    (h : s.policy.verdict validate (credentials? r) = .refused failure) :
    (s.serve e validate r state).2 = state := by
  obtain ⟨trace, hrun, hserved⟩ := exists_run_of_serve s r e validate state
  refine eq_of_served hserved fun event hevent hneed => ?_
  -- Had the broker been needed, the very policy that refuses the caller would have admitted them.
  obtain ⟨before, after, rfl⟩ := List.append_of_mem hevent
  obtain ⟨checked, rest, caller, rfl, hadmitted⟩ :=
    guarded_answer.of_reaches (run_iff_reaches_done.mp hrun) hneed
  rw [List.append_assoc] at hserved
  obtain ⟨mid, hchecked, -⟩ := served_append_iff.mp hserved
  have hverdict := (eq_verdict_of_served hadmitted hchecked).1
  rw [h] at hverdict
  cases hverdict

/-- A request for the broker from a caller who is refused is answered with the refusal. -/
theorem serve_fst_of_refused (hbroker : IsForBroker r)
    (h : s.policy.verdict validate (credentials? r) = .refused failure) :
    (s.serve e validate r state).1 = sent r (refusal failure) := by
  obtain ⟨trace, hrun, hserved⟩ := exists_run_of_serve s r e validate state
  obtain ⟨p, hp⟩ := answer_eq (s := s) hbroker
  rw [hp, run_bind_iff] at hrun
  obtain ⟨checked, v, rest, rfl, hchecked, hrest⟩ := hrun
  obtain ⟨mid, hserved, -⟩ := served_append_iff.mp hserved
  obtain ⟨rfl, -⟩ := eq_verdict_of_served hchecked hserved
  rw [h] at hrest
  exact (run_done_iff.mp hrest).2

/-- Nothing of the broker is within reach of callers who are not admitted. A verb takes a step, or is
counted, only after the caller has been admitted. Every caller is admitted or refused, and the answer
to a request for the broker is over with the refusal. Served one at a time, a request from a caller
who is refused changes nothing, and one for the broker is answered with that very refusal, so that
another server with the same policy, in whatever state, answers the same to whatever path below
`/v2/`, query and body. -/
theorem unauthenticated_requests_stop (s : Server) (r : Http.Request) :
    (∀ before event after q, Reaches (s.answer r) (before ++ event :: after) q →
      event.request.IsBroker → ∃ checked rest caller, before = checked ++ rest ∧
        Run (s.authenticate r) checked (.admitted caller)) ∧
    (∀ checked v, Run (s.authenticate r) checked v →
      (∃ caller, v = .admitted caller) ∨ ∃ failure, v = .refused failure ∧
        (IsForBroker r → ∀ more response, Run (s.answer r) (checked ++ more) response ↔
          more = [] ∧ response = sent r (refusal failure))) ∧
    (∀ (σ : Type) (e : Executor σ) (validate : String → Except Failure String) (state : State σ)
      (failure : Failure), s.policy.verdict validate (credentials? r) = .refused failure →
      (s.serve e validate r state).2 = state ∧
      (IsForBroker r → (s.serve e validate r state).1 = sent r (refusal failure) ∧
        ∀ (σ' : Type) (s' : Server) (e' : Executor σ') (r' : Http.Request) (state' : State σ'),
          s'.policy = s.policy → IsForBroker r' → r'.method = r.method →
          credentials? r' = credentials? r →
          s'.serve e' validate r' state' = ((s.serve e validate r state).1, state'))) := by
  refine ⟨fun before event after q h => guarded_answer.of_reaches h, fun checked v h => ?_,
    fun σ e validate state failure h => ⟨serve_snd_of_refused h, fun hbroker => ?_⟩⟩
  · rcases admitted_or_refused h with hadmitted | ⟨failure, rfl⟩
    · exact .inl hadmitted
    · exact .inr ⟨failure, rfl, fun hbroker _ _ => run_answer_iff_of_refused hbroker h⟩
  · have hanswer : (s.serve e validate r state).1 = sent r (refusal failure) :=
      serve_fst_of_refused hbroker h
    refine ⟨hanswer, fun σ' s' e' r' state' hpolicy hbroker' hmethod hcredentials => ?_⟩
    have hrefused : s'.policy.verdict validate (credentials? r') = .refused failure := by
      rw [hpolicy, hcredentials, h]
    refine Prod.ext ?_ (serve_snd_of_refused hrefused)
    rw [serve_fst_of_refused hbroker' hrefused, hanswer, sent, sent, hmethod]

/-- A request to create an instance that gives no credentials, and is wrong in every other way. -/
def malformed : Http.Request where
  method := "PUT"
  target := .ofText "/v2/service_instances/%FF?accepts_incomplete=maybe".toList
  headers := []
  body := [0]

theorem isForBroker_malformed : IsForBroker malformed :=
  ⟨.instance "%FF".toList, .provision "%FF".toList, by decide +kernel, rfl, by decide +kernel⟩

/-- What is wrong with that request is not told without credentials. -/
theorem unauthenticated_requests_stop_malformed :
    (⟨⟨"svc", false⟩, .ofCredentials "admin" "secret", "mock", true⟩ : Server).serve
      InMemory.executor .ok malformed (.start .empty) =
      (refusal (.unauthorized "basic credentials required"), .start .empty) := by
  obtain ⟨-, -, hserved⟩ := unauthenticated_requests_stop
    ⟨⟨"svc", false⟩, .ofCredentials "admin" "secret", "mock", true⟩ malformed
  obtain ⟨hstate, hanswer⟩ := hserved InMemory InMemory.executor .ok (.start .empty)
    (.unauthorized "basic credentials required") rfl
  exact Prod.ext (hanswer isForBroker_malformed).1 hstate

end Server

end ServiceBroker

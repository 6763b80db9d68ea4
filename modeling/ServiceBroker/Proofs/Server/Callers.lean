import ServiceBroker.Proofs.Authentication.Bearer
import ServiceBroker.Proofs.Server.Requests

/-!
# Any header is judged

The text of an authorization header is cut at fixed byte offsets, which is safe because only
headers of visible ASCII are looked at. Any other header counts for nothing, and whatever is sent,
the caller is either admitted or refused. A token is validated before anything else happens, and
only if the header carries one.

## Main definitions

* `Http.Request.anonymous`: a request without its authorization headers
* `Server.WithoutValidation`: a program that has no token validated
* `Server.OpensWith`: what a token that is validated has to be, and when

## Main results

* `Server.answer_anonymous`: a header that is not looked at counts as absent
* `Server.guarded_opensWith`: a token is validated before anything else, or not at all
* `Server.every_header_is_judged`: what may become of an authorization header
-/

namespace ServiceBroker

open Program

/-- The request without its authorization headers. -/
def Http.Request.anonymous (r : Http.Request) : Http.Request :=
  { r with
    headers := r.headers.filter fun h => h.1.toList.map Char.toLower != "authorization".toList }

/-- The bytes that no header may hold that is looked at. -/
theorem Header.visible?_eq_none {bytes : List UInt8} {b : UInt8} (hb : b ∈ bytes) (htab : b ≠ 9)
    (hbeyond : b < 32 ∨ 127 ≤ b) : Header.visible? bytes = none := by
  have hinvisible : ¬ Header.isVisible b := by
    simp only [Header.isVisible, Bool.or_eq_true, Bool.and_eq_true, beq_iff_eq, decide_eq_true_eq]
    rintro (htab' | ⟨hlow, hhigh⟩)
    · exact htab htab'
    · rcases hbeyond with h | h
      · exact absurd hlow (UInt8.not_le.mpr h)
      · exact absurd hhigh (UInt8.not_lt.mpr h)
  exact if_neg fun hall => hinvisible (List.all_eq_true.mp hall b hb)

namespace Server

variable {s : Server} {r : Http.Request}

/-! ### Headers that are looked at -/

/-- What is looked at of a request is in ASCII. -/
theorem ascii_of_credentials? (r : Http.Request) :
    ∀ value ∈ credentials? r, ∀ c ∈ value, c.toNat < 128 := by
  intro value hvalue
  obtain ⟨bytes, -, hvisible⟩ := Option.bind_eq_some_iff.mp hvalue
  exact Header.ascii_of_visible? hvisible

theorem credentials?_anonymous (r : Http.Request) : credentials? r.anonymous = none := by
  have hgone : r.anonymous.headers.find?
      (fun h => h.1.toList.map Char.toLower == "authorization".toList) = none := by
    rw [List.find?_eq_none]
    intro h hmem hname
    have hkept := (List.mem_filter.mp hmem).2
    rw [bne, hname] at hkept
    cases hkept
  rw [credentials?, Http.Request.header?, hgone]
  rfl

/-- Apart from its caller the answer to a request does not depend on its headers. -/
theorem answer_congr {headers : List (String × List UInt8)}
    (h : credentials? { r with headers } = credentials? r) :
    s.answer { r with headers } = s.answer r := by
  have hcaller : s.authenticate { r with headers } = s.authenticate r := by
    unfold credentials? at h
    rw [authenticate, authenticate, h]
  have hat (endpoint : Endpoint) :
      s.answerAt { r with headers } endpoint = s.answerAt r endpoint := by
    cases endpoint <;> rfl
  have hguarded (p : Program effects Http.Response) :
      s.guarded { r with headers } p = s.guarded r p := by
    rw [guarded, guarded, hcaller]
  have hon (route : Route) : s.answerOn { r with headers } route = s.answerOn r route := by
    unfold answerOn
    simp only [hat, hguarded]
  have hroute : s.route? { r with headers } = s.route? r := rfl
  unfold answer
  simp only [hroute, hon]

/-- A header that is not looked at counts as absent. -/
theorem answer_anonymous (h : credentials? r = none) : s.answer r = s.answer r.anonymous := by
  refine (answer_congr ?_).symm
  rw [h]
  exact credentials?_anonymous r

/-! ### What is validated -/

/-- The need is that of a token to be validated. -/
def Need.IsValidation : Need → Prop
  | .validate _ => True
  | .step _ | .record .. | .readMetrics => False

/-- The program has no token validated. -/
def WithoutValidation {α : Type} (p : Program effects α) : Prop :=
  Always (E := effects) (fun need _ => ¬ Need.IsValidation need) p

theorem withoutValidation_runVerb {α : Type} (verb : Broker.Verb)
    (p : Program Broker.effects (Except Failure α)) (respond : α → Http.Response) :
    WithoutValidation (runVerb verb p respond) := by
  unfold runVerb
  refine Always.bind (E := effects) (Q := fun need => ¬ Need.IsValidation need) ?_ ?_
  · induction p with
    | done result => trivial
    | ask request k ih => exact ⟨id, ih⟩
  · intro result
    refine ⟨id, fun reply => ?_⟩
    cases result with
    | ok a => trivial
    | error failure => trivial

/-- No endpoint has a token validated. -/
theorem withoutValidation_answerAt (endpoint : Endpoint) :
    WithoutValidation (s.answerAt r endpoint) := by
  rcases answerAt_cases s r endpoint with rfl | ⟨call, hreads⟩ | ⟨response, hdone⟩
  · exact ⟨id, fun counters => trivial⟩
  · obtain ⟨α, p, f, hanswer, -⟩ := exists_answerAt_eq hreads s
    rw [hanswer]
    exact withoutValidation_runVerb call.verb p _
  · rw [hdone]
    trivial

/-- A token is validated only as the very first thing, under the token policy, and it is the one
that the header carries. -/
def OpensWith (s : Server) (r : Http.Request) (past : List (Event effects)) : Need → Prop
  | .validate v => past = [] ∧ s.policy = .token ∧
      ∃ value, credentials? r = some value ∧ Header.Bears value v.token.toList
  | .step _ | .record .. | .readMetrics => True

theorem WithoutValidation.guarded {α : Type} {p : Program effects α} (h : WithoutValidation p)
    (past : List (Event effects)) : Guarded (E := effects) (OpensWith s r) past p := by
  refine Guarded.mono (E := effects) (Always.guarded h past) ?_
  intro more need hneed
  cases need with
  | validate v => exact absurd trivial hneed
  | step _ | record _ _ | readMetrics => trivial

theorem guarded_opensWith_authenticate :
    Guarded (E := effects) (OpensWith s r) [] (s.authenticate r) := by
  have hpolicy : Guarded _ [] (s.policy.authenticate (credentials? r)) :=
    Policy.guarded_authenticate (ascii_of_credentials? r)
  change Guarded (E := effects) (OpensWith s r) []
    ((s.policy.authenticate (credentials? r)).substitute _)
  generalize s.policy.authenticate (credentials? r) = p at hpolicy
  cases p with
  | done v => trivial
  | ask request k =>
    obtain ⟨⟨-, htoken, hbears⟩, hrest⟩ := hpolicy
    refine ⟨⟨rfl, htoken, hbears⟩, fun reply => ?_⟩
    -- Whatever is asked has to come first, so nothing follows.
    have hafter := hrest reply
    change Guarded (E := effects) (OpensWith s r) _ ((k reply).substitute _)
    generalize k reply = p at hafter
    cases p with
    | done v => trivial
    | ask request' k' => cases hafter.1.1

/-- A token is validated before anything else, or not at all. -/
theorem guarded_opensWith : Guarded (E := effects) (OpensWith s r) [] (s.answer r) := by
  have hguarded {p : Program effects Http.Response} (hp : WithoutValidation p) :
      Guarded (E := effects) (OpensWith s r) [] (s.guarded r p) := by
    refine guarded_opensWith_authenticate.bind fun checked v _ => ?_
    cases v with
    | admitted caller => exact hp.guarded _
    | refused failure => trivial
    | crashed => trivial
  have hon (route : Route) : Guarded (E := effects) (OpensWith s r) [] (s.answerOn r route) := by
    unfold answerOn
    cases route.endpoint? r.method with
    | some endpoint =>
      have hat : WithoutValidation (s.answerAt r endpoint) := withoutValidation_answerAt endpoint
      dsimp only
      split
      · exact hguarded hat
      · exact hat.guarded []
    | none =>
      dsimp only
      refine Guarded.bind ?_ fun _ _ _ => trivial
      split
      · exact hguarded trivial
      · trivial
  unfold answer
  split
  · trivial
  · split
    · exact (hon _).bind fun _ _ _ => trivial
    · exact hon _

/-- No authorization header brings the server down. A header that is looked at can be cut at every
byte offset within it, and so after its scheme; whatever the header is, the caller is admitted or
refused. One with a byte beyond visible ASCII, space and tab counts as absent: the answer is that to
the same request without it. A token is validated only under the token policy, only once and before
anything else, and it is the one that the header carries: not empty, and without white space at its
ends. -/
theorem every_header_is_judged (s : Server) (r : Http.Request) :
    (∀ value, credentials? r = some value →
      Header.basic value ≠ .uncuttable ∧ Header.bearer value ≠ .uncuttable ∧
      ∀ n ≤ (Utf8.encode value).length, ∃ front back, value = front ++ back ∧
        (Utf8.encode front).length = n ∧ Header.splitBytes? n value = some (front, back)) ∧
    (∀ checked v, Run (s.authenticate r) checked v →
      (∃ caller, v = .admitted caller) ∨ ∃ failure, v = .refused failure) ∧
    (∀ validate, (∃ caller, s.policy.verdict validate (credentials? r) = .admitted caller) ∨
      ∃ failure, s.policy.verdict validate (credentials? r) = .refused failure) ∧
    (∀ bytes, r.header? "authorization" = some bytes →
      ∀ b ∈ bytes, b ≠ 9 → (b < 32 ∨ 127 ≤ b) → s.answer r = s.answer r.anonymous) ∧
    (∀ before v reply after q,
      Reaches (s.answer r) (before ++ ⟨.validate v, reply⟩ :: after) q →
      before = [] ∧ s.policy = .token ∧ v.token ≠ "" ∧ Text.IsTrimmed v.token.toList ∧
        ∃ value, credentials? r = some value ∧ Header.Bears value v.token.toList) := by
  have hascii := ascii_of_credentials? r
  refine ⟨fun value hvalue => ?_, fun checked v => admitted_or_refused, fun validate => ?_,
    fun bytes hbytes b hb htab hbeyond => ?_, fun before v reply after q hreaches => ?_⟩
  · have hvalue := hascii value hvalue
    exact ⟨Header.basic_ne_uncuttable hvalue, Header.bearer_ne_uncuttable hvalue,
      fun n hn => Header.exists_splitBytes?_of_ascii hvalue hn⟩
  · obtain ⟨trace, hrun⟩ := Policy.exists_run_verdict s.policy validate (credentials? r)
    have hnot := Policy.ne_crashed_of_run hascii hrun
    cases hverdict : s.policy.verdict validate (credentials? r) with
    | admitted caller => exact .inl ⟨caller, rfl⟩
    | refused failure => exact .inr ⟨failure, rfl⟩
    | crashed => exact absurd hverdict hnot
  · apply answer_anonymous
    rw [credentials?, hbytes]
    exact Header.visible?_eq_none hb htab hbeyond
  · obtain ⟨hfirst, htoken, value, hvalue, hbears⟩ := guarded_opensWith.of_reaches hreaches
    refine ⟨hfirst, htoken, ?_, hbears.isTrimmed, value, hvalue, hbears⟩
    intro hempty
    exact hbears.ne_nil (congrArg String.toList hempty)

/-- A request for the catalog with an authorization header. -/
def catalogRequest (authorization : List UInt8) : Http.Request where
  method := "GET"
  target := .ofText "/v2/catalog".toList
  headers := [("Authorization", authorization)]
  body := []

/-- After a scheme without its space a letter of two bytes leaves nothing to be looked at, and white
space around a token is not validated with it. -/
theorem every_header_is_judged_umlaut :
    let s : Server := ⟨⟨"svc", false⟩, .token, "mock", true⟩
    s.answer (catalogRequest (Utf8.bytes "Bearerü")) =
      s.answer (catalogRequest (Utf8.bytes "Bearerü")).anonymous ∧
    ∃ resume, s.answer (catalogRequest (Utf8.bytes "bEARER  word \t")) =
        .ask (.validate ⟨"word"⟩) resume ∧ Text.IsTrimmed "word".toList := by
  intro s
  have hjudged := every_header_is_judged s
  refine ⟨(hjudged _).2.2.2.1 (Utf8.bytes "Bearerü") rfl 0xC3 (by decide) (by decide)
    (by decide), _, rfl, ?_⟩
  have hreaches : ∃ q, Reaches (s.answer (catalogRequest (Utf8.bytes "bEARER  word \t")))
      ([] ++ ⟨.validate ⟨"word"⟩, .ok "alice"⟩ :: []) q := ⟨_, .ask _ _ _ (.refl _)⟩
  obtain ⟨q, hreaches⟩ := hreaches
  obtain ⟨-, -, -, htrimmed, -⟩ := (hjudged _).2.2.2.2 _ _ _ _ q hreaches
  exact htrimmed

end Server

end ServiceBroker

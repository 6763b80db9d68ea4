import ServiceBroker.Executor.Remote
import ServiceBroker.Proofs.Program.Runs

/-!
# Accepted answers and posted requests

An answer counts only if it is a success by its status, can be read, and says itself that it is a
success. Calls of operations may overlap, so what they post is watched in a log that tells for every
event which call it belongs to.

## Main definitions

* `Remote.Accepted`: what makes an answer count
* `Remote.accept`: the results of an answer, or why it does not count
* `Remote.posts`: the requests to the API among the events of a call
* `Remote.IsLog`: the logs of calls that overlap in any way

## Main results

* `Remote.call_eq`: a call is one request and the results of its answer
* `Remote.accept_eq_ok_iff`: there are results exactly for accepted answers
* `Remote.posts_of_reaches_resolve`: nothing is posted while a namespace is looked for
-/

namespace ServiceBroker.Remote

open Program

variable {α : Type} {remote : Remote} {item : Json.Reader α} {answer : Delivery}

/-- The answer counts, and `contents` are its results: its status is a success, its body can be
read, and the status code in the body is `ok`. -/
def Accepted (item : Json.Reader α) (answer : Delivery) (contents : List α) : Prop :=
  ∃ status body envelope, answer = .answered status body ∧ 200 ≤ status ∧ status < 300 ∧
    (Cluster.Envelope.reader item).fromText body = .ok envelope ∧
    envelope.status.code = "ok" ∧ envelope.contents = contents

theorem Accepted.unique {contents contents' : List α} (h : Accepted item answer contents)
    (h' : Accepted item answer contents') : contents = contents' := by
  obtain ⟨status, body, envelope, rfl, -, -, hread, -, rfl⟩ := h
  obtain ⟨_, _, _, hanswer, -, -, hread', -, rfl⟩ := h'
  cases hanswer
  rw [hread] at hread'
  cases hread'
  rfl

/-- The results of an answer, or why it does not count. -/
def accept (remote : Remote) (m : Cluster.Message) (item : Json.Reader α) (answer : Delivery) :
    Except Executor.Failure (List α) :=
  match remote.receive m.endpoint item answer with
  | .error failure => .error failure
  | .ok envelope => envelope.results m.endpoint.activity

/-- A call is one request and the results of its answer. -/
theorem call_eq (m : Cluster.Message) :
    remote.call m item = .ask (E := effects) (.post m) fun answer =>
      .done (remote.accept m item answer) := by
  refine congrArg (Program.ask (E := effects) (.post m)) (funext fun answer => ?_)
  -- Both sides decide on the same reception, one of them inside the program.
  unfold accept
  change (match remote.receive m.endpoint item answer with
    | .error failure => Program.done (E := effects) (Except.error failure)
    | .ok envelope => .done (envelope.results m.endpoint.activity)) = _
  cases remote.receive m.endpoint item answer <;> rfl

/-- What follows a call goes on with the results of its answer. -/
theorem call_bind {β : Type} (m : Cluster.Message)
    (f : Except Executor.Failure (List α) → Program effects β) :
    remote.call m item >>= f = .ask (E := effects) (.post m) fun answer =>
      f (remote.accept m item answer) := by
  rw [call_eq]
  rfl

/-- An answer can be received exactly if its status is a success and its body can be read. -/
theorem receive_eq_ok_iff {endpoint : Cluster.Endpoint} {envelope : Cluster.Envelope α} :
    remote.receive endpoint item answer = .ok envelope ↔
      ∃ status body, answer = .answered status body ∧ 200 ≤ status ∧ status < 300 ∧
        (Cluster.Envelope.reader item).fromText body = .ok envelope := by
  cases answer with
  | dropped =>
    constructor
    · intro h
      cases h
    · rintro ⟨_, _, h, _⟩
      cases h
  | answered status body =>
    constructor
    · intro h
      simp only [receive] at h
      split at h
      · cases h
      · split at h
        · cases h
        · next hsuccess =>
          simp only [Http.isSuccess, Bool.not_eq_true', Bool.not_eq_false, Bool.and_eq_true,
            decide_eq_true_eq] at hsuccess
          cases hread : (Cluster.Envelope.reader item).fromText body with
          | error failure =>
            rw [hread] at h
            cases h
          | ok read =>
            rw [hread] at h
            cases h
            exact ⟨status, body, rfl, hsuccess.1, hsuccess.2, hread⟩
    · rintro ⟨_, _, h, hlow, hhigh, hread⟩
      cases h
      -- A missing authorisation is looked at first and is no success, so it is not in the way.
      have hne : status ≠ 401 := by omega
      simp [receive, Http.isSuccess, hne, hlow, hhigh, hread]

/-- There are results exactly for accepted answers. -/
theorem accept_eq_ok_iff {m : Cluster.Message} {contents : List α} :
    remote.accept m item answer = .ok contents ↔ Accepted item answer contents := by
  unfold accept
  constructor
  · intro h
    split at h
    · cases h
    · next envelope hreceive =>
      obtain ⟨status, body, hanswer, hlow, hhigh, hread⟩ := receive_eq_ok_iff.mp hreceive
      unfold Cluster.Envelope.results at h
      split at h
      · next hok =>
        cases h
        exact ⟨status, body, envelope, hanswer, hlow, hhigh, hread, beq_iff_eq.mp hok, rfl⟩
      · cases h
  · rintro ⟨status, body, envelope, hanswer, hlow, hhigh, hread, hcode, rfl⟩
    have hreceive : remote.receive m.endpoint item answer = .ok envelope :=
      receive_eq_ok_iff.mpr ⟨status, body, hanswer, hlow, hhigh, hread⟩
    rw [hreceive]
    exact if_pos (beq_iff_eq.mpr hcode)

/-! ### What is posted -/

/-- The requests to the API among the events of a call, with their answers. -/
def posts : List (Event effects) → List (Cluster.Message × Delivery)
  | [] => []
  | ⟨.post m, answer⟩ :: trace => (m, answer) :: posts trace
  | ⟨.locate _, _⟩ :: trace => posts trace

@[simp] theorem posts_append (trace trace' : List (Event effects)) :
    posts (trace ++ trace') = posts trace ++ posts trace' := by
  induction trace with
  | nil => rfl
  | cons e trace ih =>
    match e with
    | ⟨.post m, answer⟩ => exact congrArg ((m, answer) :: ·) ih
    | ⟨.locate r, reply⟩ => exact ih

@[simp] theorem posts_post (m : Cluster.Message) (answer : Delivery)
    (trace : List (Event effects)) :
    posts (⟨.post m, answer⟩ :: trace) = (m, answer) :: posts trace := rfl

/-- Where a posted request stands among the events. -/
theorem exists_append_of_mem_posts {m : Cluster.Message} {trace : List (Event effects)}
    (h : (m, answer) ∈ posts trace) : ∃ before after, trace = before ++ ⟨.post m, answer⟩ :: after := by
  induction trace with
  | nil => cases h
  | cons e trace ih =>
    match e, h with
    | ⟨.post _, _⟩, .head _ => exact ⟨[], trace, rfl⟩
    | ⟨.post m', answer'⟩, .tail _ h =>
      obtain ⟨before, after, rfl⟩ := ih h
      exact ⟨⟨.post m', answer'⟩ :: before, after, rfl⟩
    | ⟨.locate r, reply⟩, h =>
      obtain ⟨before, after, rfl⟩ := ih h
      exact ⟨⟨.locate r, reply⟩ :: before, after, rfl⟩

/-- A program whose every request is a step towards a namespace posts nothing. -/
theorem posts_of_reaches_substitute {β : Type} (p : Program Locator.effects β)
    {trace : List (Event effects)} {q : Program effects β}
    (h : Reaches (p.substitute fun r => .ask (E := effects) (.locate r) .done) trace q) :
    posts trace = [] := by
  induction p generalizing trace with
  | done b =>
    obtain ⟨rfl, -⟩ := reaches_done_iff.mp h
    rfl
  | ask r k ih =>
    change Reaches (.ask (E := effects) (.locate r) fun reply => (k reply).substitute _) trace q at h
    rcases reaches_ask_iff.mp h with ⟨rfl, -⟩ | ⟨reply, rest, rfl, hrest⟩
    · rfl
    · have hnone : posts rest = [] := ih reply hrest
      exact hnone

/-- Nothing is posted while a namespace is looked for. -/
theorem posts_of_reaches_resolve {instanceId : String} {trace : List (Event effects)}
    {q : Program effects (Except Executor.Failure String)}
    (h : Reaches (remote.resolve instanceId) trace q) : posts trace = [] :=
  posts_of_reaches_substitute _ h

/-- While a namespace is looked for every request is allowed if all steps towards one are. -/
theorem guarded_resolve {instanceId : String} {past : List (Event effects)}
    {allowed : List (Event effects) → Request → Prop}
    (h : ∀ past r, allowed past (.locate r)) :
    Guarded (E := effects) allowed past (remote.resolve instanceId) := by
  unfold resolve
  -- The steps a locator takes do not matter, only that they are its own.
  generalize Locator.resolve remote.labelKey instanceId = p
  induction p generalizing past with
  | done b => trivial
  | ask r k ih => exact ⟨h past r, fun reply => ih reply⟩

/-- What holds wherever a request is posted holds of a program that starts with a search for a
namespace if it holds of what comes after that. -/
theorem always_resolve_bind {β : Type} {instanceId : String}
    {Q : (r : Request) → (r.Reply → Program effects β) → Prop} (h : ∀ r k, Q (.locate r) k)
    {f : Except Executor.Failure String → Program effects β}
    (hf : ∀ resolved, Always (E := effects) Q (f resolved)) :
    Always (E := effects) Q (remote.resolve instanceId >>= f) := by
  unfold resolve
  generalize Locator.resolve remote.labelKey instanceId = p
  induction p with
  | done resolved => exact hf resolved
  | ask r k ih => exact ⟨h r _, fun reply => ih reply⟩

/-- A post is allowed if its request is, and whatever follows what its answer means. -/
theorem guarded_post_bind {β : Type} {past : List (Event effects)} {m : Cluster.Message}
    {f : Except Executor.Failure (Cluster.Envelope α) → Program effects β}
    {allowed : List (Event effects) → Request → Prop} (hm : allowed past (.post m))
    (hf : ∀ past received, Guarded (E := effects) allowed past (f received)) :
    Guarded (E := effects) allowed past (remote.post m item >>= f) :=
  ⟨hm, fun _ => hf _ _⟩

/-- A call is allowed if its request is, and whatever follows its results. -/
theorem guarded_call_bind {β : Type} {past : List (Event effects)} {m : Cluster.Message}
    {f : Except Executor.Failure (List α) → Program effects β}
    {allowed : List (Event effects) → Request → Prop} (hm : allowed past (.post m))
    (hf : ∀ past accepted, Guarded (E := effects) allowed past (f accepted)) :
    Guarded (E := effects) allowed past (remote.call m item >>= f) := by
  rw [call_bind]
  exact ⟨hm, fun answer => hf _ _⟩

/-! ### Logs of overlapping calls -/

/-- Calls of operations, each with a number, can overlap in such a way that `log` comes about: the
events of every call are those of its operation in progress, whatever it was replied. -/
def IsLog (remote : Remote) (calls : Nat → Executor.Operation)
    (log : List (Nat × Event effects)) : Prop :=
  ∀ n, ∃ q, Reaches (remote.perform (calls n)) (eventsOf n log) q

/-! ### A connection to try statements on -/

/-- A connection with the default settings. -/
def trial : Remote where
  baseUrl := {
    scheme := .http
    username := []
    password := []
    host := some (.name "apiserver".toList)
    port := none
    path := ['/']
    query := none
    fragment := none }
  clientVersion := "4.0.1"
  username := "pgoadmin"
  password := "examplepassword"
  labelKey := "pgo-osb-instance"

/-- A successful answer with the given results. -/
def Delivery.success (results : List Json) : Delivery :=
  .answered 200 (Utf8.bytes (Json.render (.ofMembers
    [("status", .ofMembers [("code", .string "ok")]), ("results", .array results)])))

/-- An answer that can be read, and says that the request is rejected. -/
def Delivery.rejection (message : String) : Delivery :=
  .answered 200 (Utf8.bytes (Json.render (.ofMembers
    [("status", .ofMembers [("code", .string "error"), ("msg", .string message)])])))

end ServiceBroker.Remote

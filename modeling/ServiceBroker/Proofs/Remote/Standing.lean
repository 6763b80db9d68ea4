import ServiceBroker.Proofs.Remote.Acceptance

/-!
# What an answer counts for

An answer is accepted, or it fails the request for one of four reasons, which come to three kinds of
failure. Wrong credentials are told by the HTTP status alone, and a status that is no success goes
before whatever the body says.

## Main definitions

* `Cluster.Endpoint.status?`: the status in the body of an answer, if that can be read
* `Remote.Standing`, `Remote.Delivery.standing`: what an answer counts for
* `Remote.Standing.code?`: the kind of failure that it comes to

## Main results

* `Remote.standing_of_receive_eq_ok`, `Remote.standing_of_receive_eq_error`: what a post makes of it
* `Remote.standing_of_accept_eq_ok`, `Remote.code?_of_accept_eq_error`: what a call makes of it
-/

namespace ServiceBroker

/-- The status in a body that can be read as an answer with results of some kind. -/
def Cluster.Envelope.status? {α : Type} (item : Json.Reader α) (body : List UInt8) :
    Option Cluster.Status :=
  ((Cluster.Envelope.reader item).fromText body).toOption.map (·.status)

/-- The status in a body that can be read as an answer of the endpoint. Two endpoints tell of users
and of clusters; what the others tell may be anything. -/
def Cluster.Endpoint.status? : Cluster.Endpoint → List UInt8 → Option Cluster.Status
  | .userShow => Envelope.status? Users.reader
  | .showClusters => Envelope.status? Shown.reader
  | .clusters | .clustersDelete | .userCreate | .usersDelete => Envelope.status? Json.Reader.json

theorem Http.isSuccess_iff {status : Nat} :
    Http.isSuccess status = true ↔ 200 ≤ status ∧ status < 300 := by
  rw [Http.isSuccess, Bool.and_eq_true, decide_eq_true_eq, decide_eq_true_eq]

namespace Remote

/-- What an answer counts for. -/
inductive Standing where
  /-- There is none, or it is a success that cannot be read. -/
  | lost
  /-- The credentials are wrong. -/
  | unauthorized
  /-- The HTTP status is no success. -/
  | refused
  /-- It can be read, and does not say that it is a success. -/
  | rejected
  | accepted
  deriving DecidableEq, Repr

/-- The kind of failure that an answer comes to. -/
def Standing.code? : Standing → Option String
  | .lost => some "transport_failure"
  | .unauthorized => some "authentication_failed"
  | .refused | .rejected => some "downstream_rejected"
  | .accepted => none

/-- What an answer of an endpoint counts for. -/
def Delivery.standing (endpoint : Cluster.Endpoint) : Delivery → Standing
  | .dropped => .lost
  | .answered status body =>
    if status = 401 then .unauthorized
    else if 200 ≤ status ∧ status < 300 then
      match endpoint.status? body with
      | none => .lost
      | some said => if said.code = "ok" then .accepted else .rejected
    else .refused

/-- The answer is a success by its HTTP status, and can be read. -/
def Standing.isReadable : Standing → Bool
  | .rejected | .accepted => true
  | _ => false

variable {α : Type} {remote : Remote} {item : Json.Reader α} {answer : Delivery}
  {endpoint : Cluster.Endpoint} {envelope : Cluster.Envelope α} {failure : Executor.Failure}
  {m : Cluster.Message}

/-- An answer that is received can be read, and counts for what it says. -/
theorem standing_of_receive_eq_ok (hitem : endpoint.status? = Cluster.Envelope.status? item)
    (h : remote.receive endpoint item answer = .ok envelope) :
    answer.standing endpoint = if envelope.status.isOk then .accepted else .rejected := by
  obtain ⟨status, body, rfl, hlow, hhigh, hread⟩ := receive_eq_ok_iff.mp h
  have hcredentials : status ≠ 401 := by omega
  have hsaid : endpoint.status? body = some envelope.status := by
    rw [hitem, Cluster.Envelope.status?, hread]
    rfl
  simp only [Delivery.standing, hcredentials, hlow, hhigh, hsaid, and_self, if_true, if_false,
    Cluster.Status.isOk, Cluster.okCode, beq_iff_eq]

/-- An answer that is not received cannot be read, and the failure is of its kind. -/
theorem standing_of_receive_eq_error (hitem : endpoint.status? = Cluster.Envelope.status? item)
    (h : remote.receive endpoint item answer = .error failure) :
    (answer.standing endpoint).isReadable = false ∧
      (answer.standing endpoint).code? = some failure.code := by
  cases answer with
  | dropped =>
    cases h
    exact ⟨rfl, rfl⟩
  | answered status body =>
    unfold receive at h
    unfold Delivery.standing
    dsimp only at h ⊢
    -- The same three questions are put in the same order: credentials, status, body.
    by_cases hcredentials : status = 401
    · rw [if_pos hcredentials] at h ⊢
      cases h
      exact ⟨rfl, rfl⟩
    rw [if_neg hcredentials] at h ⊢
    by_cases hstatus : 200 ≤ status ∧ status < 300
    · rw [if_neg (by rw [Http.isSuccess_iff.mpr hstatus]; decide)] at h
      rw [if_pos hstatus, hitem, Cluster.Envelope.status?]
      cases hread : (Cluster.Envelope.reader item).fromText body with
      | error defect =>
        rw [hread] at h
        cases h
        exact ⟨rfl, rfl⟩
      | ok envelope =>
        rw [hread] at h
        cases h
    · rw [if_pos (by rwa [Bool.not_eq_true', ← Bool.not_eq_true, Http.isSuccess_iff])] at h
      cases h
      rw [if_neg hstatus]
      exact ⟨rfl, rfl⟩

/-- A call succeeds only with answers that are accepted. -/
theorem standing_of_accept_eq_ok (hitem : m.endpoint.status? = Cluster.Envelope.status? item)
    {contents : List α} (h : remote.accept m item answer = .ok contents) :
    answer.standing m.endpoint = .accepted := by
  unfold accept at h
  cases hreceive : remote.receive m.endpoint item answer with
  | error failure =>
    rw [hreceive] at h
    cases h
  | ok envelope =>
    rw [hreceive] at h
    rw [standing_of_receive_eq_ok hitem hreceive]
    dsimp only [Cluster.Envelope.results] at h
    split at h
    · next hok => exact if_pos hok
    · cases h

/-- A call that fails does so with the kind of failure that the answer comes to. -/
theorem code?_of_accept_eq_error (hitem : m.endpoint.status? = Cluster.Envelope.status? item)
    (h : remote.accept m item answer = .error failure) :
    (answer.standing m.endpoint).code? = some failure.code := by
  unfold accept at h
  cases hreceive : remote.receive m.endpoint item answer with
  | error failure' =>
    rw [hreceive] at h
    cases h
    exact (standing_of_receive_eq_error hitem hreceive).2
  | ok envelope =>
    rw [hreceive] at h
    rw [standing_of_receive_eq_ok hitem hreceive]
    dsimp only [Cluster.Envelope.results] at h
    split at h
    · cases h
    · next hok =>
      cases h
      rw [if_neg hok]
      rfl

end Remote

end ServiceBroker

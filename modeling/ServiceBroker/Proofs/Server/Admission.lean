import ServiceBroker.Proofs.Broker.Contract
import ServiceBroker.Proofs.Json.Values
import ServiceBroker.Proofs.Server.Requests
import ServiceBroker.Proofs.Text.Utf8

/-!
# Which requests create a cluster

A request to create an instance is looked at in three stages: how long its body is, whether that
reads as a provision, and whether the two parameters are there that no cluster can do without. Only
a request that passes all three is carried out, and then with what its path and its body say.

## Main definitions

* `ProvisionRequest.Sets`: the text of a body sets a parameter
* `ProvisionRequest.Orders`: the text of a body orders a cluster
* `ProvisionRequest.Rejects`: why the text of a body orders none
* `Server.asked`: what an answer asks of the executor

## Main results

* `ProvisionRequest.gives_iff_sets`: the parameters that are read are those that the text sets
* `Server.provision_asks_iff_ordered`: which clusters are created, and why others are not
-/

namespace ServiceBroker

open Program Json

/-! ### Bodies that order a cluster -/

namespace ProvisionRequest

variable {body : List UInt8} {p : ProvisionRequest} {key text instanceId : String}
  {failure : Failure} {order : Cluster.Order}

/-- The fields of a body, in the order that counts when it is a list. -/
def fieldNames : List String :=
  ["service_id", "plan_id", "organization_guid", "space_guid", "parameters", "context"]

/-- The value that the text of a body has for a field. -/
def field? (body : List UInt8) (name : String) : Option Node :=
  (Document.ofText body).root.field? fieldNames name

/-- The text of a body sets a parameter: the last member with this key among its parameters is this
string, and it is not empty. -/
def Sets (body : List UInt8) (key text : String) : Prop :=
  text ≠ "" ∧
    ((field? body "parameters").bind fun n => (n.member? key).bind Node.text?) = some text

instance (body : List UInt8) (key text : String) : Decidable (Sets body key text) :=
  inferInstanceAs (Decidable (_ ∧ _))

/-- The text of a body orders this cluster for an instance: it is not too long, reads as a provision
with this plan, and sets both parameters. -/
structure Orders (body : List UInt8) (instanceId : String) (order : Cluster.Order) : Prop where
  length_le : body.length ≤ 65536
  reads : (reader.fromText body).isOk
  instanceId_eq : order.instanceId = instanceId
  planId : (field? body "plan_id").bind Node.text? = some order.planId
  clusterName : Sets body "CLUSTERNAME" order.clusterName
  namespaceName : Sets body "NAMESPACE" order.namespaceName

instance (body : List UInt8) (instanceId : String) (order : Cluster.Order) :
    Decidable (Orders body instanceId order) :=
  decidable_of_iff (body.length ≤ 65536 ∧ (reader.fromText body).isOk ∧
      order.instanceId = instanceId ∧
      (field? body "plan_id").bind Node.text? = some order.planId ∧
      Sets body "CLUSTERNAME" order.clusterName ∧ Sets body "NAMESPACE" order.namespaceName)
    ⟨fun ⟨hlength, hreads, hid, hplan, hcluster, hnamespace⟩ =>
      ⟨hlength, hreads, hid, hplan, hcluster, hnamespace⟩,
    fun ⟨hlength, hreads, hid, hplan, hcluster, hnamespace⟩ =>
      ⟨hlength, hreads, hid, hplan, hcluster, hnamespace⟩⟩

/-- Why the text of a body orders no cluster. -/
inductive Rejects (body : List UInt8) : Failure → Prop where
  | tooLong : 65536 < body.length →
      Rejects body (.badRequest "failed to read body: length limit exceeded")
  | unreadable {defect : ReadFailure} : body.length ≤ 65536 → reader.fromText body = .error defect →
      Rejects body (.badRequest s!"invalid JSON: {defect.message}")
  | noClusterName {p : ProvisionRequest} : body.length ≤ 65536 → reader.fromText body = .ok p →
      (∀ text, ¬ Sets body "CLUSTERNAME" text) → Rejects body (.missingParameter "CLUSTERNAME")
  | noNamespace {p : ProvisionRequest} {clusterName : String} : body.length ≤ 65536 →
      reader.fromText body = .ok p → Sets body "CLUSTERNAME" clusterName →
      (∀ text, ¬ Sets body "NAMESPACE" text) → Rejects body (.missingParameter "NAMESPACE")

theorem Rejects.status_eq (h : Rejects body failure) : failure.status = 400 := by
  cases h with
  | tooLong | unreadable | noClusterName | noNamespace => rfl

/-- What is read of a body is what its text has for the fields. -/
theorem exists_of_reader (h : reader.fromText body = .ok p) :
    (field? body "plan_id").bind Node.text? = some p.planId ∧
      ((field? body "parameters" = none ∧ p.parameters = none) ∨
        ∃ ctx n, field? body "parameters" = some n ∧
          Reader.option Reader.members ctx n = .ok p.parameters) := by
  obtain ⟨hread, -⟩ := Reader.fromText_eq_ok_iff.mp h
  obtain ⟨ctx, slots, hrecord, hslots⟩ := Record.exists_build_of_reader hread (by decide)
  have hplan : slots.find? "plan_id" = field? body "plan_id" := hslots "plan_id" _ rfl
  have hparameters : slots.find? "parameters" = field? body "parameters" :=
    hslots "parameters" _ rfl
  -- The record is taken apart from its last field to its first.
  obtain ⟨f₅, context, h₅, -, rfl⟩ := Record.build_seq_eq_ok_iff.mp hrecord
  obtain ⟨f₄, parameters, h₄, hoptional, rfl⟩ := Record.build_seq_eq_ok_iff.mp h₅
  obtain ⟨f₃, spaceGuid, h₃, -, rfl⟩ := Record.build_seq_eq_ok_iff.mp h₄
  obtain ⟨f₂, organizationGuid, h₂, -, rfl⟩ := Record.build_seq_eq_ok_iff.mp h₃
  obtain ⟨f₁, planId, h₁, hplanId, rfl⟩ := Record.build_seq_eq_ok_iff.mp h₂
  obtain ⟨serviceId, -, rfl⟩ := Record.build_map_eq_ok_iff.mp h₁
  constructor
  · obtain ⟨n, hn, hstring⟩ := Record.build_required_eq_ok_iff.mp hplanId
    rw [← hplan, hn]
    exact Reader.stringAs_eq_ok_iff.mp hstring
  · rcases Record.build_withDefault_eq_ok_iff.mp hoptional with ⟨n, hn, hoption⟩ | ⟨hnone, hdefault⟩
    · exact .inr ⟨ctx, n, hparameters.symm.trans hn, hoption⟩
    · exact .inl ⟨hparameters.symm.trans hnone, hdefault⟩

/-- The parameters that are read are those that the text sets. -/
theorem gives_iff_sets (h : reader.fromText body = .ok p) :
    ProvisionParameters.Gives p.parameters key text ↔ Sets body key text := by
  unfold ProvisionParameters.Gives Sets
  refine and_congr_right fun _ => ?_
  obtain ⟨-, ⟨hnone, hparameters⟩ | ⟨ctx, n, hfield, hoption⟩⟩ := exists_of_reader h
  · rw [hnone, hparameters]
    simp
  · rw [hfield, Option.bind_some]
    rcases Reader.option_eq_ok_iff.mp hoption with ⟨⟨span, rfl⟩, hnull⟩ | ⟨-, members, hread, hsome⟩
    · rw [hnull]
      exact iff_of_false (fun ⟨_, hmembers, _⟩ => nomatch hmembers) nofun
    · rw [hsome, ← Reader.find?_members_eq_string_iff hread]
      simp

theorem Sets.unique {text' : String} (h : Sets body key text) (h' : Sets body key text') :
    text = text' :=
  Option.some.inj (h.2.symm.trans h'.2)

/-- A body orders one cluster at most. -/
theorem Orders.unique {order' : Cluster.Order} (h : Orders body instanceId order)
    (h' : Orders body instanceId order') : order = order' := by
  have hid : order.instanceId = order'.instanceId := h.instanceId_eq.trans h'.instanceId_eq.symm
  have hplan : order.planId = order'.planId := Option.some.inj (h.planId.symm.trans h'.planId)
  have hcluster := h.clusterName.unique h'.clusterName
  have hnamespace := h.namespaceName.unique h'.namespaceName
  cases order
  cases order'
  simp only at hid hcluster hnamespace hplan
  rw [hid, hcluster, hnamespace, hplan]

/-- A body with parameters that give both names orders the cluster that they name. -/
theorem orders_of_gives {clusterName namespaceName : String} (hlength : body.length ≤ 65536)
    (h : reader.fromText body = .ok p)
    (hcluster : ProvisionParameters.Gives p.parameters clusterNameParameter clusterName)
    (hnamespace : ProvisionParameters.Gives p.parameters namespaceParameter namespaceName) :
    Orders body instanceId ⟨instanceId, clusterName, namespaceName, p.planId⟩ where
  length_le := hlength
  reads := by rw [h]; rfl
  instanceId_eq := rfl
  planId := (exists_of_reader h).1
  clusterName := (gives_iff_sets h).mp hcluster
  namespaceName := (gives_iff_sets h).mp hnamespace

/-- A body is rejected with the first of the two parameters that it does not set. -/
theorem rejects_of_misses (hlength : body.length ≤ 65536) (h : reader.fromText body = .ok p)
    (hmisses : ProvisionParameters.Misses p.parameters key) :
    Rejects body (.missingParameter key) := by
  cases hmisses with
  | clusterName hnone =>
    refine .noClusterName hlength h fun text hsets => ?_
    exact hnone text ((gives_iff_sets h).mpr hsets)
  | namespaceName hgives hnone =>
    refine .noNamespace hlength h ((gives_iff_sets h).mp hgives) fun text hsets => ?_
    exact hnone text ((gives_iff_sets h).mpr hsets)

/-- A body that is rejected orders nothing. -/
theorem Rejects.not_orders (h : Rejects body failure) : ¬ Orders body instanceId order := by
  intro horders
  cases h with
  | tooLong hlong => exact Nat.not_lt.mpr horders.length_le hlong
  | unreadable hlength hdefect =>
    have hreads := horders.reads
    rw [hdefect] at hreads
    cases hreads
  | noClusterName hlength hp hnone => exact hnone _ horders.clusterName
  | noNamespace hlength hp hsets hnone => exact hnone _ horders.namespaceName

end ProvisionRequest

namespace Server

open ProvisionRequest

variable {s : Server} {r : Http.Request} {segment : List Char} {id caller : String}
  {incomplete : Bool} {checked rest trace : List (Event effects)} {response : Http.Response}

/-! ### What is asked of the executor -/

/-- The operation that a need is, if it is one. -/
def Need.operation? : Need → Option Executor.Operation
  | .step (.execute op) => some op
  | .step .acquire | .step .release | .validate _ | .record .. | .readMetrics => none

/-- Every need can be met. -/
theorem Need.nonempty_reply (need : Need) : Nonempty need.Reply := by
  cases need with
  | validate v => exact ⟨.ok ""⟩
  | record verb outcome => exact ⟨()⟩
  | readMetrics => exact ⟨Metrics.zero⟩
  | step request =>
    cases request with
    | acquire | release => exact ⟨()⟩
    | execute op => exact ⟨.error .authenticationFailed⟩

/-- What an answer asks of the executor. -/
def asked (trace : List (Event effects)) : List Executor.Operation :=
  trace.filterMap fun event => event.request.operation?

@[simp] theorem asked_append (before after : List (Event effects)) :
    asked (before ++ after) = asked before ++ asked after := by
  simp [asked]

/-- Nothing is asked of the executor to find out who is calling. -/
theorem asked_of_authenticate {v : Verdict} (h : Run (s.authenticate r) checked v) :
    asked checked = [] := by
  refine List.filterMap_eq_nil_iff.mpr fun event hevent => ?_
  have haside := isAside_authenticate checked v h event hevent
  cases hneed : event.request with
  | step request =>
    rw [hneed] at haside
    exact absurd trivial haside
  | validate _ | record _ _ | readMetrics => rfl

/-- A call that is carried out asks for its operations. -/
theorem asked_of_call {verb : Broker.Verb} {steps : List (Event Broker.effects)}
    {result : Except Failure Broker.Answer} :
    asked (steps.map taken ++ [counted verb result]) = (Broker.made steps).map (·.request) := by
  rw [asked_append]
  have hcounted : asked [counted verb result] = [] := rfl
  rw [hcounted, List.append_nil]
  induction steps with
  | nil => rfl
  | cons step steps ih =>
    match step with
    | ⟨.execute op, outcome⟩ => exact congrArg (op :: ·) ih
    | ⟨.acquire, _⟩ | ⟨.release, _⟩ => exact ih

/-! ### The answer to a provision -/

/-- A body that is not read is rejected. -/
theorem rejects_of_readBody
    (h : readBody ProvisionRequest.reader r = .error response) :
    ∃ failure, Rejects r.body failure ∧ response = refusal failure := by
  unfold readBody at h
  by_cases hlength : r.body.length > maxBodyLength
  · rw [if_pos hlength] at h
    exact ⟨_, .tooLong hlength, (Except.error.inj h).symm⟩
  · rw [if_neg hlength] at h
    cases hread : ProvisionRequest.reader.fromText r.body with
    | ok p =>
      rw [hread] at h
      cases h
    | error defect =>
      rw [hread] at h
      exact ⟨_, .unreadable (Nat.not_lt.mp hlength) hread, (Except.error.inj h).symm⟩

theorem readBody_eq_ok {p : ProvisionRequest} (h : readBody ProvisionRequest.reader r = .ok p) :
    r.body.length ≤ 65536 ∧ ProvisionRequest.reader.fromText r.body = .ok p := by
  unfold readBody at h
  obtain ⟨hlength, hread⟩ := ite_error_eq_ok_iff.mp h
  refine ⟨Nat.not_lt.mp hlength, ?_⟩
  cases hresult : ProvisionRequest.reader.fromText r.body with
  | ok p' =>
    rw [hresult] at hread
    cases hread
    rfl
  | error defect =>
    rw [hresult] at hread
    cases hread

/-- A provision either asks for the cluster that its body orders, or asks for nothing and is
answered with what is wrong with the body. -/
theorem run_provision_cases (hid : readId "instance_id" segment = .ok id)
    (hquery : acceptsIncomplete r.target.query = .ok incomplete)
    (h : Run (s.answerAt r (.provision segment)) rest response) :
    (∃ order, Orders r.body id order ∧ asked rest = [.createCluster order]) ∨
      ∃ failure, Rejects r.body failure ∧ asked rest = [] ∧ response = refusal failure := by
  cases hbody : readBody ProvisionRequest.reader r with
  | error answer =>
    have hanswer : s.answerAt r (.provision segment) = .done answer := by
      simp only [answerAt, provision, hid, hquery, hbody]
      rfl
    rw [hanswer] at h
    obtain ⟨rfl, rfl⟩ := run_done_iff.mp h
    obtain ⟨failure, hrejects, rfl⟩ := rejects_of_readBody hbody
    exact .inr ⟨failure, hrejects, rfl, rfl⟩
  | ok p =>
    obtain ⟨hlength, hread⟩ := readBody_eq_ok hbody
    obtain ⟨steps, result, hrun, rfl, rfl⟩ :=
      (run_answerAt_iff (.provision hid hquery hbody)).mp h
    rw [asked_of_call]
    have hbridges :
        Broker.Bridges s.broker (.provision id p incomplete) (Broker.made steps) result :=
      Broker.run_operations_perform_iff.mp (Broker.run_operations_iff.mpr ⟨steps, hrun, rfl⟩)
    generalize Broker.made steps = calls at hbridges
    cases hbridges with
    | invalid _ _ hmisses => exact .inr ⟨_, rejects_of_misses hlength hread hmisses, rfl, rfl⟩
    | provisioned _ _ hcluster hnamespace =>
      exact .inl ⟨_, orders_of_gives hlength hread hcluster hnamespace, rfl⟩
    | notProvisioned _ _ failure hcluster hnamespace =>
      exact .inl ⟨_, orders_of_gives hlength hread hcluster hnamespace, rfl⟩

/-- A path of an instance leads to it. -/
theorem route?_instance (hne : segment ≠ []) (hslash : '/' ∉ segment)
    (hpath : r.target.path = "/v2/service_instances/".toList ++ segment) :
    s.route? r = some (.instance segment) := by
  have hparts : splitAt (· == '/') r.target.path =
      ["".toList, "v2".toList, "service_instances".toList, segment] := by
    have hsplit : "/v2/service_instances/".toList = "/v2/service_instances".toList ++ ['/'] := by
      decide
    have hfront : splitAt (· == '/') "/v2/service_instances".toList =
        ["".toList, "v2".toList, "service_instances".toList] := by decide
    rw [hpath, hsplit, List.append_assoc, List.singleton_append, splitAt_append_cons rfl, hfront,
      splitAt_of_not_mem hslash]
    rfl
  have hroute : Route.ofPath? r.target.path = some (.instance segment) := by
    rw [Route.ofPath?, hparts]
    have hne : String.ofList segment ≠ "" := fun h => hne (by simpa using congrArg String.toList h)
    simp [Route.ofSegments?, hne]
  rw [route?, hroute]
  rfl

/-- A request of an admitted caller to create an instance asks the executor for the cluster that its
body orders, with the instance that its path names, and for nothing else. A body that orders no
cluster asks for nothing, and is answered with the first thing that is wrong with it. -/
theorem provision_asks_iff_ordered (hmethod : r.method = "PUT")
    (hpath : r.target.path = "/v2/service_instances/".toList ++ segment) (hne : segment ≠ [])
    (hslash : '/' ∉ segment) (hsegment : Percent.decode segment = Utf8.encode id.toList)
    (hquery : acceptsIncomplete r.target.query = .ok incomplete)
    (hcaller : Run (s.authenticate r) checked (.admitted caller)) :
    (∃ rest response, Run (s.answer r) (checked ++ rest) response) ∧
    ∀ rest response, Run (s.answer r) (checked ++ rest) response →
      (∀ order, asked (checked ++ rest) = [.createCluster order] ↔ Orders r.body id order) ∧
      ((∀ order, ¬ Orders r.body id order) → asked (checked ++ rest) = [] ∧
        ∃ failure, Rejects r.body failure ∧ response = .json 400 failure.body) := by
  have hid : readId "instance_id" segment = .ok id := by
    rw [readId, Utf8.decode?_eq_some_iff.mpr hsegment]
    simp
  have hendpoint : (Route.instance segment).endpoint? r.method = some (.provision segment) := by
    rw [hmethod]
    rfl
  have hrun {rest : List (Event effects)} {response : Http.Response} :
      Run (s.answer r) (checked ++ rest) response ↔
        Run (s.answerAt r (.provision segment)) rest response := by
    have hsent (response : Http.Response) : sent r response = response := by
      rw [sent, hmethod, if_neg (by decide)]
    rw [answer_eq_bind (route?_instance hne hslash hpath) hendpoint rfl,
      run_bind_append_iff hcaller]
    simp only [hsent]
    exact iff_of_eq (congrArg (Run · rest response) (bind_done _))
  constructor
  · obtain ⟨rest, response, h⟩ := exists_run (E := effects) (fun need => Need.nonempty_reply need)
      (s.answerAt r (.provision segment))
    exact ⟨rest, response, hrun.mpr h⟩
  · intro rest response h
    rw [hrun] at h
    rw [asked_append, asked_of_authenticate hcaller, List.nil_append]
    rcases run_provision_cases hid hquery h with
      ⟨order, horders, hasked⟩ | ⟨failure, hrejects, hasked, rfl⟩
    · rw [hasked]
      refine ⟨fun order' => ?_, fun hnone => absurd horders (hnone order)⟩
      constructor
      · intro heq
        cases heq
        exact horders
      · intro horders'
        rw [horders.unique horders']
    · rw [hasked]
      refine ⟨fun order => ?_, fun _ => ⟨rfl, failure, hrejects, ?_⟩⟩
      · exact iff_of_false (List.cons_ne_nil _ _).symm hrejects.not_orders
      · rw [refusal, hrejects.status_eq]

/-- A request to create an instance. -/
def provisionRequest (segment body : String) : Http.Request where
  method := "PUT"
  target := .ofText ("/v2/service_instances/" ++ segment ++ "?accepts_incomplete=true").toList
  headers := []
  body := Utf8.bytes body

/-- The last of two cluster names counts, and a slash that is percent-encoded belongs to the
identifier. -/
theorem provision_asks_iff_ordered_repeated :
    let s : Server := ⟨⟨"svc", false⟩, .anyone, "mock", true⟩
    let r := provisionRequest "a%2Fb"
      ("\x7b\"service_id\": \"\", \"plan_id\": \"small\", \"extra\": [1], \"parameters\": \x7b" ++
        "\"CLUSTERNAME\": 7, \"NAMESPACE\": \"ns\", \"CLUSTERNAME\": \"pg\"\x7d\x7d")
    ∃ rest response, Run (s.answer r) ([] ++ rest) response ∧
      asked ([] ++ rest) = [.createCluster ⟨"a/b", "pg", "ns", "small"⟩] := by
  intro s r
  have hpairs : Form.pairs r.target.query = [("accepts_incomplete", "true")] := by decide +kernel
  have hquery : acceptsIncomplete r.target.query = .ok true := by
    rw [acceptsIncomplete, hpairs]
    rfl
  have hsegment : Percent.decode "a%2Fb".toList = Utf8.encode "a/b".toList := by decide
  obtain ⟨⟨rest, response, hrun⟩, hasked⟩ := provision_asks_iff_ordered (s := s) (r := r) rfl rfl
    (by decide) (by decide) hsegment hquery (.done _)
  exact ⟨rest, response, hrun, ((hasked rest response hrun).1 _).mpr (by decide +kernel)⟩

end Server

end ServiceBroker

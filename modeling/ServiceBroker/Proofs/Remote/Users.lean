import ServiceBroker.Proofs.Identifier.Codec
import ServiceBroker.Proofs.Remote.Deletion
import ServiceBroker.Proofs.Remote.Standing

/-!
# The user of a binding

A binding has one user, whose name comes from its UUID. The user is created, looked up and deleted
by that name alone, so every spelling of the UUID leads to it and no other UUID does. Whether the
API says that it has created the user does not matter: it is the listing afterwards that decides,
and the first user of that name in it counts.

## Main definitions

* `Remote.credentialOf`: the credential that a listing holds for a user
* `Remote.MayPost`: the requests that a program may come to post
* `Remote.Indifferent`: programs go on alike, however a user is said to have been created

## Main results

* `Remote.createBinding_eq`, `Remote.deleteBinding_eq`: what the two operations do
* `Remote.credentialOf_eq_ok_iff`: the first user of that name counts
* `Remote.binding_acts_on_own_user`: whom the two operations are about
-/

namespace ServiceBroker.Remote

open Program

variable {α : Type} {remote : Remote} {instanceId bindingId bindingId' name : String}
  {trace before after : List (Event effects)} {answer answer' : Delivery}

/-! ### What the operations do -/

/-- The request for the user of a binding. -/
def userCreation (remote : Remote) (namespaceName instanceId name : String) :
    Cluster.CreateUser where
  name
  namespaceName
  selector := remote.selector instanceId
  managedUser := true
  clientVersion := remote.clientVersion
  passwordLength := Cluster.passwordLength

/-- The request to delete the user of a binding. -/
def userDeletion (remote : Remote) (namespaceName instanceId name : String) :
    Cluster.DeleteUser where
  username := name
  selector := remote.selector instanceId
  namespaceName
  clientVersion := remote.clientVersion

/-- The credential that a listing holds for the user of a binding. -/
def credentialOf (name : String) (shown : List Cluster.Users) :
    Except Executor.Failure Credential :=
  match (secrets shown).find? fun s => s.username == name with
  | some secret => .ok ⟨secret.username, secret.password⟩
  | none => .error (.credentialNotFound s!"user {name} missing from cluster secrets")

theorem userOf_eq_ok (h : Identifier.bindingUsername bindingId = .ok name) :
    userOf bindingId = .ok name := by
  rw [userOf, h]
  rfl

theorem userOf_eq_error {defect : Identifier.Defect}
    (h : Identifier.bindingUsername bindingId = .error defect) :
    userOf bindingId = .error (.invalidIdentifier (defect.message bindingId)) := by
  rw [userOf, h]
  rfl

/-- What creating a binding does for an ID that names a user. -/
theorem createBinding_eq (h : Identifier.bindingUsername bindingId = .ok name) :
    remote.createBinding instanceId bindingId = remote.resolve instanceId >>= fun
      | .error failure => .done (.error failure)
      | .ok namespaceName =>
        .ask (E := effects)
          (.post (.createUser (remote.userCreation namespaceName instanceId name))) fun created =>
            match remote.receive .userCreate Json.Reader.json created with
            | .error failure => .done (.error failure)
            | .ok _ =>
              .ask (E := effects) (.post (.showUsers (remote.listing namespaceName instanceId)))
                fun listed => .done ((remote.accept
                  (.showUsers (remote.listing namespaceName instanceId))
                  Cluster.Users.reader listed).bind (credentialOf name)) := by
  unfold createBinding
  rw [userOf_eq_ok h]
  refine congrArg (remote.resolve instanceId >>= ·) (funext fun resolved => ?_)
  cases resolved with
  | error failure => rfl
  | ok namespaceName =>
    refine congrArg (Program.ask (E := effects) _) (funext fun created => ?_)
    change (match remote.receive .userCreate Json.Reader.json created with
      | .error failure => Program.done (E := effects) (Except.error failure)
      | .ok _ => remote.users namespaceName instanceId >>= _) = _
    cases remote.receive .userCreate Json.Reader.json created with
    | error failure => rfl
    | ok envelope =>
      unfold users
      simp only [call_bind]
      refine congrArg (Program.ask (E := effects) _) (funext fun listed => ?_)
      unfold listing
      cases remote.accept _ Cluster.Users.reader listed with
      | error failure => rfl
      | ok shown =>
        dsimp only [Except.bind, credentialOf]
        cases (secrets shown).find? fun s => s.username == name <;> rfl

/-- What deleting a binding does for an ID that names a user. -/
theorem deleteBinding_eq (h : Identifier.bindingUsername bindingId = .ok name) :
    remote.deleteBinding instanceId bindingId = remote.resolve instanceId >>= fun
      | .error failure => .done (.error failure)
      | .ok namespaceName =>
        .ask (E := effects)
          (.post (.deleteUser (remote.userDeletion namespaceName instanceId name))) fun deleted =>
            .done ((remote.accept (.deleteUser (remote.userDeletion namespaceName instanceId name))
              Json.Reader.json deleted).map fun _ => ()) := by
  unfold deleteBinding
  rw [userOf_eq_ok h]
  refine congrArg (remote.resolve instanceId >>= ·) (funext fun resolved => ?_)
  cases resolved with
  | error failure => rfl
  | ok namespaceName =>
    simp only [call_bind]
    rfl

/-- Without a user the operations are over before they have asked for anything. -/
theorem createBinding_of_error {defect : Identifier.Defect}
    (h : Identifier.bindingUsername bindingId = .error defect) :
    remote.createBinding instanceId bindingId =
      .done (.error (.invalidIdentifier (defect.message bindingId))) := by
  rw [createBinding, userOf_eq_error h]
  rfl

theorem deleteBinding_of_error {defect : Identifier.Defect}
    (h : Identifier.bindingUsername bindingId = .error defect) :
    remote.deleteBinding instanceId bindingId =
      .done (.error (.invalidIdentifier (defect.message bindingId))) := by
  rw [deleteBinding, userOf_eq_error h]
  rfl

/-- The first user of that name counts. -/
theorem credentialOf_eq_ok_iff {shown : List Cluster.Users} {credential : Credential} :
    credentialOf name shown = .ok credential ↔
      ∃ earlier secret later, secrets shown = earlier ++ secret :: later ∧
        (∀ s ∈ earlier, s.username ≠ name) ∧ secret.username = name ∧
        credential = ⟨secret.username, secret.password⟩ := by
  have hfound : credentialOf name shown = .ok credential ↔
      ∃ secret, ((secrets shown).find? fun s => s.username == name) = some secret ∧
        credential = ⟨secret.username, secret.password⟩ := by
    unfold credentialOf
    cases (secrets shown).find? fun s => s.username == name with
    | none => exact iff_of_false nofun fun ⟨_, h, _⟩ => nomatch h
    | some secret => simp only [Except.ok.injEq, Option.some.injEq, exists_eq_left', eq_comm]
  simp only [hfound, List.find?_eq_some_iff_append, beq_iff_eq, Bool.not_eq_true', beq_eq_false_iff_ne]
  constructor
  · rintro ⟨secret, ⟨hname, earlier, later, hsecrets, hearlier⟩, hcredential⟩
    exact ⟨earlier, secret, later, hsecrets, hearlier, hname, hcredential⟩
  · rintro ⟨earlier, secret, later, hsecrets, hearlier, hname, hcredential⟩
    exact ⟨secret, ⟨hname, earlier, later, hsecrets, hearlier⟩, hcredential⟩

/-! ### Whom the requests are about -/

/-- The program may come to post the request. -/
def MayPost (p : Program effects α) (m : Cluster.Message) : Prop :=
  ∃ before answer after q, Reaches p (before ++ ⟨.post m, answer⟩ :: after) q

/-- The user whom a request creates or deletes. -/
def userNamed? : Cluster.Message → Option String
  | .createUser m => some m.name
  | .deleteUser m => some m.username
  | _ => none

/-- A request creates or deletes no user but that of the binding. -/
def IsAbout (bindingId : String) (_ : List (Event effects)) (r : Request) : Prop :=
  ∀ m name, r = .post m → userNamed? m = some name →
    Identifier.bindingUsername bindingId = .ok name

theorem isAbout_locate (past : List (Event effects)) (r : Locator.Request) :
    IsAbout bindingId past (.locate r) := nofun

theorem guarded_isAbout_createBinding :
    Guarded (E := effects) (IsAbout bindingId) [] (remote.createBinding instanceId bindingId) := by
  cases hname : Identifier.bindingUsername bindingId with
  | error defect =>
    rw [createBinding_of_error hname]
    trivial
  | ok name =>
    rw [createBinding_eq hname]
    refine (guarded_resolve isAbout_locate).bind fun located resolved _ => ?_
    cases resolved with
    | error failure => trivial
    | ok namespaceName =>
      refine ⟨fun m name' hm huser => ?_, fun created => ?_⟩
      · cases hm
        cases huser
        exact hname
      · dsimp only
        cases remote.receive .userCreate Json.Reader.json created with
        | error failure => trivial
        | ok envelope =>
          refine ⟨fun m name' hm huser => ?_, fun listed => trivial⟩
          cases hm
          cases huser

theorem guarded_isAbout_deleteBinding :
    Guarded (E := effects) (IsAbout bindingId) [] (remote.deleteBinding instanceId bindingId) := by
  cases hname : Identifier.bindingUsername bindingId with
  | error defect =>
    rw [deleteBinding_of_error hname]
    trivial
  | ok name =>
    rw [deleteBinding_eq hname]
    refine (guarded_resolve isAbout_locate).bind fun located resolved _ => ?_
    cases resolved with
    | error failure => trivial
    | ok namespaceName =>
      refine ⟨fun m name' hm huser => ?_, fun deleted => trivial⟩
      cases hm
      cases huser
      exact hname

/-- The user that is created for a binding is the one its ID names. -/
theorem exists_mayPost_createUser_iff :
    (∃ m, MayPost (remote.createBinding instanceId bindingId) (.createUser m) ∧ m.name = name) ↔
      Identifier.bindingUsername bindingId = .ok name := by
  constructor
  · rintro ⟨m, ⟨before, answer, after, q, hq⟩, rfl⟩
    exact guarded_isAbout_createBinding.of_reaches hq _ _ rfl rfl
  · intro hname
    -- The namespace may be known already, so that the user is created at once.
    refine ⟨remote.userCreation "" instanceId name,
      ⟨[⟨.locate (.recall instanceId), some ""⟩], .dropped, [], ?_⟩, rfl⟩
    rw [createBinding_eq hname]
    refine exists_reaches_ask (E := effects) (r := .locate (.recall instanceId)) ?_
    exact ⟨_, Reaches.ask (E := effects) (.post (.createUser _)) _ .dropped (.refl _)⟩

/-- The user that is deleted for a binding is the one its ID names. -/
theorem exists_mayPost_deleteUser_iff :
    (∃ m, MayPost (remote.deleteBinding instanceId bindingId) (.deleteUser m) ∧
      m.username = name) ↔ Identifier.bindingUsername bindingId = .ok name := by
  constructor
  · rintro ⟨m, ⟨before, answer, after, q, hq⟩, rfl⟩
    exact guarded_isAbout_deleteBinding.of_reaches hq _ _ rfl rfl
  · intro hname
    refine ⟨remote.userDeletion "" instanceId name,
      ⟨[⟨.locate (.recall instanceId), some ""⟩], .dropped, [], ?_⟩, rfl⟩
    rw [deleteBinding_eq hname]
    refine exists_reaches_ask (E := effects) (r := .locate (.recall instanceId)) ?_
    exact ⟨_, Reaches.ask (E := effects) (.post (.deleteUser _)) _ .dropped (.refl _)⟩

/-! ### What is said about the creation -/

/-- The answers to the creation of a user that can be read make no difference to what follows. -/
def Indifferent : (r : Request) → (r.Reply → Program effects α) → Prop
  | .post (.createUser _), k => ∀ answer answer' : Delivery,
    (answer.standing .userCreate).isReadable → (answer'.standing .userCreate).isReadable →
      k answer = k answer'
  | _, _ => True

/-- Answers that can be read are received. -/
theorem exists_receive_of_isReadable
    (h : (answer.standing .userCreate).isReadable) :
    ∃ envelope, remote.receive .userCreate Json.Reader.json answer = .ok envelope := by
  cases hreceive : remote.receive .userCreate Json.Reader.json answer with
  | ok envelope => exact ⟨envelope, rfl⟩
  | error failure =>
    rw [(standing_of_receive_eq_error rfl hreceive).1] at h
    cases h

theorem always_indifferent_createBinding :
    Always (E := effects) Indifferent (remote.createBinding instanceId bindingId) := by
  cases hname : Identifier.bindingUsername bindingId with
  | error defect =>
    rw [createBinding_of_error hname]
    trivial
  | ok name =>
    rw [createBinding_eq hname]
    refine always_resolve_bind (fun _ _ => trivial) fun resolved => ?_
    cases resolved with
    | error failure => trivial
    | ok namespaceName =>
      refine ⟨fun created created' hcreated hcreated' => ?_, fun created => ?_⟩
      · obtain ⟨envelope, hreceive⟩ := exists_receive_of_isReadable hcreated
        obtain ⟨envelope', hreceive'⟩ := exists_receive_of_isReadable hcreated'
        dsimp only
        rw [hreceive, hreceive']
      · dsimp only
        cases remote.receive .userCreate Json.Reader.json created with
        | error failure => trivial
        | ok envelope => exact ⟨trivial, fun listed => trivial⟩

/-- A run stays one when another answer is given to the creation. -/
theorem run_congr_of_indifferent {p : Program effects α} {m : Cluster.CreateUser} {outcome : α}
    (h : Always (E := effects) Indifferent p) (hanswer : (answer.standing .userCreate).isReadable)
    (hanswer' : (answer'.standing .userCreate).isReadable)
    (hrun : Run p (before ++ ⟨.post (.createUser m), answer⟩ :: after) outcome) :
    Run p (before ++ ⟨.post (.createUser m), answer'⟩ :: after) outcome := by
  rw [run_iff_reaches_done, reaches_append_iff] at hrun ⊢
  obtain ⟨p', hbefore, hafter⟩ := hrun
  refine ⟨p', hbefore, ?_⟩
  cases hafter with
  | ask _ k _ hafter =>
    have hsame : k answer = k answer' := h.of_reaches hbefore answer answer' hanswer hanswer'
    exact .ask (E := effects) (.post (.createUser m)) k answer' (hsame ▸ hafter)

/-! ### The outcome -/

/-- A binding that is created gets the credential that the listing holds for its user. -/
theorem run_createBinding_ok {credential : Credential}
    (h : Run (remote.createBinding instanceId bindingId) trace (.ok credential)) :
    Identifier.bindingUsername bindingId = .ok credential.username ∧
      ∃ namespaceName created listed shown,
        posts trace = [
          (.createUser (remote.userCreation namespaceName instanceId credential.username), created),
          (.showUsers (remote.listing namespaceName instanceId), listed)] ∧
        Accepted Cluster.Users.reader listed shown ∧
        credentialOf credential.username shown = .ok credential := by
  cases hname : Identifier.bindingUsername bindingId with
  | error defect =>
    rw [createBinding_of_error hname] at h
    cases h
  | ok name =>
    rw [createBinding_eq hname, run_bind_iff] at h
    obtain ⟨located, resolved, rest, rfl, hresolve, h⟩ := h
    have hlocated : posts located = [] :=
      posts_of_reaches_resolve (run_iff_reaches_done.mp hresolve)
    rw [posts_append, hlocated, List.nil_append]
    cases resolved with
    | error failure => cases h
    | ok namespaceName =>
      obtain ⟨created, rest, rfl, hcreated⟩ := run_ask_iff.mp h
      dsimp only at hcreated
      cases hreceive : remote.receive .userCreate Json.Reader.json created with
      | error failure =>
        rw [hreceive] at hcreated
        cases hcreated
      | ok envelope =>
        rw [hreceive] at hcreated
        obtain ⟨listed, rest, rfl, hlisted⟩ := run_ask_iff.mp hcreated
        obtain ⟨rfl, houtcome⟩ := run_done_iff.mp hlisted
        -- The credential has the name that was looked for, so this is the name of the binding.
        obtain ⟨shown, haccept, hcredential⟩ := bind_eq_ok_iff.mp houtcome.symm
        obtain ⟨-, secret, -, -, -, rfl, rfl⟩ := credentialOf_eq_ok_iff.mp hcredential
        exact ⟨rfl, namespaceName, created, listed, shown, rfl, accept_eq_ok_iff.mp haccept,
          hcredential⟩

/-- Creating and deleting a binding is about the binding's own user. If a credential is returned,
then a user of its name was created, this name is that of the binding, and the password is that of
the first user of this name in the listing. What the API says about the creation makes no difference
as long as it can be read. Deleting a binding is about the same user exactly if its ID is the same
UUID. With an ID that names no user, both are over before they have asked for anything. -/
theorem binding_acts_on_own_user (remote : Remote) (instanceId bindingId : String) :
    (∀ trace credential,
      Run (remote.createBinding instanceId bindingId) trace (.ok credential) →
      Identifier.bindingUsername bindingId = .ok credential.username ∧
      ∃ creation created users listed shown earlier secret later,
        posts trace = [(.createUser creation, created), (.showUsers users, listed)] ∧
        creation.name = credential.username ∧
        Accepted Cluster.Users.reader listed shown ∧
        shown.flatMap (·.secrets) = earlier ++ secret :: later ∧
        (∀ s ∈ earlier, s.username ≠ credential.username) ∧
        secret.username = credential.username ∧ secret.password = credential.password) ∧
    (∀ before creation created created' after outcome,
      (created.standing .userCreate).isReadable → (created'.standing .userCreate).isReadable →
      Run (remote.createBinding instanceId bindingId)
        (before ++ ⟨.post (.createUser creation), created⟩ :: after) outcome →
      Run (remote.createBinding instanceId bindingId)
        (before ++ ⟨.post (.createUser creation), created'⟩ :: after) outcome) ∧
    (∀ bindingId' deletion,
      MayPost (remote.deleteBinding instanceId bindingId') (.deleteUser deletion) →
      ((∃ creation, MayPost (remote.createBinding instanceId bindingId) (.createUser creation) ∧
        creation.name = deletion.username) ↔ Identifier.SameUuid bindingId bindingId')) ∧
    (∀ defect, Identifier.bindingUsername bindingId = .error defect → ∀ trace,
      (∀ outcome, Run (remote.createBinding instanceId bindingId) trace outcome ↔
        trace = [] ∧ outcome = .error (.invalidIdentifier (defect.message bindingId))) ∧
      (∀ outcome, Run (remote.deleteBinding instanceId bindingId) trace outcome ↔
        trace = [] ∧ outcome = .error (.invalidIdentifier (defect.message bindingId)))) := by
  refine ⟨fun trace credential h => ?_, fun before creation created created' after outcome => ?_,
    fun bindingId' deletion h => ?_, fun defect h trace => ?_⟩
  · obtain ⟨hname, namespaceName, created, listed, shown, hposts, haccepted, hcredential⟩ :=
      run_createBinding_ok h
    obtain ⟨earlier, secret, later, hsecrets, hearlier, husername, rfl⟩ :=
      credentialOf_eq_ok_iff.mp hcredential
    exact ⟨hname, _, created, _, listed, shown, earlier, secret, later, hposts, rfl, haccepted,
      hsecrets, hearlier, husername, rfl⟩
  · exact run_congr_of_indifferent always_indifferent_createBinding
  · rw [exists_mayPost_createUser_iff]
    exact Identifier.bindingUsername_eq_ok_iff_sameUuid
      (exists_mayPost_deleteUser_iff.mp ⟨deletion, h, rfl⟩)
  · rw [createBinding_of_error h, deleteBinding_of_error h]
    exact ⟨fun outcome => run_done_iff, fun outcome => run_done_iff⟩

/-! ### A user that is there already -/

/-- The answer that rejects a user because it is there already. -/
def userExists : Delivery := .rejection "user already exists"

/-- A binding of `b` is created: its user is created, and the users are listed afterwards. -/
def bindingTrace (created listed : Delivery) : List (Event effects) := [
  ⟨.locate (.recall "b"), some "ns"⟩,
  ⟨.post (.createUser (trial.userCreation "ns" "b" "useru7fwxwgpm5aa7ac4agpil2wdx4")), created⟩,
  ⟨.post (.showUsers (trial.listing "ns" "b")), listed⟩]

theorem bindingUsername_trial :
    Identifier.bindingUsername "a7cb6bd8-cf67-400f-805c-019e85eac3bf" =
      .ok "useru7fwxwgpm5aa7ac4agpil2wdx4" := eq_ok_of_toOption (by decide +kernel)

theorem isReadable_userExists : (userExists.standing .userCreate).isReadable := by decide +kernel

theorem isReadable_success : ((Delivery.success []).standing .userCreate).isReadable := by
  decide +kernel

theorem receive_userExists :
    ∃ envelope, trial.receive .userCreate Json.Reader.json userExists = .ok envelope :=
  exists_receive_of_isReadable isReadable_userExists

theorem run_bindingTrace :
    Run (trial.createBinding "b" "a7cb6bd8-cf67-400f-805c-019e85eac3bf")
      (bindingTrace userExists trialUsers) (.ok ⟨"useru7fwxwgpm5aa7ac4agpil2wdx4", "pw"⟩) := by
  obtain ⟨envelope, hreceive⟩ := receive_userExists
  rw [createBinding_eq bindingUsername_trial]
  refine Run.ask (E := effects) (.locate (.recall "b")) _ (some "ns") ?_
  refine Run.ask (E := effects) (.post (.createUser _)) _ userExists ?_
  dsimp only
  rw [hreceive]
  refine Run.ask (E := effects) (.post (.showUsers _)) _ trialUsers ?_
  rw [accept_eq_ok_iff.mpr accepted_trialUsers]
  exact .done _

/-- The binding gets the password that is listed, whether its user is there already or not, and a
deletion for its ID in capitals is about the user that is created for it. -/
theorem binding_acts_on_own_user_existing :
    Run (trial.createBinding "b" "a7cb6bd8-cf67-400f-805c-019e85eac3bf")
      (bindingTrace userExists trialUsers) (.ok ⟨"useru7fwxwgpm5aa7ac4agpil2wdx4", "pw"⟩) ∧
    Run (trial.createBinding "b" "a7cb6bd8-cf67-400f-805c-019e85eac3bf")
      (bindingTrace (.success []) trialUsers) (.ok ⟨"useru7fwxwgpm5aa7ac4agpil2wdx4", "pw"⟩) ∧
    ∃ deletion creation,
      MayPost (trial.deleteBinding "b" "A7CB6BD8CF67400F805C019E85EAC3BF")
        (.deleteUser deletion) ∧
      MayPost (trial.createBinding "b" "a7cb6bd8-cf67-400f-805c-019e85eac3bf")
        (.createUser creation) ∧ creation.name = deletion.username := by
  obtain ⟨-, hindifferent, hsame, -⟩ :=
    binding_acts_on_own_user trial "b" "a7cb6bd8-cf67-400f-805c-019e85eac3bf"
  have hname : Identifier.bindingUsername "A7CB6BD8CF67400F805C019E85EAC3BF" =
      .ok "useru7fwxwgpm5aa7ac4agpil2wdx4" := eq_ok_of_toOption (by decide +kernel)
  obtain ⟨deletion, hdeletion, -⟩ := exists_mayPost_deleteUser_iff.mpr hname
  obtain ⟨creation, hcreation, husername⟩ := (hsame _ deletion hdeletion).mpr (by decide +kernel)
  refine ⟨run_bindingTrace, ?_, deletion, creation, hdeletion, hcreation, husername⟩
  exact hindifferent [_] _ userExists (.success []) [_] _ isReadable_userExists isReadable_success
    run_bindingTrace

end ServiceBroker.Remote

import ServiceBroker.Proofs.Executor.Prepared
import ServiceBroker.Proofs.Remote.Acceptance
import ServiceBroker.Proofs.Url.Normal

/-!
# Where requests go

An endpoint is named relative to the base URL of the API, and a name takes the place of whatever
stands after the last slash there. That this is nothing is seen to when the executor is prepared: a
slash is put at the end of the base path if there is none. Setting the path anew would be of harm if
it were read in another way then; but the path has been read before, and is left as it is.

## Main definitions

* `Url.Path.withSlash`: a path with a slash at its end

## Main results

* `Url.asBase_of_parse`: the base URL of an API differs from what its text spells by a slash at most
* `Url.join_of_slash`: a name is appended to a path that ends in a slash
* `Remote.endpoints_extend_base_url`: which URL a request is posted to
-/

namespace ServiceBroker

namespace Url

variable {u : Url} {text : String} {front name : List Char}

/-! ### Base URLs -/

/-- The path with a slash at its end. -/
def Path.withSlash (path : List Char) : List Char :=
  if path.getLast? = some '/' then path else path ++ ['/']

theorem Path.exists_withSlash_eq (path : List Char) :
    ∃ front, withSlash path = front ++ ['/'] := by
  unfold withSlash
  by_cases hlast : path.getLast? = some '/'
  · rw [if_pos hlast]
    obtain ⟨front, hfront⟩ := List.getLast?_eq_some_iff.mp hlast
    exact ⟨front, hfront⟩
  · rw [if_neg hlast]
    exact ⟨path, rfl⟩

/-- A slash is put at the end of a path only once. -/
theorem Path.withSlash_withSlash (path : List Char) :
    withSlash (withSlash path) = withSlash path := by
  obtain ⟨front, hfront⟩ := exists_withSlash_eq path
  rw [hfront, withSlash, if_pos List.getLast?_concat]

/-- The base URL of an API is what its text spells, with a slash at the end of the path. -/
theorem asBase_of_parse (h : parse text = .ok u) (hweb : u.scheme.isWeb) :
    u.asBase = { u with path := Path.withSlash u.path } := by
  unfold asBase Path.withSlash
  by_cases hlast : u.path.getLast? = some '/'
  · rw [if_pos hlast, if_pos hlast]
  · rw [if_neg hlast, if_neg hlast]
    exact setPath_of_isNormal (isNormal_path_of_parse h hweb).append_slash

/-- A name is appended to a path that ends in a slash. -/
theorem join_of_slash (h : u.path = front ++ ['/']) :
    u.join name = { u with path := u.path ++ name, query := none, fragment := none } := by
  have hkept : (u.path.reverse.dropWhile (· ≠ '/')).reverse = u.path := by
    rw [h, List.reverse_append]
    simp
  unfold join
  rw [hkept]

end Url

namespace Remote

open Program

variable {s : Settings.Remote} {u : Url}

/-- An executor is prepared with the base URL that its settings spell. -/
theorem baseUrl_of_prepareRemote {ambience : Platform.Ambience}
    {trace : List (Event Files.effects)} {prepared : Executor.Prepared}
    (hparse : Url.parse s.apiserverUrl = .ok u)
    (h : Run (Executor.prepareRemote ambience s) trace (.ok prepared)) :
    ∃ remote : Remote, prepared = .remote remote ∧ remote.baseUrl = u.asBase := by
  obtain ⟨url, -, -, hurl, -, -, -, hprepared⟩ := Executor.run_prepareRemote_ok_iff.mp h
  obtain rfl := Except.ok.inj (hurl.symm.trans hparse)
  exact ⟨_, hprepared, rfl⟩

/-- An endpoint extends the path of the base URL just as it was read. -/
theorem url_of_baseUrl {remote : Remote} (hparse : Url.parse s.apiserverUrl = .ok u)
    (hweb : u.scheme.isWeb) (hremote : remote.baseUrl = u.asBase) (endpoint : Cluster.Endpoint) :
    remote.url endpoint = { u with
      path := Url.Path.withSlash u.path ++ endpoint.name.toList
      query := none
      fragment := none } := by
  have hbase := Url.asBase_of_parse hparse hweb
  obtain ⟨front, hfront⟩ := Url.Path.exists_withSlash_eq u.path
  have hpath : remote.baseUrl.path = front ++ ['/'] := by
    rw [hremote, hbase]
    exact hfront
  rw [url, Url.join_of_slash hpath, hremote, hbase]

/-- Whatever is posted goes to the host and the port of the base URL, without a query. The path is
that of the base URL just as it was read, a slash if it does not end in one, and the name of the
endpoint. Whether the text of the base URL has this slash makes no difference to the executor, which
is ready as soon as the platform is within reach and a client can be made. -/
theorem endpoints_extend_base_url (hparse : Url.parse s.apiserverUrl = .ok u)
    (hweb : u.scheme.isWeb) :
    (∀ ambience trace prepared, Run (Executor.prepareRemote ambience s) trace (.ok prepared) →
      ∃ remote : Remote, prepared = .remote remote ∧ remote.baseUrl = u.asBase ∧
        ∀ op events q, Reaches (remote.perform op) events q →
          ∀ m answer, (m, answer) ∈ posts events → remote.url m.endpoint = { u with
            path := Url.Path.withSlash u.path ++ m.endpoint.name.toList
            query := none
            fragment := none }) ∧
    (∀ remote : Remote, remote.baseUrl = u.asBase → ∀ m : Cluster.Message,
      remote.url m.endpoint = { u with
        path := Url.Path.withSlash u.path ++ m.endpoint.name.toList
        query := none
        fragment := none }) ∧
    (∀ text, Url.parse text = .ok { u with path := Url.Path.withSlash u.path } → ∀ ambience,
      Executor.prepareRemote ambience { s with apiserverUrl := text } =
        Executor.prepareRemote ambience s) ∧
    ∀ ambience trace, (∃ prepared, Run (Executor.prepareRemote ambience s) trace (.ok prepared)) ↔
      ∃ first second, trace = first ++ second ∧
        Run (Platform.connect ambience s.kubeconfig) first (.ok ()) ∧
        Run (Tls.prepare .standard) second (.ok ()) := by
  have hbase := Url.asBase_of_parse hparse hweb
  refine ⟨fun ambience trace prepared h => ?_,
    fun remote hremote m => url_of_baseUrl hparse hweb hremote m.endpoint,
    fun text htext ambience => ?_, fun ambience trace => ⟨fun h => ?_, fun h => ?_⟩⟩
  · obtain ⟨remote, hprepared, hremote⟩ := baseUrl_of_prepareRemote hparse h
    exact ⟨remote, hprepared, hremote, fun op events q hq m answer hposted =>
      url_of_baseUrl hparse hweb hremote m.endpoint⟩
  · have hsame : ({ u with path := Url.Path.withSlash u.path } : Url).asBase = u.asBase := by
      rw [hbase, Url.asBase_of_parse htext hweb]
      dsimp only
      rw [Url.Path.withSlash_withSlash]
    unfold Executor.prepareRemote
    dsimp only
    rw [hparse, htext]
    dsimp only
    rw [hsame]
  · obtain ⟨prepared, hrun⟩ := h
    obtain ⟨-, first, second, -, htrace, hconnect, hclient, -⟩ :=
      Executor.run_prepareRemote_ok_iff.mp hrun
    exact ⟨first, second, htrace, hconnect, hclient⟩
  · obtain ⟨first, second, htrace, hconnect, hclient⟩ := h
    exact ⟨_, Executor.run_prepareRemote_ok_iff.mpr
      ⟨u, first, second, hparse, htrace, hconnect, hclient, rfl⟩⟩

/-- Default settings with this base URL. -/
def settingsFor (apiserverUrl : String) : Settings.Remote where
  apiserverUrl := apiserverUrl
  clientVersion := "4.0.1"
  username := "admin"
  password := "secret"
  requestTimeout := 30
  insecureSkipVerify := false
  instanceLabelKey := "pgo-osb-instance"
  kubeconfig := none

/-- An order is the first thing that is posted. -/
theorem exists_reaches_createCluster (remote : Remote) (order : Cluster.Order) :
    ∃ m answer q, m.endpoint = .clusters ∧
      Reaches (remote.perform (.createCluster order)) [⟨.post m, answer⟩] q :=
  ⟨_, .dropped, _, rfl, .ask _ _ _ (.refl _)⟩

/-- Below a prefix with an encoded slash and a segment of one dot, which is gone once it is read. In
a pod an executor is ready for it, and posts an order there. -/
theorem endpoints_extend_base_url_prefix :
    let text := "HTTPS://api:8443/a%2fb/./x?q#f"
    let u : Url := ⟨.https, [], [], some (.name "api".toList), some 8443, "/a%2fb/x".toList,
      some ['q'], some ['f']⟩
    Url.parse text = .ok u ∧ u.scheme.isWeb ∧
      (∀ remote : Remote, remote.baseUrl = u.asBase →
        (remote.url .clusters).write = "https://api:8443/a%2fb/x/clusters".toList) ∧
      (∀ ambience, Executor.prepareRemote ambience (settingsFor "https://api:8443/a%2fb/x/?q#f") =
        Executor.prepareRemote ambience (settingsFor text)) ∧
      ∃ remote : Remote, Run (Executor.prepareRemote Platform.Pod.environment (settingsFor text))
          (Platform.Pod.reads ++ Tls.SelfSigned.reads) (.ok (.remote remote)) ∧
        ∀ order, ∃ m answer q,
          Reaches (remote.perform (.createCluster order)) [⟨.post m, answer⟩] q ∧
          (remote.url m.endpoint).write = "https://api:8443/a%2fb/x/clusters".toList := by
  intro text u
  have hparse : Url.parse text = .ok u := eq_ok_of_toOption (by decide +kernel)
  have hslash : Url.parse "https://api:8443/a%2fb/x/?q#f" =
      .ok { u with path := Url.Path.withSlash u.path } := eq_ok_of_toOption (by decide +kernel)
  obtain ⟨hposted, hurl, hsame, -⟩ := endpoints_extend_base_url (s := settingsFor text) hparse rfl
  refine ⟨hparse, rfl, fun remote hremote => ?_, fun ambience => hsame _ hslash ambience, ?_⟩
  · have hcreated := hurl remote hremote (.createCluster ⟨"", "", "", "", Plan.resolve ""⟩)
    have hendpoint : remote.url .clusters = _ := hcreated
    rw [hendpoint]
    decide
  · have hrun := Executor.run_prepareRemote_pod (s := settingsFor text) hparse rfl
    obtain ⟨remote, hprepared, -, hposts⟩ := hposted _ _ _ hrun
    rw [hprepared] at hrun
    refine ⟨remote, hrun, fun order => ?_⟩
    obtain ⟨m, answer, q, hm, hq⟩ := exists_reaches_createCluster remote order
    refine ⟨m, answer, q, hq, ?_⟩
    rw [hposts _ _ _ hq m answer (.head _), hm]
    decide

end Remote

end ServiceBroker

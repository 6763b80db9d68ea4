import ServiceBroker.Executor.InMemory
import ServiceBroker.Proofs.Broker.Address

/-!
# What the executor in memory keeps

Every operation keeps the tables in order: each binding is counted once, belongs to an instance that
exists and has the credential that follows from its ID. All clusters are at one address, so the
connection document of a binding follows from its ID as well.

## Main definitions

* `InMemory.Valid`: the tables are in order
* `InMemory.connectionFor`: the connection document of a binding

## Main results

* `InMemory.Valid.perform`: every operation keeps the tables in order
* `InMemory.ofCredential_detailsFor`: the document that a binding is given
-/

namespace ServiceBroker

namespace InMemory

variable {s : InMemory}

/-- The tables are in order. -/
structure Valid (s : InMemory) : Prop where
  bindings_nodup : s.bindings.keys.Nodup
  details_eq {id : String} {details : Cluster.Details} :
    s.instances.find? id = some details → ∃ order, details = detailsFor order
  credential_eq {id bindingId : String} {credential : Credential} :
    s.bindings.find? (id, bindingId) = some credential → credential = credentialFor bindingId
  /-- There is no binding without its instance. -/
  bound {id bindingId : String} : (s.bindings.find? (id, bindingId)).isSome →
    (s.instances.find? id).isSome

theorem valid_empty : Valid empty where
  bindings_nodup := List.nodup_nil
  details_eq := nofun
  credential_eq := nofun
  bound := nofun

/-- The instance has a binding if one is kept under its ID. -/
theorem hasBindings_iff {id : String} :
    s.hasBindings id ↔ ∃ bindingId, (s.bindings.find? (id, bindingId)).isSome := by
  unfold hasBindings
  rw [List.any_eq_true]
  constructor
  · rintro ⟨⟨id', bindingId⟩, hmem, heq⟩
    obtain rfl : id' = id := by simpa using heq
    exact ⟨bindingId, Table.isSome_find?_iff.mpr hmem⟩
  · rintro ⟨bindingId, hfind⟩
    exact ⟨(id, bindingId), Table.isSome_find?_iff.mp hfind, by simp⟩

namespace Valid

/-- A new cluster, or another in the place of one, keeps the tables in order. -/
theorem createCluster (h : s.Valid) (order : Cluster.Order) :
    Valid { s with instances := s.instances.put order.instanceId (detailsFor order) } where
  bindings_nodup := h.bindings_nodup
  details_eq {id details} hfind := by
    rw [Table.find?_put] at hfind
    split at hfind
    · exact ⟨order, (Option.some.inj hfind).symm⟩
    · exact h.details_eq hfind
  credential_eq := h.credential_eq
  bound {id bindingId} hfind := by
    rw [Table.find?_put]
    split
    · rfl
    · exact h.bound hfind

/-- Deleting a cluster that has no bindings keeps the tables in order. -/
theorem deleteCluster (h : s.Valid) {id : String} (hbindings : ¬ s.hasBindings id) :
    Valid { s with instances := s.instances.erase id } where
  bindings_nodup := h.bindings_nodup
  details_eq {id' details} hfind := by
    rw [Table.find?_erase] at hfind
    split at hfind
    · cases hfind
    · exact h.details_eq hfind
  credential_eq := h.credential_eq
  bound {id' bindingId} hfind := by
    rw [Table.find?_erase, if_neg]
    · exact h.bound hfind
    · -- The instance of a binding is not the one that is erased, for that has no bindings.
      rintro rfl
      exact hbindings (hasBindings_iff.mpr ⟨bindingId, hfind⟩)

/-- A new binding of an instance that exists keeps the tables in order. -/
theorem createBinding (h : s.Valid) {id : String} (bindingId : String)
    (hinstance : (s.instances.find? id).isSome) :
    Valid { s with bindings := s.bindings.put (id, bindingId) (credentialFor bindingId) } where
  bindings_nodup := Table.keys_nodup_put h.bindings_nodup _ _
  details_eq := h.details_eq
  credential_eq {id' bindingId' credential} hfind := by
    rw [Table.find?_put] at hfind
    split at hfind
    · next heq =>
      obtain ⟨-, rfl⟩ := Prod.mk.inj heq
      exact (Option.some.inj hfind).symm
    · exact h.credential_eq hfind
  bound {id' bindingId'} hfind := by
    rw [Table.find?_put] at hfind
    split at hfind
    · next heq =>
      obtain ⟨rfl, -⟩ := Prod.mk.inj heq
      exact hinstance
    · exact h.bound hfind

/-- Without a binding the tables are still in order. -/
theorem deleteBinding (h : s.Valid) (id bindingId : String) :
    Valid { s with bindings := s.bindings.erase (id, bindingId) } where
  bindings_nodup := Table.keys_nodup_erase h.bindings_nodup _
  details_eq := h.details_eq
  credential_eq {id' bindingId' credential} hfind := by
    rw [Table.find?_erase] at hfind
    split at hfind
    · cases hfind
    · exact h.credential_eq hfind
  bound {id' bindingId'} hfind := by
    rw [Table.find?_erase] at hfind
    split at hfind
    · cases hfind
    · exact h.bound hfind

/-- Every operation keeps the tables in order. -/
theorem perform (h : s.Valid) (op : Executor.Operation) : (InMemory.perform op s).2.Valid := by
  cases op with
  | createCluster order => exact h.createCluster order
  | deleteCluster id =>
    unfold InMemory.perform
    dsimp only
    split
    · exact h
    · split
      · exact h
      · next hbindings => exact h.deleteCluster hbindings
  | createBinding id bindingId appId =>
    unfold InMemory.perform
    dsimp only
    split
    · exact h
    · next hfind =>
      split
      · exact h
      · exact h.createBinding bindingId (by rw [hfind]; rfl)
  | deleteBinding id bindingId => exact h.deleteBinding id bindingId
  | clusterDetail id =>
    unfold InMemory.perform
    dsimp only
    split
    · exact h
    · exact h

end Valid

/-! ### What a binding asks for -/

theorem perform_clusterDetail (id : String) :
    InMemory.perform (.clusterDetail id) s =
      match s.instances.find? id with
      | none => (.error (.instanceNotFound id), s)
      | some details => (.ok details, s) := rfl

theorem perform_createBinding_of_none {id : String} (bindingId : String) (appId : Option String)
    (hfind : s.instances.find? id = none) :
    InMemory.perform (.createBinding id bindingId appId) s =
      (.error (.instanceNotFound id), s) := by
  unfold InMemory.perform
  dsimp only
  rw [hfind]

/-- A binding that exists already is left as it is, and has the credential of a new one. -/
theorem Valid.perform_createBinding (hs : s.Valid) {id : String} (bindingId : String)
    (appId : Option String) (hfind : s.instances.find? id ≠ none) :
    InMemory.perform (.createBinding id bindingId appId) s =
      (.ok (credentialFor bindingId),
        if s.bindings.find? (id, bindingId) = none then
          { s with bindings := s.bindings.put (id, bindingId) (credentialFor bindingId) }
        else s) := by
  obtain ⟨details, hdetails⟩ := Option.ne_none_iff_exists'.mp hfind
  unfold InMemory.perform
  dsimp only
  rw [hdetails]
  cases hbinding : s.bindings.find? (id, bindingId) with
  | none => rfl
  | some credential =>
    dsimp only
    rw [hs.credential_eq hbinding]
    rfl

/-! ### Connection documents -/

/-- The connection URL of every cluster, without credentials. -/
def address : Url where
  scheme := .other Connection.scheme.toList
  username := []
  password := []
  host := some (.name "198.51.100.42".toList)
  port := some Connection.databasePort
  path := "/userdb".toList
  query := none
  fragment := none

/-- The connection document of a binding. -/
def connectionFor (bindingId : String) : Connection where
  username := usernameFor bindingId
  password := password
  port := Connection.databasePort
  database := "userdb"
  host := "198.51.100.42"
  internalHost := "10.10.33.44"
  uri := String.ofList { address with
    username := Percent.encode Url.inUserinfoSet (usernameFor bindingId).toList
    password := Percent.encode Url.inUserinfoSet password.toList }.write

/-- The address of every cluster passes the check. -/
theorem base_detailsFor (order : Cluster.Order) :
    Connection.base (detailsFor order).advertisedHost (detailsFor order).database =
      .ok address := by
  change Connection.base "198.51.100.42" "userdb" = .ok address
  exact eq_ok_of_toOption (by decide +kernel)

/-- The document that a binding is given depends on its ID only. -/
theorem ofCredential_detailsFor (order : Cluster.Order) (bindingId : String) :
    Connection.ofCredential (detailsFor order) address (credentialFor bindingId) =
      .ok (connectionFor bindingId) := rfl

end InMemory

end ServiceBroker

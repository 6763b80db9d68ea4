/-!
# Finite tables

## Main definitions

* `Table`: values under distinct keys, the latest key first
* `Table.find?`, `Table.put`, `Table.erase`

## Main results

* `Table.isSome_find?_iff`: something is found exactly under the keys
* `Table.find?_put`, `Table.find?_erase`: what is found after a change
* `Table.keys_nodup_put`, `Table.keys_nodup_erase`: keys stay distinct
-/

namespace ServiceBroker

/-- Values under keys. -/
abbrev Table (κ α : Type) := List (κ × α)

namespace Table

variable {κ α : Type} [DecidableEq κ]

/-- The value under a key. -/
def find? : Table κ α → κ → Option α
  | [], _ => none
  | (k, a) :: rest, key => if key = k then some a else find? rest key

/-- The table without a key. -/
def erase : Table κ α → κ → Table κ α
  | [], _ => []
  | (k, a) :: rest, key => if key = k then erase rest key else (k, a) :: erase rest key

/-- The table with a value under a key, in the place of an earlier one. -/
def put (t : Table κ α) (key : κ) (a : α) : Table κ α := (key, a) :: t.erase key

/-- The keys of a table. -/
def keys (t : Table κ α) : List κ := t.map (·.1)

omit [DecidableEq κ] in
@[simp] theorem keys_nil : keys ([] : Table κ α) = [] := rfl

omit [DecidableEq κ] in
@[simp] theorem keys_cons (k : κ) (a : α) (t : Table κ α) : keys ((k, a) :: t) = k :: t.keys := rfl

/-- Something is found exactly under the keys of a table. -/
theorem isSome_find?_iff {t : Table κ α} {key : κ} : (t.find? key).isSome ↔ key ∈ t.keys := by
  induction t with
  | nil => simp [find?]
  | cons entry t ih =>
    obtain ⟨k, a⟩ := entry
    rw [find?, keys_cons, List.mem_cons]
    by_cases hk : key = k
    · simp [hk]
    · simp [hk, ih]

/-- Without a key nothing is found under it, and everything else as before. -/
theorem find?_erase (t : Table κ α) (key k : κ) :
    (t.erase key).find? k = if k = key then none else t.find? k := by
  induction t with
  | nil => simp [erase, find?]
  | cons m rest ih => grind [erase, find?]

/-- A value is found under the key that it was put under, and everything else as before. -/
theorem find?_put (t : Table κ α) (key k : κ) (a : α) :
    (t.put key a).find? k = if k = key then some a else t.find? k := by
  simp only [put, find?, find?_erase]
  split <;> rfl

theorem mem_keys_erase {t : Table κ α} {key k : κ} :
    k ∈ (t.erase key).keys ↔ k ∈ t.keys ∧ k ≠ key := by
  induction t with
  | nil => simp [erase]
  | cons m rest ih => grind [erase, keys_cons]

/-- Leaving out a key keeps the others distinct. -/
theorem keys_nodup_erase {t : Table κ α} (h : t.keys.Nodup) (key : κ) :
    (t.erase key).keys.Nodup := by
  induction t with
  | nil => simp [erase]
  | cons m rest ih =>
    obtain ⟨k, a⟩ := m
    simp only [keys_cons, List.nodup_cons] at h
    unfold erase
    split
    · exact ih h.2
    · exact List.nodup_cons.2 ⟨fun hk => h.1 (mem_keys_erase.1 hk).1, ih h.2⟩

/-- Putting a value keeps the keys distinct. -/
theorem keys_nodup_put {t : Table κ α} (h : t.keys.Nodup) (key : κ) (a : α) :
    (t.put key a).keys.Nodup :=
  List.nodup_cons.2 ⟨fun hk => (mem_keys_erase.1 hk).2 rfl, keys_nodup_erase h key⟩

end Table

end ServiceBroker

import Mathlib.Data.List.Forall2
import ServiceBroker.Proofs.Json.Record

/-!
# What values read

The readers of single values succeed on one kind of value each. An object with members of any kind
keeps the last of several members with the same key.

## Main definitions

* `Json.Node.text?`, `Json.Node.member?`: the text of a string, and the last member with a key

## Main results

* `Json.Members.find?_ofList`: of several members with the same key the last one counts
* `Json.Reader.fromText_eq_ok_iff`: what is read of a text
* `Json.Reader.stringAs_eq_ok_iff`, `Json.Reader.option_eq_ok_iff`: what is read as a single value
* `Json.Reader.members_eq_ok_iff`: what is read as an object with members of any kind
* `Json.Reader.find?_members_eq_string_iff`: the strings in such an object
-/

namespace ServiceBroker.Json

variable {α : Type} {ctx : Context} {n : Node} {entries : Entries} {key : String}

/-! ### Repeated keys -/

/-- Of several members with the same key the last one counts. -/
theorem Members.find?_ofList (members : List (String × Json)) (key : String) :
    (Members.ofList members).find? key = members.reverse.lookup key := by
  have hfold (before : Members) :
      (members.foldl (fun acc m => Members.insert m.1 m.2 acc) before).find? key =
        (members.reverse.lookup key).or (before.find? key) := by
    induction members generalizing before with
    | nil => rfl
    | cons m members ih =>
      obtain ⟨k, value⟩ := m
      rw [List.foldl_cons, ih, Members.find?_insert, List.reverse_cons, List.lookup_append]
      cases List.lookup key members.reverse with
      | some value => rfl
      | none =>
        by_cases heq : key = k
        · subst heq
          simp
        · have hne : (key == k) = false := beq_eq_false_iff_ne.mpr heq
          simp [List.lookup_cons, heq, hne]
  rw [Members.ofList, hfold, Members.find?, Option.or_none]

namespace Node

/-- The text of a string. -/
def text? : Node → Option String
  | .string _ (.ok text) => some text
  | _ => none

/-- The last member of an object with a key. -/
def member? (key : String) : Node → Option Node
  | .object _ _ entries => entries.listed.reverse.lookup key
  | _ => none

theorem text?_eq_some_iff {s : String} : n.text? = some s ↔ ∃ span, n = .string span (.ok s) := by
  constructor
  · intro h
    unfold text? at h
    split at h
    · next span text =>
      cases h
      exact ⟨span, rfl⟩
    · cases h
  · rintro ⟨span, rfl⟩
    rfl

end Node

namespace Reader

/-! ### Whole texts -/

/-- A text is read if its first value is, and nothing follows that. -/
theorem fromText_eq_ok_iff {r : Reader α} {text : List UInt8} {a : α} :
    r.fromText text = .ok a ↔ r ⟨.text, maxDepth⟩ (Document.ofText text).root = .ok a ∧
      (Document.ofText text).trailing = none := by
  unfold fromText
  dsimp only
  cases r ⟨.text, maxDepth⟩ (Document.ofText text).root with
  | error e => exact iff_of_false nofun nofun
  | ok a' =>
    cases (Document.ofText text).trailing with
    | some fault => exact iff_of_false nofun nofun
    | none => simp

/-! ### Single values -/

theorem stringAs_eq_ok_iff {expected s : String} :
    stringAs expected ctx n = .ok s ↔ n.text? = some s := by
  rw [Node.text?_eq_some_iff]
  constructor
  · intro h
    unfold stringAs at h
    split at h
    · next span s' =>
      cases h
      exact ⟨span, rfl⟩
    · exact absurd h wrongType_ne_ok
  · rintro ⟨span, rfl⟩
    rfl

/-- A value or null. -/
theorem option_eq_ok_iff {r : Reader α} {x : Option α} :
    option r ctx n = .ok x ↔ (∃ span, n = .literal span .null) ∧ x = none ∨
      (∀ span, n ≠ .literal span .null) ∧ ∃ a, r ctx n = .ok a ∧ x = some a := by
  by_cases hnull : ∃ span, n = .literal span .null
  · obtain ⟨span, rfl⟩ := hnull
    constructor
    · intro h
      exact .inl ⟨⟨span, rfl⟩, (Except.ok.inj h).symm⟩
    · rintro (⟨-, rfl⟩ | ⟨hne, -⟩)
      · rfl
      · exact absurd rfl (hne span)
  · have hne : ∀ span, n ≠ .literal span .null := fun span h => hnull ⟨span, h⟩
    have hread : option r ctx n = (r ctx n).map some := by
      unfold option
      split
      · next span => exact absurd rfl (hne span)
      · rfl
    rw [hread]
    cases hr : r ctx n with
    | error e => simp [Except.map, hnull]
    | ok a => simp [Except.map, hne, eq_comm]

/-! ### Objects with members of any kind -/

theorem json_eq_string_iff {s : String} : json ctx n = .ok (.string s) ↔ n.text? = some s := by
  rw [Node.text?_eq_some_iff]
  constructor
  · intro h
    cases n with
    | literal span value => cases value <;> cases h
    | number span value => cases value <;> cases h
    | string span value =>
      cases value with
      | ok s' =>
        cases h
        exact ⟨span, rfl⟩
      | error fault => cases h
    | list span skipped items =>
      rw [json] at h
      obtain ⟨inner, -, hrest⟩ := bind_eq_ok_iff.mp h
      obtain ⟨js, -, hjs⟩ := bind_eq_ok_iff.mp hrest
      cases hjs
    | object span skipped entries =>
      rw [json] at h
      obtain ⟨inner, -, hrest⟩ := bind_eq_ok_iff.mp h
      obtain ⟨js, -, hjs⟩ := bind_eq_ok_iff.mp hrest
      cases hjs
    | broken start faults => cases h
  · rintro ⟨span, rfl⟩
    rfl

/-- The members that are read are those that the text lists, one for one. -/
theorem forall₂_of_jsonEntries : ∀ {entries : Entries} {js : List (String × Json)},
    jsonEntries ctx entries = .ok js →
      List.Forall₂ (fun m j => m.1 = j.1 ∧ json ctx m.2 = .ok j.2) entries.listed js
  | .closed, js, h => by
    obtain rfl := Except.ok.inj h
    exact .nil
  | .halted .., js, h => nomatch h
  | .cons (.error fault) .., js, h => nomatch h
  | .cons (.ok key) keySettled value settled rest, js, h => by
    obtain ⟨j, hj, hrest⟩ := bind_eq_ok_iff.mp h
    obtain ⟨js', hjs', hcons⟩ := bind_eq_ok_iff.mp hrest
    obtain rfl := Except.ok.inj hcons
    exact .cons ⟨rfl, hj⟩ (forall₂_of_jsonEntries hjs')

/-- Where members go with each other one for one, so do the values under each key. -/
theorem lookup_of_forall₂ {R : Node → Json → Prop} {members : List (String × Node)}
    {js : List (String × Json)}
    (h : List.Forall₂ (fun m j => m.1 = j.1 ∧ R m.2 j.2) members js) (key : String) :
    (members.lookup key = none ∧ js.lookup key = none) ∨
      ∃ n j, members.lookup key = some n ∧ js.lookup key = some j ∧ R n j := by
  induction h with
  | nil => exact .inl ⟨rfl, rfl⟩
  | @cons m j members js hhead _ ih =>
    obtain ⟨k, n⟩ := m
    obtain ⟨k', j⟩ := j
    obtain ⟨rfl, hj⟩ : k = k' ∧ R n j := hhead
    rw [List.lookup_cons, List.lookup_cons]
    cases key == k with
    | true => exact .inr ⟨n, j, rfl, rfl, hj⟩
    | false => exact ih

theorem members_eq_ok_iff {members : Members} : Reader.members ctx n = .ok members ↔
    ∃ span skipped entries inner js, n = .object span skipped entries ∧
      ctx.enter span.start = .ok inner ∧ jsonEntries inner entries = .ok js ∧
      members = Members.ofList js := by
  constructor
  · intro h
    cases n with
    | object span skipped entries =>
      obtain ⟨inner, hinner, hrest⟩ := bind_eq_ok_iff.mp h
      obtain ⟨js, hjs, hmembers⟩ := bind_eq_ok_iff.mp hrest
      exact ⟨span, skipped, entries, inner, js, rfl, hinner, hjs, (Except.ok.inj hmembers).symm⟩
    | literal | number | string | list | broken =>
      unfold Reader.members at h
      exact absurd h wrongType_ne_ok
  · rintro ⟨span, skipped, entries, inner, js, rfl, hinner, hjs, rfl⟩
    exact bind_eq_ok_iff.mpr ⟨inner, hinner, bind_eq_ok_iff.mpr ⟨js, hjs, rfl⟩⟩

/-- The string under a key of an object is that of the last member with this key in the text. -/
theorem find?_members_eq_string_iff {members : Members} (h : Reader.members ctx n = .ok members)
    {s : String} :
    members.find? key = some (.string s) ↔ (n.member? key).bind Node.text? = some s := by
  obtain ⟨span, skipped, entries, inner, js, rfl, -, hjs, rfl⟩ := members_eq_ok_iff.mp h
  rw [Members.find?_ofList, Node.member?]
  have hread := List.rel_reverse (forall₂_of_jsonEntries hjs)
  rcases lookup_of_forall₂ (R := fun n j => json inner n = .ok j) hread key with
    ⟨hn, hj⟩ | ⟨n, j, hn, hj, hjson⟩
  · rw [hn, hj]
    exact iff_of_false nofun nofun
  · rw [hn, hj, Option.bind_some, ← json_eq_string_iff, hjson]
    simp

end Reader

end ServiceBroker.Json

import ServiceBroker.Json.Record
import ServiceBroker.Proofs.Outcome

/-!
# What records read

A record is read from an object whose members may stand in any order, or from a list. Either way
each of its fields is found under its name, and the record is built from what the readers of its
fields make of that. Members that are no fields are passed over.

## Main definitions

* `Json.Entries.listed`, `Json.Items.listed`: what the text of an object or a list lists
* `Json.Entries.Lists`: an object that is listed to its end
* `Json.Node.field?`: the value of a field of a record
* `Json.Record.IsConsistent`: a record whose checks pass if it can be built

## Main results

* `Json.Record.build_map_eq_ok_iff`, `Json.Record.build_seq_eq_ok_iff`,
  `Json.Record.build_required_eq_ok_iff`, `Json.Record.build_withDefault_eq_ok_iff`: what a record
  is built from
* `Json.Record.exists_build_of_reader`: a record that is read is built from its fields
* `Json.Record.reader_of_lists`: a record is read from an object that lists its fields
-/

namespace ServiceBroker.Json

variable {α β : Type} {ctx : Context} {slots : Slots} {name title : String} {n : Node}
  {entries : Entries} {items : Items} {members : List (String × Node)}

/-! ### What a text lists -/

/-- The members of an object in the order of its text, up to the first that has no key. -/
def Entries.listed : Entries → List (String × Node)
  | .cons (.ok key) _ value _ rest => (key, value) :: rest.listed
  | .cons (.error _) .. | .closed | .halted .. => []

/-- The items of a list in the order of its text. -/
def Items.listed : Items → List Node
  | .cons value _ rest => value :: rest.listed
  | .closed | .halted _ => []

/-- The object has these members, and its text goes on to its end. -/
inductive Entries.Lists : Entries → List (String × Node) → Prop where
  | closed : Lists .closed []
  | cons {rest : Entries} {members : List (String × Node)} (key : String) (value : Node)
      (keySettled settled : Nat) :
      Lists rest members → Lists (.cons (.ok key) keySettled value settled rest)
        ((key, value) :: members)

theorem Entries.Lists.listed_eq (h : entries.Lists members) : entries.listed = members := by
  induction h with
  | closed => rfl
  | cons key value keySettled settled _ ih => exact congrArg ((key, value) :: ·) ih

/-- The value of a field in a record with fields of these names. -/
def Node.field? (names : List String) (name : String) : Node → Option Node
  | .object _ _ entries => entries.listed.lookup name
  | .list _ _ items => (names.zip items.listed).lookup name
  | .literal .. | .number .. | .string .. | .broken .. => none

/-! ### Looking up -/

theorem mem_of_lookup {γ : Type} {l : List (String × γ)} {c : γ} (h : l.lookup name = some c) :
    (name, c) ∈ l := by
  obtain ⟨before, after, rfl, -⟩ := List.lookup_eq_some_iff.mp h
  exact List.mem_append_right _ List.mem_cons_self

theorem lookup_of_mem {γ : Type} {l : List (String × γ)} (hnodup : (l.map (·.1)).Nodup)
    {m : String × γ} (hm : m ∈ l) : l.lookup m.1 = some m.2 := by
  obtain ⟨before, after, rfl⟩ := List.append_of_mem hm
  refine List.lookup_eq_some_iff.mpr ⟨before, after, rfl, fun p hp => ?_⟩
  rw [List.map_append, List.map_cons, List.nodup_append] at hnodup
  exact bne_iff_ne.mpr (hnodup.2.2 p.1 (List.mem_map_of_mem hp) m.1 List.mem_cons_self).symm

/-! ### Success of readers -/

/-- Where an error came to light makes no difference to what is read. -/
theorem Context.place_eq_ok_iff {offset : Nat} {x : Except ReadError α} {a : α} :
    ctx.place offset x = .ok a ↔ x = .ok a := by
  cases x with
  | ok b => exact Iff.rfl
  | error e =>
    obtain ⟨cause, offset⟩ := e
    cases offset with
    | none => exact iff_of_false nofun nofun
    | some offset => exact iff_of_false nofun nofun

/-- A value of the wrong type is never read. -/
theorem Reader.wrongType_ne_ok {expected : String} {a : α} : wrongType expected ctx n ≠ .ok a := by
  unfold wrongType
  split <;> exact nofun

theorem Reader.map_eq_ok_iff {f : α → β} {r : Reader α} {b : β} :
    r.map f ctx n = .ok b ↔ ∃ a, r ctx n = .ok a ∧ b = f a := by
  unfold Reader.map
  cases r ctx n with
  | ok a =>
    constructor
    · intro h
      exact ⟨a, rfl, (Except.ok.inj h).symm⟩
    · rintro ⟨a', ha, rfl⟩
      cases ha
      rfl
  | error e => exact iff_of_false nofun fun ⟨_, h, _⟩ => nomatch h

namespace Record

/-! ### What a record is built from -/

theorem build_seq_eq_ok_iff {f : Record (α → β)} {r : Record α} {b : β} :
    (f <*> r).build ctx slots = .ok b ↔
      ∃ g a, f.build ctx slots = .ok g ∧ r.build ctx slots = .ok a ∧ b = g a := by
  have hbuild : (f <*> r).build ctx slots =
      (f.build ctx slots).bind fun g => (r.build ctx slots).bind fun a => .ok (g a) := rfl
  rw [hbuild, bind_eq_ok_iff]
  constructor
  · rintro ⟨g, hg, hrest⟩
    obtain ⟨a, ha, hb⟩ := bind_eq_ok_iff.mp hrest
    exact ⟨g, a, hg, ha, (Except.ok.inj hb).symm⟩
  · rintro ⟨g, a, hg, ha, rfl⟩
    exact ⟨g, hg, bind_eq_ok_iff.mpr ⟨a, ha, rfl⟩⟩

theorem build_map_eq_ok_iff {f : α → β} {r : Record α} {b : β} :
    (f <$> r).build ctx slots = .ok b ↔ ∃ a, r.build ctx slots = .ok a ∧ b = f a := by
  change (pure f <*> r : Record β).build ctx slots = .ok b ↔ _
  rw [build_seq_eq_ok_iff]
  constructor
  · rintro ⟨g, a, hg, ha, rfl⟩
    cases hg
    exact ⟨a, ha, rfl⟩
  · rintro ⟨a, ha, rfl⟩
    exact ⟨f, a, rfl, ha, rfl⟩

theorem build_required_eq_ok_iff {r : Reader α} {a : α} :
    (required name r).build ctx slots = .ok a ↔
      ∃ n, slots.find? name = some n ∧ r ctx n = .ok a := by
  cases hfound : slots.find? name with
  | none =>
    simp only [required, hfound]
    exact iff_of_false nofun nofun
  | some n => simp only [required, hfound, Option.some.injEq, exists_eq_left']

theorem build_withDefault_eq_ok_iff {r : Reader α} {default a : α} :
    (withDefault name r default).build ctx slots = .ok a ↔
      (∃ n, slots.find? name = some n ∧ r ctx n = .ok a) ∨
        slots.find? name = none ∧ a = default := by
  cases hfound : slots.find? name with
  | none => simp [withDefault, hfound, eq_comm]
  | some n => simp [withDefault, hfound]

@[simp] theorem fields_seq (f : Record (α → β)) (r : Record α) :
    (f <*> r).fields = f.fields ++ r.fields := rfl

@[simp] theorem fields_map (f : α → β) (r : Record α) : (f <$> r).fields = r.fields := rfl

/-- Wherever the record can be built, the values of its fields pass their checks. -/
def IsConsistent (r : Record α) : Prop :=
  ∀ ctx slots a, r.build ctx slots = .ok a → ∀ name check, (name, check) ∈ r.fields →
    ∀ n, slots.find? name = some n → check ctx n = .ok ()

theorem IsConsistent.seq {f : Record (α → β)} {r : Record α} (hf : f.IsConsistent)
    (hr : r.IsConsistent) : (f <*> r).IsConsistent := by
  intro ctx slots b hb name check hfield
  obtain ⟨g, a, hg, ha, -⟩ := build_seq_eq_ok_iff.mp hb
  rw [fields_seq] at hfield
  rcases List.mem_append.mp hfield with hfield | hfield
  · exact hf ctx slots g hg name check hfield
  · exact hr ctx slots a ha name check hfield

theorem IsConsistent.map {f : α → β} {r : Record α} (hr : r.IsConsistent) :
    (f <$> r).IsConsistent := by
  intro ctx slots b hb name check hfield
  obtain ⟨a, ha, -⟩ := build_map_eq_ok_iff.mp hb
  exact hr ctx slots a ha name check hfield

theorem isConsistent_required (name : String) (r : Reader α) :
    (required name r).IsConsistent := by
  intro ctx slots a ha name' check hfield n hn
  obtain ⟨rfl, rfl⟩ := Prod.mk.inj (List.mem_singleton.mp hfield)
  obtain ⟨n', hn', hread⟩ := build_required_eq_ok_iff.mp ha
  obtain rfl : n = n' := Option.some.inj (hn.symm.trans hn')
  exact Reader.map_eq_ok_iff.mpr ⟨a, hread, rfl⟩

theorem isConsistent_withDefault (name : String) (r : Reader α) (default : α) :
    (withDefault name r default).IsConsistent := by
  intro ctx slots a ha name' check hfield n hn
  obtain ⟨rfl, rfl⟩ := Prod.mk.inj (List.mem_singleton.mp hfield)
  rcases build_withDefault_eq_ok_iff.mp ha with ⟨n', hn', hread⟩ | ⟨hnone, -⟩
  · obtain rfl : n = n' := Option.some.inj (hn.symm.trans hn')
    exact Reader.map_eq_ok_iff.mpr ⟨a, hread, rfl⟩
  · rw [hn] at hnone
    cases hnone

/-! ### Objects -/

/-- What has been collected of an object are the values of the fields in it. -/
theorem lookup_collect {fields : List (String × Reader Unit)} {found found' : List (String × Node)}
    (h : collect fields ctx found entries = .ok found') {check : Reader Unit}
    (hfield : fields.lookup name = some check) :
    found'.lookup name = (found.lookup name).or (entries.listed.lookup name) := by
  fun_induction collect fields ctx found entries with
  | case1 found =>
    cases h
    rw [Entries.listed, List.lookup_nil, Option.or_none]
  | case2 | case3 => cases h
  | case4 found key keySettled value settled rest hunknown fault hfault => cases h
  | case5 found key keySettled value settled rest hunknown hfault ih =>
    -- A member that is no field has another name.
    have hne : (name == key) = false := by
      refine beq_eq_false_iff_ne.mpr fun heq => ?_
      rw [heq, hunknown] at hfield
      cases hfield
    rw [ih h, Entries.listed, List.lookup_cons, hne]
  | case6 => cases h
  | case7 found key keySettled value settled rest check' hknown hnew ih =>
    obtain ⟨_, -, hrest⟩ := bind_eq_ok_iff.mp h
    rw [ih hrest, Entries.listed, List.lookup_cons, List.lookup_cons]
    cases heq : name == key with
    | false => rfl
    | true =>
      obtain rfl := eq_of_beq heq
      rw [Option.not_isSome_iff_eq_none.mp hnew]
      rfl

/-- An object that lists its members to the end is collected if its fields pass their checks and no
name is there twice. -/
theorem exists_collect {fields : List (String × Reader Unit)} (h : entries.Lists members)
    (found : List (String × Node)) (hnodup : (members.map (·.1)).Nodup)
    (hnew : ∀ m ∈ members, found.lookup m.1 = none)
    (hunknown : ∀ m ∈ members, fields.lookup m.1 = none → m.2.skipped? = none)
    (hknown : ∀ m ∈ members, ∀ check, fields.lookup m.1 = some check → check ctx m.2 = .ok ()) :
    ∃ found', collect fields ctx found entries = .ok found' := by
  induction h generalizing found with
  | closed => exact ⟨found, rfl⟩
  | @cons rest members key value keySettled settled _ ih =>
    rw [List.map_cons, List.nodup_cons] at hnodup
    have htail (found' : List (String × Node)) (hnew' : ∀ m ∈ members, found'.lookup m.1 = none) :
        ∃ found'', collect fields ctx found' rest = .ok found'' :=
      ih found' hnodup.2 hnew' (fun m hm => hunknown m (List.mem_cons_of_mem _ hm))
        fun m hm => hknown m (List.mem_cons_of_mem _ hm)
    have hrest : ∀ m ∈ members, found.lookup m.1 = none :=
      fun m hm => hnew m (List.mem_cons_of_mem _ hm)
    rw [collect]
    cases hfield : fields.lookup key with
    | none =>
      have hskipped := hunknown (key, value) List.mem_cons_self hfield
      dsimp only at hskipped ⊢
      rw [hskipped]
      exact htail found hrest
    | some check =>
      have hfresh := hnew (key, value) List.mem_cons_self
      have hcheck := hknown (key, value) List.mem_cons_self check hfield
      dsimp only at hfresh ⊢
      rw [hfresh, Option.isSome_none, if_neg Bool.false_ne_true]
      obtain ⟨found'', hcollect⟩ := htail ((key, value) :: found) fun m hm => by
        have hne : (m.1 == key) = false := by
          refine beq_eq_false_iff_ne.mpr fun heq => hnodup.1 ?_
          exact List.mem_map.mpr ⟨m, hm, heq⟩
        rw [List.lookup_cons, hne]
        exact hrest m hm
      exact ⟨found'', bind_eq_ok_iff.mpr ⟨(), Context.place_eq_ok_iff.mpr hcheck, hcollect⟩⟩

/-- A record is read from an object that lists its fields to the end, with no name there twice. -/
theorem reader_of_lists {r : Record α} (hr : r.IsConsistent) {a : α} {span : Span}
    {skipped : Option Fault} {inner : Context} (hinner : ctx.enter span.start = .ok inner)
    (h : entries.Lists members) (hnodup : (members.map (·.1)).Nodup)
    (hunknown : ∀ m ∈ members, r.fields.lookup m.1 = none → m.2.skipped? = none)
    (hbuild : ∀ slots : Slots, (∀ name check, r.fields.lookup name = some check →
      slots.find? name = members.lookup name) → r.build inner slots = .ok a) :
    reader title r ctx (.object span skipped entries) = .ok a := by
  have hslots {found : List (String × Node)} (hfound : ∀ name check,
      r.fields.lookup name = some check → found.lookup name = members.lookup name) :
      r.build inner ⟨(found.lookup ·), fun name => ⟨.missingField name, none⟩⟩ = .ok a :=
    hbuild _ hfound
  have hchecks : ∀ m ∈ members, ∀ check, r.fields.lookup m.1 = some check →
      check inner m.2 = .ok () := by
    intro m hm check hcheck
    refine hr inner _ a (hslots fun _ _ _ => rfl) m.1 check ?_ m.2 ?_
    · exact mem_of_lookup hcheck
    · exact lookup_of_mem hnodup hm
  obtain ⟨found, hcollect⟩ := exists_collect h [] hnodup (fun _ _ => rfl) hunknown hchecks
  refine bind_eq_ok_iff.mpr ⟨inner, hinner, bind_eq_ok_iff.mpr ⟨found, hcollect, ?_⟩⟩
  refine Context.place_eq_ok_iff.mpr (hslots fun name check hcheck => ?_)
  rw [lookup_collect hcollect hcheck, h.listed_eq]
  rfl

/-! ### What has been read -/

/-- What has been collected of a list are its items under the names of the fields. -/
theorem lookup_collectItems {fields : List (String × Reader Unit)}
    {found found' : List (String × Node)} {rest : Items}
    (h : collectItems ctx found fields items = .ok (found', rest))
    (hnodup : (fields.map (·.1)).Nodup) (hnew : ∀ field ∈ fields, found.lookup field.1 = none) :
    found'.lookup name = (found.lookup name).or
      (((fields.map (·.1)).zip items.listed).lookup name) := by
  fun_induction collectItems ctx found fields items with
  | case1 found items =>
    cases h
    rw [List.map_nil, List.zip_nil_left, List.lookup_nil, Option.or_none]
  | case2 found field fields =>
    cases h
    rw [Items.listed, List.zip_nil_right, List.lookup_nil, Option.or_none]
  | case3 => cases h
  | case4 found field check fields value settled rest' ih =>
    obtain ⟨_, -, hrest⟩ := bind_eq_ok_iff.mp h
    rw [List.map_cons, List.nodup_cons] at hnodup
    have hnew' : ∀ f ∈ fields, List.lookup f.1 ((field, value) :: found) = none := by
      intro f hf
      have hne : (f.1 == field) = false := by
        refine beq_eq_false_iff_ne.mpr fun heq => hnodup.1 ?_
        exact List.mem_map.mpr ⟨f, hf, heq⟩
      rw [List.lookup_cons, hne]
      exact hnew f (List.mem_cons_of_mem _ hf)
    rw [ih hrest hnodup.2 hnew', Items.listed, List.map_cons, List.zip_cons_cons,
      List.lookup_cons, List.lookup_cons]
    cases heq : name == field with
    | false => rfl
    | true =>
      obtain rfl := eq_of_beq heq
      rw [hnew (name, check) List.mem_cons_self]
      rfl

/-- A record that is read is built from the values of its fields. -/
theorem exists_build_of_reader {r : Record α} {a : α} (h : reader title r ctx n = .ok a)
    (hnodup : (r.fields.map (·.1)).Nodup) :
    ∃ inner slots, r.build inner slots = .ok a ∧ ∀ name check, r.fields.lookup name = some check →
      slots.find? name = n.field? (r.fields.map (·.1)) name := by
  cases n with
  | object span skipped entries =>
    obtain ⟨inner, -, hrest⟩ := bind_eq_ok_iff.mp h
    obtain ⟨found, hcollect, hbuild⟩ := bind_eq_ok_iff.mp hrest
    refine ⟨inner, _, Context.place_eq_ok_iff.mp hbuild, fun name check hcheck => ?_⟩
    exact lookup_collect hcollect hcheck
  | list span skipped items =>
    obtain ⟨inner, -, hrest⟩ := bind_eq_ok_iff.mp h
    obtain ⟨⟨found, rest⟩, hcollect, hrest⟩ := bind_eq_ok_iff.mp hrest
    obtain ⟨a', hbuild, hrest⟩ := bind_eq_ok_iff.mp hrest
    obtain ⟨_, -, ha⟩ := bind_eq_ok_iff.mp hrest
    obtain rfl := Except.ok.inj ha
    refine ⟨inner, _, Context.place_eq_ok_iff.mp hbuild, fun name check hcheck => ?_⟩
    exact lookup_collectItems hcollect hnodup fun _ _ => rfl
  | literal | number | string | broken =>
    unfold reader at h
    exact absurd h Reader.wrongType_ne_ok

end Record

end ServiceBroker.Json

import Mathlib.Data.List.Perm.Basic
import ServiceBroker.Proofs.Json.Values

/-!
# Trees without faults

A tree without faults spells a value, with the members of an object as they stand in the text. What
a reader makes of such a tree may depend on this value, but neither on the places of the text nor on
the order in which an object has its members.

## Main definitions

* `Json.Node.Spells`: a tree that spells a value without a fault
* `Json.Context.Admits`: how many lists and objects may still be opened
* `Json.Accepts`: what a reader makes of every tree that spells a value
* `Json.IsObjectOf`: an object with some members in any order
* `Json.Record.Fills`: what a record is built into from some members

## Main results

* `Json.Node.spells_ofJson`: the tree of a value that no text was read for spells it
* `Json.accepts_reader`: a record is read from its fields in any order
* `Json.accepts_tagged`: so is a variant, with its tag anywhere among the fields
-/

namespace ServiceBroker.Json

variable {α : Type} {ctx : Context} {n : Node} {entries rest : Entries} {j : Json}
  {slots : Slots} {members declared : List (String × Json)} {name tag title : String}
  {depth : Nat} {r : Reader α} {a : α}

/-! ### Trees of values -/

mutual

/-- The tree spells the value without a fault. Members stand as they do in the text. -/
inductive Node.Spells : Node → Json → Prop where
  | null (span : Span) : Node.Spells (.literal span .null) .null
  | true (span : Span) : Node.Spells (.literal span .true) (.bool true)
  | false (span : Span) : Node.Spells (.literal span .false) (.bool false)
  | number (span : Span) (x : Number) : Node.Spells (.number span (.ok x)) (.number x)
  | string (span : Span) (s : String) : Node.Spells (.string span (.ok s)) (.string s)
  | list (span : Span) {items : Items} {js : List Json} :
      Items.Spells items js → Node.Spells (.list span none items) (.array js)
  | object (span : Span) {entries : Entries} {members : List (String × Json)} :
      Entries.Spells entries members → Node.Spells (.object span none entries) (.object members)

/-- The items spell these values. -/
inductive Items.Spells : Items → List Json → Prop where
  | closed : Items.Spells .closed []
  | cons (settled : Nat) {value : Node} {rest : Items} {j : Json} {js : List Json} :
      Node.Spells value j → Items.Spells rest js → Items.Spells (.cons value settled rest) (j :: js)

/-- The members spell these keys and values. -/
inductive Entries.Spells : Entries → List (String × Json) → Prop where
  | closed : Entries.Spells .closed []
  | cons (key : String) (keySettled settled : Nat) {value : Node} {rest : Entries} {j : Json}
      {members : List (String × Json)} : Node.Spells value j → Entries.Spells rest members →
      Entries.Spells (.cons (.ok key) keySettled value settled rest) ((key, j) :: members)

end

mutual

/-- The tree of a value that no text was read for spells it. -/
theorem Node.spells_ofJson : (j : Json) → (Node.ofJson j).Spells j
  | .null => .null _
  | .bool true => .true _
  | .bool false => .false _
  | .number x => .number _ x
  | .string s => .string _ s
  | .array items => .list _ (Items.spells_ofJsons items)
  | .object members => .object _ (Entries.spells_ofMembers members)

theorem Items.spells_ofJsons : (items : List Json) → (Items.ofJsons items).Spells items
  | [] => .closed
  | j :: items => .cons 0 (Node.spells_ofJson j) (Items.spells_ofJsons items)

theorem Entries.spells_ofMembers :
    (members : List (String × Json)) → (Entries.ofMembers members).Spells members
  | [] => .closed
  | (key, j) :: members =>
    .cons key 0 0 (Node.spells_ofJson j) (Entries.spells_ofMembers members)

end

/-- Who skips a tree without faults meets none. -/
theorem Node.Spells.skipped? (h : n.Spells j) : n.skipped? = none := by
  cases h with
  | null | true | false | number | string | list | object => rfl

/-- An object without faults lists its members to the end. -/
theorem Entries.Spells.exists_lists (h : entries.Spells members) : ∃ nodes,
    entries.Lists nodes ∧ nodes.map (·.1) = members.map (·.1) ∧
      (∀ m ∈ nodes, m.2.skipped? = none) ∧
      List.Forall₂ (fun m j => m.1 = j.1 ∧ m.2.Spells j.2) nodes members := by
  induction members generalizing entries with
  | nil =>
    cases h with
    | closed => exact ⟨[], .closed, rfl, List.forall_mem_nil _, .nil⟩
  | cons m members ih =>
    cases h with
    | @cons key keySettled settled value _ _ _ hvalue hrest =>
      obtain ⟨nodes, hlists, hkeys, hskipped, hnodes⟩ := ih hrest
      refine ⟨(key, value) :: nodes, .cons key value keySettled settled hlists,
        congrArg (key :: ·) hkeys, ?_, .cons ⟨rfl, hvalue⟩ hnodes⟩
      exact List.forall_mem_cons.mpr ⟨hvalue.skipped?, hskipped⟩

/-! ### What readers make of values -/

/-- In a text this many lists and objects may still be opened inside each other. -/
def Context.Admits (ctx : Context) (depth : Nat) : Prop :=
  ctx.source = .text → depth ≤ ctx.allowance

theorem Context.exists_enter (h : ctx.Admits (depth + 1)) (start : Nat) :
    ∃ inner, ctx.enter start = .ok inner ∧ inner.Admits depth := by
  obtain ⟨source, allowance⟩ := ctx
  unfold Context.enter
  cases source with
  | text =>
    cases allowance with
    | zero => exact absurd (h rfl) (Nat.not_succ_le_zero depth)
    | succ allowance => exact ⟨_, rfl, fun _ => Nat.le_of_succ_le_succ (h rfl)⟩
  | value | setAside => exact ⟨_, rfl, fun hsource => Source.noConfusion hsource⟩

/-- The reader makes this of every tree that spells the value, if as many lists and objects may be
opened as that takes. -/
def Accepts (r : Reader α) (depth : Nat) (j : Json) (a : α) : Prop :=
  ∀ ctx n, ctx.Admits depth → n.Spells j → r ctx n = .ok a

theorem Accepts.map {β : Type} (h : Accepts r depth j a) (f : α → β) :
    Accepts (r.map f) depth j (f a) := by
  intro ctx n hadmits hspells
  exact Reader.map_eq_ok_iff.mpr ⟨a, h ctx n hadmits hspells, rfl⟩

theorem accepts_string (expected s : String) :
    Accepts (Reader.stringAs expected) depth (.string s) s := by
  intro ctx n _ hspells
  cases hspells with
  | string span s => rfl

theorem accepts_bool (b : Bool) : Accepts Reader.bool depth (.bool b) b := by
  intro ctx n _ hspells
  cases hspells with
  | true | false => rfl

theorem accepts_uint64 (x : UInt64) : Accepts Reader.uint64 depth (.nat x.toNat) x := by
  have hnatural :
      Accepts (Reader.natural 18446744073709551615 "u64") depth (.nat x.toNat) x.toNat := by
    intro ctx n _ hspells
    cases hspells with
    | number span k =>
      exact if_pos (Nat.le_of_lt_succ x.toNat_lt)
  have huint := hnatural.map UInt64.ofNat
  rwa [UInt64.ofNat_toNat] at huint

theorem accepts_none (r : Reader α) : Accepts r.option depth .null none := by
  intro ctx n _ hspells
  cases hspells with
  | null span => rfl

/-- What is not null is read as it would be by itself. -/
theorem Accepts.option (h : Accepts r depth j a) (hj : j ≠ .null) :
    Accepts r.option depth j (some a) := by
  intro ctx n hadmits hspells
  refine Reader.option_eq_ok_iff.mpr (.inr ⟨fun span hnull => ?_, a, h ctx n hadmits hspells, rfl⟩)
  subst hnull
  cases hspells with
  | null => exact hj rfl

/-- A text that may be missing is written as a string or as null. -/
theorem accepts_ofString? (expected : String) (s : Option String) :
    Accepts (Reader.stringAs expected).option depth (.ofString? s) s := by
  cases s with
  | none => exact accepts_none _
  | some s => exact (accepts_string expected s).option (by exact nofun)

/-! ### Records -/

/-- The value is an object with these members, in any order. -/
def IsObjectOf (j : Json) (declared : List (String × Json)) : Prop :=
  ∃ members, j = .object members ∧ members.Perm declared

/-- A new member is put among the others, somewhere. -/
theorem perm_insert {key : String} (hkey : ∀ m ∈ members, m.1 ≠ key) (j : Json) :
    (Members.insert key j members).Perm ((key, j) :: members) := by
  induction members with
  | nil => exact .refl _
  | cons m members ih =>
    obtain ⟨hm, hmembers⟩ := List.forall_mem_cons.mp hkey
    rw [Members.insert, if_neg hm.symm]
    split
    · exact .refl _
    · exact ((ih hmembers).cons m).trans (.swap _ _ _)

theorem perm_foldl_insert (hnodup : ((members ++ declared).map (·.1)).Nodup) :
    (declared.foldl (fun acc m => Members.insert m.1 m.2 acc) members).Perm
      (members ++ declared) := by
  induction declared generalizing members with
  | nil =>
    rw [List.append_nil]
    exact .refl _
  | cons m declared ih =>
    have hmiddle : ((m :: (members ++ declared)).map (·.1)).Nodup :=
      (List.perm_middle.map Prod.fst).nodup_iff.mp hnodup
    have hkey : ∀ m' ∈ members, m'.1 ≠ m.1 := by
      intro m' hm' heq
      exact (List.nodup_cons.mp hmiddle).1
        (List.mem_map.mpr ⟨m', List.mem_append_left _ hm', heq⟩)
    have hinsert := (perm_insert hkey m.2).append_right declared
    exact (ih ((hinsert.map (·.1)).nodup_iff.mpr hmiddle)).trans
      (hinsert.trans List.perm_middle.symm)

/-- Members with different keys are all there, once the object has put them in order. -/
theorem isObjectOf_ofMembers (hnodup : (declared.map (·.1)).Nodup) :
    (ofMembers declared).IsObjectOf declared :=
  ⟨_, rfl, perm_foldl_insert hnodup⟩

/-- In the slots there are trees that spell these members. -/
def Slots.Hold (slots : Slots) (declared : List (String × Json)) : Prop :=
  ∀ name j, declared.lookup name = some j → ∃ n, slots.find? name = some n ∧ n.Spells j

/-- The record can be built from these members, as this. -/
structure Record.Fills (record : Record α) (declared : List (String × Json)) (depth : Nat)
    (a : α) : Prop where
  isConsistent : record.IsConsistent
  build_eq : ∀ ctx slots, ctx.Admits depth → slots.Hold declared → record.build ctx slots = .ok a

namespace Record

variable {β : Type}

theorem fills_required (hname : declared.lookup name = some j) (hr : Accepts r depth j a) :
    (required name r).Fills declared depth a where
  isConsistent := isConsistent_required name r
  build_eq := by
    intro ctx slots hadmits hslots
    obtain ⟨n, hn, hspells⟩ := hslots name j hname
    exact build_required_eq_ok_iff.mpr ⟨n, hn, hr ctx n hadmits hspells⟩

theorem fills_withDefault {default : α} (hname : declared.lookup name = some j)
    (hr : Accepts r depth j a) : (withDefault name r default).Fills declared depth a where
  isConsistent := isConsistent_withDefault name r default
  build_eq := by
    intro ctx slots hadmits hslots
    obtain ⟨n, hn, hspells⟩ := hslots name j hname
    exact build_withDefault_eq_ok_iff.mpr (.inl ⟨n, hn, hr ctx n hadmits hspells⟩)

theorem fills_optional {a : Option α} (hname : declared.lookup name = some j)
    (hr : Accepts r.option depth j a) : (optional name r).Fills declared depth a :=
  fills_withDefault hname hr

theorem Fills.map {record : Record α} (h : record.Fills declared depth a) (f : α → β) :
    (f <$> record).Fills declared depth (f a) where
  isConsistent := h.isConsistent.map
  build_eq := by
    intro ctx slots hadmits hslots
    exact build_map_eq_ok_iff.mpr ⟨a, h.build_eq ctx slots hadmits hslots, rfl⟩

theorem Fills.seq {f : Record (α → β)} {record : Record α} {g : α → β}
    (hf : f.Fills declared depth g) (h : record.Fills declared depth a) :
    (f <*> record).Fills declared depth (g a) where
  isConsistent := hf.isConsistent.seq h.isConsistent
  build_eq := by
    intro ctx slots hadmits hslots
    exact build_seq_eq_ok_iff.mpr ⟨g, a, hf.build_eq ctx slots hadmits hslots,
      h.build_eq ctx slots hadmits hslots, rfl⟩

end Record

/-- In whatever order members with different keys stand, the same is found under a key. -/
theorem lookup_of_perm (h : members.Perm declared) (hnodup : (declared.map (·.1)).Nodup)
    (hname : declared.lookup name = some j) : members.lookup name = some j := by
  have hmem : (name, j) ∈ members := h.mem_iff.mpr (mem_of_lookup hname)
  have hkeys : (members.map (·.1)).Nodup := (h.map (·.1)).nodup_iff.mpr hnodup
  exact lookup_of_mem hkeys hmem

theorem exists_lookup_of_mem {γ : Type} {l : List (String × γ)} (h : name ∈ l.map (·.1)) :
    ∃ c, l.lookup name = some c := by
  cases hlookup : l.lookup name with
  | some c => exact ⟨c, rfl⟩
  | none =>
    obtain ⟨m, hm, rfl⟩ := List.mem_map.mp h
    have hne := List.lookup_eq_none_iff.mp hlookup m hm
    simp at hne

/-- A record is read from its fields in any order, if it can be built from them. -/
theorem accepts_reader {record : Record α} (hrecord : record.Fills declared depth a)
    (hj : j.IsObjectOf declared) (hfields : record.fields.map (·.1) = declared.map (·.1))
    (hnodup : (declared.map (·.1)).Nodup) :
    Accepts (Record.reader title record) (depth + 1) j a := by
  intro ctx n hadmits hspells
  obtain ⟨members, rfl, hperm⟩ := hj
  cases hspells with
  | @object span entries _ hentries =>
    obtain ⟨nodes, hlists, hkeys, hskipped, hnodes⟩ := hentries.exists_lists
    obtain ⟨inner, hinner, hdepth⟩ := Context.exists_enter hadmits span.start
    refine Record.reader_of_lists hrecord.isConsistent hinner hlists ?_
      (fun m hm _ => hskipped m hm) fun slots hslots => ?_
    · rw [hkeys]
      exact (hperm.map (·.1)).nodup_iff.mpr hnodup
    · apply hrecord.build_eq inner slots hdepth
      intro name j hname
      obtain ⟨check, hcheck⟩ : ∃ check, record.fields.lookup name = some check := by
        apply exists_lookup_of_mem
        rw [hfields]
        exact List.mem_map_of_mem (mem_of_lookup hname)
      -- The tree that was collected is that of the one member with this key.
      rcases Reader.lookup_of_forall₂ (R := Node.Spells) hnodes name with
        ⟨-, hnone⟩ | ⟨n, j', hn, hj, hspells⟩
      · rw [lookup_of_perm hperm hnodup hname] at hnone
        cases hnone
      · obtain rfl : j = j' :=
          Option.some.inj ((lookup_of_perm hperm hnodup hname).symm.trans hj)
        exact ⟨n, (hslots name check hcheck).trans hn, hspells⟩

/-! ### Variants -/

/-- The value is no list and no object. -/
def IsScalar : Json → Prop
  | .array _ | .object _ => False
  | .null | .bool _ | .number _ | .string _ => True

/-- A variant without fields is read from any object. -/
theorem accepts_unit (a : α) (hj : j.IsObjectOf declared) : Accepts (Reader.unit a) depth j a := by
  intro ctx n _ hspells
  obtain ⟨members, rfl, -⟩ := hj
  cases hspells with
  | object => rfl

/-- What opens no list and no object is read as a value in any case. -/
theorem exists_json (ctx : Context) (h : n.Spells j) (hj : j.IsScalar) :
    ∃ j, Reader.json ctx n = .ok j := by
  cases h with
  | null | true | false | number | string => exact ⟨_, rfl⟩
  | list => cases hj
  | object => cases hj

/-- A member under another key than the tag's is set aside. -/
theorem splitTag_cons {choices : List (String × α)} {found found' : Option α} {key : String}
    {value : Node} {rest rest' : Entries} (hkey : key ≠ tag) (hvalue : value.Spells j)
    (hj : j.IsScalar) (h : Reader.splitTag tag choices ctx found rest = .ok (found', rest'))
    (keySettled settled : Nat) :
    Reader.splitTag tag choices ctx found (.cons (.ok key) keySettled value settled rest) =
      .ok (found', .cons (.ok key) keySettled value settled rest') := by
  obtain ⟨j', hjson⟩ := exists_json ctx hvalue hj
  rw [Reader.splitTag.eq_def]
  dsimp only
  rw [if_neg hkey]
  exact bind_eq_ok_iff.mpr ⟨j', hjson, bind_eq_ok_iff.mpr ⟨_, h, rfl⟩⟩

/-- What stands behind the tag is set aside as it is. -/
theorem exists_splitTag_of_spells (choices : List (String × α)) (ctx : Context) (found : Option α)
    (h : entries.Spells members) (hscalar : ∀ m ∈ members, m.2.IsScalar)
    (htag : ∀ m ∈ members, m.1 ≠ tag) : ∃ rest,
      Reader.splitTag tag choices ctx found entries = .ok (found, rest) ∧ rest.Spells members := by
  induction members generalizing entries with
  | nil =>
    cases h with
    | closed => exact ⟨_, rfl, .closed⟩
  | cons m members ih =>
    cases h with
    | cons key keySettled settled hvalue hrest =>
      obtain ⟨hj, hscalar⟩ := List.forall_mem_cons.mp hscalar
      obtain ⟨hkey, htag⟩ := List.forall_mem_cons.mp htag
      obtain ⟨rest', hsplit, hspells⟩ := ih hrest hscalar htag
      exact ⟨_, splitTag_cons hkey hvalue hj hsplit keySettled settled,
        .cons _ _ _ hvalue hspells⟩

/-- The tag is taken out from among the fields, wherever it stands. -/
theorem exists_splitTag_of_tag {choices : List (String × α)} {before after : List (String × Json)}
    (ctx : Context) (h : entries.Spells (before ++ (tag, .string name) :: after))
    (hscalar : ∀ m ∈ before ++ after, m.2.IsScalar) (htag : ∀ m ∈ before ++ after, m.1 ≠ tag)
    (hchoice : choices.lookup name = some a) : ∃ rest,
      Reader.splitTag tag choices ctx none entries = .ok (some a, rest) ∧
        rest.Spells (before ++ after) := by
  -- Up to the tag, members are set aside; from there on no other tag may come.
  induction before generalizing entries with
  | nil =>
    cases h with
    | @cons _ keySettled settled value rest _ _ hvalue hrest =>
      cases hvalue with
      | string span =>
        have hname : Reader.variantName choices ctx (.string span (.ok name)) = .ok a := by
          rw [Reader.variantName, Reader.choose, hchoice]
          rfl
        obtain ⟨rest', hsplit, hspells⟩ :=
          exists_splitTag_of_spells choices ctx (some a) hrest hscalar htag
        refine ⟨rest', ?_, hspells⟩
        rw [Reader.splitTag.eq_def]
        dsimp only
        rw [if_pos rfl]
        exact bind_eq_ok_iff.mpr ⟨a, hname, hsplit⟩
  | cons m before ih =>
    cases h with
    | cons key keySettled settled hvalue hrest =>
      obtain ⟨hj, hscalar⟩ := List.forall_mem_cons.mp hscalar
      obtain ⟨hkey, htag⟩ := List.forall_mem_cons.mp htag
      obtain ⟨rest', hsplit, hspells⟩ := ih hrest hscalar htag
      exact ⟨_, splitTag_cons hkey hvalue hj hsplit keySettled settled,
        .cons _ _ _ hvalue hspells⟩

/-- A variant is read from its tag and its fields in any order, if its reader makes it of the fields
alone. These are set aside until the tag is known, so how many more lists and objects may be opened
does not matter to them. -/
theorem accepts_tagged {choices : List (String × Reader α)}
    (hj : j.IsObjectOf ((tag, .string name) :: declared))
    (hnodup : (tag :: declared.map (·.1)).Nodup) (hscalar : ∀ m ∈ declared, m.2.IsScalar)
    (hchoice : choices.lookup name = some r)
    (hr : ∀ j : Json, j.IsObjectOf declared → ∃ depth, Accepts r depth j a) :
    Accepts (Reader.tagged title tag choices) (depth + 1) j a := by
  intro ctx n hadmits hspells
  obtain ⟨members, rfl, hperm⟩ := hj
  cases hspells with
  | @object span entries _ hentries =>
    obtain ⟨inner, hinner, -⟩ := Context.exists_enter hadmits span.start
    -- The tag stands somewhere, with the fields in some order around it.
    obtain ⟨before, after, rfl⟩ := List.append_of_mem (hperm.mem_iff.mpr List.mem_cons_self)
    have hothers : (before ++ after).Perm declared :=
      (List.perm_middle.symm.trans hperm).cons_inv
    have htag : ∀ m ∈ before ++ after, m.1 ≠ tag := by
      intro m hm heq
      have hmem := List.mem_map_of_mem (f := (·.1)) (hothers.mem_iff.mp hm)
      exact (List.nodup_cons.mp hnodup).1 (heq ▸ hmem)
    have hscalars : ∀ m ∈ before ++ after, m.2.IsScalar :=
      fun m hm => hscalar m (hothers.mem_iff.mp hm)
    obtain ⟨rest, hsplit, hrest⟩ :=
      exists_splitTag_of_tag inner hentries hscalars htag hchoice
    refine bind_eq_ok_iff.mpr ⟨inner, hinner, bind_eq_ok_iff.mpr ⟨_, hsplit, ?_⟩⟩
    obtain ⟨depth, haccepts⟩ := hr _ ⟨_, rfl, hothers⟩
    exact haccepts _ _ (fun hsource => Source.noConfusion hsource) (.object span hrest)

end ServiceBroker.Json

import ServiceBroker.Proofs.Json.Faultless
import ServiceBroker.Proofs.Json.Tokens

/-!
# What is printed is read back

A value that is printed is read token by token, each list and object being collected on a stack. So
reading a value takes as much of the text as was printed of it, and leaves the stack as it was but
for a tree that spells the value. Floating-point numbers are left out here: they are printed with
the digits that tell them apart, which is another matter.

## Main definitions

* `Json.IsPlain`: a value without floating-point numbers
* `Json.Document.ItemsHold`, `Json.Document.MembersHold`: items or members that have been collected
* `Json.Document.Reads`: reading takes what is printed of a value

## Main results

* `Json.Document.reads_of_isPlain`: reading a value that is printed, inside of others too
* `Json.Document.exists_ofText_write`: the document of a value that is printed
* `Json.Accepts.fromText_render`, `Json.Accepts.fromJson`: reading a value back, as a text or not
-/

namespace ServiceBroker.Json

variable {rest : List UInt8} {b : UInt8} {pos stop start : Nat} {j : Json}

/-- The value has no floating-point numbers, and no integers beyond 64 bits. -/
inductive IsPlain : Json → Prop where
  | null : IsPlain .null
  | bool (b : Bool) : IsPlain (.bool b)
  | number {x : Number} : x.IsInteger → IsPlain (.number x)
  | string (s : String) : IsPlain (.string s)
  | array {items : List Json} : (∀ j ∈ items, IsPlain j) → IsPlain (.array items)
  | object {members : List (String × Json)} : (∀ m ∈ members, IsPlain m.2) →
      IsPlain (.object members)

namespace Document

variable {state : State} {stack : List Frame} {bs : List UInt8} {kind : Token.Kind}

/-! ### Reading tokens -/

theorem run_cons (hb : ¬ Token.isSpace b) : state.run pos (b :: rest) =
    (state.step (Token.scan pos b rest).1).run (Token.scan pos b rest).1.stop
      (Token.scan pos b rest).2 := by
  rw [State.run, if_neg hb]

/-- A token that is printed is read as one step. -/
theorem exists_run_scans (h : Token.Scans bs kind) (hrest : Delimited rest) (state : State)
    (pos : Nat) : ∃ stop,
      state.run pos (bs ++ rest) = (state.step ⟨pos, stop, kind⟩).run stop rest := by
  obtain ⟨b, tail, rfl, hb, hscan⟩ := h
  obtain ⟨stop, hstop⟩ := hscan pos rest hrest
  refine ⟨stop, ?_⟩
  rw [List.cons_append, run_cons hb, hstop]

/-- The byte is a mark that is read as this. -/
inductive IsMark : UInt8 → Token.Kind → Prop where
  | openList : IsMark 91 .openList
  | closeList : IsMark 93 .closeList
  | openObject : IsMark 123 .openObject
  | closeObject : IsMark 125 .closeObject
  | comma : IsMark 44 .comma
  | colon : IsMark 58 .colon

theorem run_mark (h : IsMark b kind) (state : State) (pos : Nat) (rest : List UInt8) :
    state.run pos (b :: rest) = (state.step ⟨pos, pos + 1, kind⟩).run (pos + 1) rest := by
  cases h with
  | openList | closeList | openObject | closeObject | comma | colon => exact run_cons (by decide)

/-! ### Items and members that have been collected -/

/-- The items, the latest first, spell these values. -/
inductive ItemsHold : List (Node × Nat) → List Json → Prop where
  | nil : ItemsHold [] []
  | snoc {items : List (Node × Nat)} {js : List Json} {n : Node} {j : Json} (settled : Nat) :
      ItemsHold items js → n.Spells j → ItemsHold ((n, settled) :: items) (js ++ [j])

/-- The members, the latest first, spell these keys and values. -/
inductive MembersHold : List Member → List (String × Json) → Prop where
  | nil : MembersHold [] []
  | snoc {ms : List Member} {members : List (String × Json)} {n : Node} {j : Json} (key : String)
      (keySettled settled : Nat) : MembersHold ms members → n.Spells j →
      MembersHold (⟨.ok key, keySettled, n, settled⟩ :: ms) (members ++ [(key, j)])

variable {items : List (Node × Nat)} {ms : List Member} {js js' : List Json}
  {members members' : List (String × Json)}

theorem ItemsHold.spells_prepend {rest : Items} (h : ItemsHold items js)
    (hrest : rest.Spells js') : (Items.prepend items rest).Spells (js ++ js') := by
  induction h generalizing rest js' with
  | nil => exact hrest
  | snoc settled _ hn ih =>
    rw [List.append_assoc]
    exact ih (.cons settled hn hrest)

theorem MembersHold.spells_prepend {rest : Entries} (h : MembersHold ms members)
    (hrest : rest.Spells members') : (Entries.prepend ms rest).Spells (members ++ members') := by
  induction h generalizing rest members' with
  | nil => exact hrest
  | snoc key keySettled settled _ hn ih =>
    rw [List.append_assoc]
    exact ih (.cons key keySettled settled hn hrest)

theorem ItemsHold.exists_settle (h : ItemsHold items js) (offset start : Nat)
    (stack : List Frame) : ∃ items', ItemsHold items' js ∧
      settle offset (.list start items :: stack) = .list start items' :: stack := by
  cases h with
  | nil => exact ⟨[], .nil, rfl⟩
  | snoc settled hitems hn => exact ⟨_, .snoc offset hitems hn, rfl⟩

theorem MembersHold.exists_settle (h : MembersHold ms members) (offset start : Nat)
    (stack : List Frame) : ∃ ms', MembersHold ms' members ∧
      settle offset (.object start ms :: stack) = .object start ms' :: stack := by
  cases h with
  | nil => exact ⟨[], .nil, rfl⟩
  | snoc key keySettled settled hms hn => exact ⟨_, .snoc key keySettled offset hms hn, rfl⟩

/-- A list closes with the values that have been collected. -/
theorem ItemsHold.exists_close (h : ItemsHold items js) (start stop : Nat) (stack : List Frame) :
    ∃ n, n.Spells (.array js) ∧
      State.close stop (.list start items :: stack) = .push n stack := by
  refine ⟨_, .list ⟨start, stop⟩ ?_, rfl⟩
  simpa using h.spells_prepend .closed

/-- An object closes with the members that have been collected. -/
theorem MembersHold.exists_close (h : MembersHold ms members) (start stop : Nat)
    (stack : List Frame) : ∃ n, n.Spells (.object members) ∧
      State.close stop (.object start ms :: stack) = .push n stack := by
  refine ⟨_, .object ⟨start, stop⟩ ?_, rfl⟩
  simpa using h.spells_prepend .closed

/-! ### Reading values -/

/-- What is printed of a value starts with a byte that is no white space and closes no list. -/
theorem exists_write_eq (h : j.IsPlain) : ∃ b tail, Utf8.encode (write j) = b :: tail ∧
    ¬ Token.isSpace b ∧ b ≠ 93 := by
  cases h with
  | null => exact ⟨110, _, rfl, by decide, by decide⟩
  | bool b =>
    cases b with
    | false => exact ⟨102, _, rfl, by decide, by decide⟩
    | true => exact ⟨116, _, rfl, by decide, by decide⟩
  | string s => exact ⟨34, _, rfl, by decide, by decide⟩
  | array => exact ⟨91, _, rfl, by decide, by decide⟩
  | object => exact ⟨123, _, rfl, by decide, by decide⟩
  | @number x hx =>
    obtain ⟨b, tail, hbytes, hspace, hscan⟩ := Token.scans_number hx
    refine ⟨b, tail, hbytes, hspace, ?_⟩
    rintro rfl
    -- This byte is always read as the end of a list.
    obtain ⟨stop, hstop⟩ := hscan 0 [] delimited_nil
    cases congrArg (fun scanned => scanned.1.kind) hstop

theorem step_firstItem {t : Token} (h : t.kind ≠ .closeList) (stack : List Frame) :
    State.step t (.inside .firstItem stack) = State.step t (.inside .value stack) := by
  obtain ⟨start, stop, kind⟩ := t
  cases kind with
  | closeList => exact absurd rfl h
  | _ => rfl

theorem step_item {t : Token} (h : t.kind ≠ .closeList) (stack : List Frame) :
    State.step t (.inside .item stack) =
      State.step t (.inside .value (settle t.start stack)) := by
  obtain ⟨start, stop, kind⟩ := t
  cases kind with
  | closeList => exact absurd rfl h
  | _ => rfl

/-- In a list, the next value is read as anywhere else. -/
theorem exists_run_value {expect : Expect} (hexpect : expect = .firstItem ∨ expect = .item)
    (hitems : ItemsHold items js) (hspace : ¬ Token.isSpace b) (hclose : b ≠ 93)
    (start pos : Nat) (stack : List Frame) (tail : List UInt8) : ∃ items', ItemsHold items' js ∧
      (State.inside expect (.list start items :: stack)).run pos (b :: tail) =
        (State.inside .value (.list start items' :: stack)).run pos (b :: tail) := by
  have hkind := Token.kind_scan_ne_closeList hclose pos tail
  simp only [run_cons hspace]
  rcases hexpect with rfl | rfl
  · rw [step_firstItem hkind]
    exact ⟨items, hitems, rfl⟩
  · rw [step_item hkind]
    obtain ⟨items', hitems', hsettle⟩ :=
      hitems.exists_settle (Token.scan pos b tail).1.start start stack
    rw [hsettle]
    exact ⟨items', hitems', rfl⟩

/-- Reading the value takes what is printed of it, and puts a tree that spells it on the stack. -/
def Reads (j : Json) : Prop :=
  ∀ rest, Delimited rest → ∀ pos stack, ∃ n stop, n.Spells j ∧
    (State.inside .value stack).run pos (Utf8.encode (write j) ++ rest) =
      (State.push n stack).run stop rest

/-- A value that is one token is read by it. -/
theorem reads_of_scans (h : Token.Scans (Utf8.encode (write j)) kind)
    (hstep : ∀ pos stop stack, ∃ n, n.Spells j ∧
      State.step ⟨pos, stop, kind⟩ (.inside .value stack) = .push n stack) : Reads j := by
  intro rest hrest pos stack
  obtain ⟨stop, hrun⟩ := exists_run_scans h hrest (.inside .value stack) pos
  obtain ⟨n, hn, hpush⟩ := hstep pos stop stack
  exact ⟨n, stop, hn, by rw [hrun, hpush]⟩

/-- The next item of a list is read up to what follows it. -/
theorem Reads.exists_run_item (hj : Reads j) (hplain : j.IsPlain) {expect : Expect}
    (hexpect : expect = .firstItem ∨ expect = .item) (hitems : ItemsHold items js)
    (hrest : Delimited rest) (start pos : Nat) (stack : List Frame) : ∃ items' stop,
      ItemsHold items' (js ++ [j]) ∧
        (State.inside expect (.list start items :: stack)).run pos
            (Utf8.encode (write j) ++ rest) =
          (State.inside .afterItem (.list start items' :: stack)).run stop rest := by
  obtain ⟨b, tail, hbytes, hspace, hclose⟩ := exists_write_eq hplain
  obtain ⟨items', hitems', hitem⟩ :=
    exists_run_value hexpect hitems hspace hclose start pos stack (tail ++ rest)
  obtain ⟨n, stop, hn, hrun⟩ := hj rest hrest pos (.list start items' :: stack)
  rw [hbytes, List.cons_append] at hrun ⊢
  exact ⟨_, stop, .snoc 0 hitems' hn, hitem.trans hrun⟩

/-- A comma leads on to the next item. -/
theorem ItemsHold.exists_run_comma (h : ItemsHold items js) (start pos : Nat)
    (stack : List Frame) (rest : List UInt8) : ∃ items', ItemsHold items' js ∧
      (State.inside .afterItem (.list start items :: stack)).run pos (44 :: rest) =
        (State.inside .item (.list start items' :: stack)).run (pos + 1) rest := by
  obtain ⟨items', hitems', hsettle⟩ := h.exists_settle (pos + 1) start stack
  refine ⟨items', hitems', ?_⟩
  rw [run_mark .comma, ← hsettle]
  rfl

/-- A bracket closes the list. -/
theorem ItemsHold.exists_run_close (h : ItemsHold items js) (start pos : Nat)
    (stack : List Frame) (rest : List UInt8) : ∃ n, n.Spells (.array js) ∧
      (State.inside .afterItem (.list start items :: stack)).run pos (93 :: rest) =
        (State.push n stack).run (pos + 1) rest := by
  obtain ⟨items', hitems', hsettle⟩ := h.exists_settle (pos + 1) start stack
  obtain ⟨n, hn, hclose⟩ := hitems'.exists_close start (pos + 1) stack
  refine ⟨n, hn, ?_⟩
  rw [run_mark .closeList, ← hclose, ← hsettle]
  rfl

/-- Reading the items that are left takes what is printed of them, and closes their list. -/
theorem exists_run_items (hreads : ∀ j ∈ js', Reads j) (hplain : ∀ j ∈ js', j.IsPlain)
    (hne : js' ≠ []) {expect : Expect} (hexpect : expect = .firstItem ∨ expect = .item)
    (hitems : ItemsHold items js) (start pos : Nat) (stack : List Frame) (rest : List UInt8) :
    ∃ n stop, n.Spells (.array (js ++ js')) ∧
      (State.inside expect (.list start items :: stack)).run pos
          (Utf8.encode (writeItems js') ++ 93 :: rest) =
        (State.push n stack).run stop rest := by
  -- The items are read one by one, and each joins those that have been collected.
  induction js' generalizing expect items js pos with
  | nil => exact absurd rfl hne
  | cons j more ih =>
    obtain ⟨hj, hmore⟩ := List.forall_mem_cons.mp hreads
    obtain ⟨hplainj, hplain⟩ := List.forall_mem_cons.mp hplain
    cases more with
    | nil =>
      obtain ⟨items', stop, hitems', hrun⟩ := hj.exists_run_item hplainj hexpect hitems
        (delimited_cons (.inr (.inr (.inl rfl))) rest) start pos stack
      obtain ⟨n, hn, hclose⟩ := hitems'.exists_run_close start stop stack rest
      exact ⟨n, stop + 1, hn, by rw [writeItems, hrun, hclose]⟩
    | cons next more =>
      have hbytes : Utf8.encode (writeItems (j :: next :: more)) ++ 93 :: rest =
          Utf8.encode (write j) ++
            44 :: (Utf8.encode (writeItems (next :: more)) ++ 93 :: rest) := by
        have hwrite : writeItems (j :: next :: more) =
            write j ++ ',' :: writeItems (next :: more) := rfl
        rw [hwrite, Utf8.encode_append, Utf8.encode_cons, List.append_assoc, List.append_assoc]
        rfl
      obtain ⟨items', stop, hitems', hrun⟩ := hj.exists_run_item hplainj hexpect hitems
        (delimited_cons (.inl rfl) (Utf8.encode (writeItems (next :: more)) ++ 93 :: rest))
        start pos stack
      obtain ⟨settled, hsettled, hcomma⟩ := hitems'.exists_run_comma start stop stack
        (Utf8.encode (writeItems (next :: more)) ++ 93 :: rest)
      obtain ⟨n, stop', hn, hlist⟩ := ih hmore hplain (List.cons_ne_nil next more) (.inr rfl)
        hsettled (stop + 1)
      rw [List.append_assoc] at hn
      exact ⟨n, stop', hn, by rw [hbytes, hrun, hcomma, hlist]⟩

/-- The next member of an object is read up to what follows it. -/
theorem Reads.exists_run_member (hj : Reads j) {expect : Expect}
    (hexpect : expect = .firstKey ∨ expect = .key) (hms : MembersHold ms members)
    (hrest : Delimited rest) (key : String) (start pos : Nat) (stack : List Frame) : ∃ ms' stop,
      MembersHold ms' (members ++ [(key, j)]) ∧
        (State.inside expect (.object start ms :: stack)).run pos
            (Utf8.encode (writeString key ++ ':' :: write j) ++ rest) =
          (State.inside .afterMember (.object start ms' :: stack)).run stop rest := by
  have hbytes : Utf8.encode (writeString key ++ ':' :: write j) ++ rest =
      Utf8.encode (writeString key) ++ 58 :: (Utf8.encode (write j) ++ rest) := by
    rw [Utf8.encode_append, Utf8.encode_cons, List.append_assoc, List.append_assoc]
    rfl
  have hkey (pos stop : Nat) :
      State.step ⟨pos, stop, .string (.ok key)⟩ (.inside expect (.object start ms :: stack)) =
        .inside (.colon (.ok key)) (.object start ms :: stack) := by
    rcases hexpect with rfl | rfl <;> rfl
  obtain ⟨stop, hscan⟩ := exists_run_scans (Token.scans_string key)
    (delimited_cons (.inr (.inl rfl)) (Utf8.encode (write j) ++ rest))
    (.inside expect (.object start ms :: stack)) pos
  obtain ⟨n, stop', hn, hrun⟩ :=
    hj rest hrest (stop + 1) (.member start ms (.ok key) stop :: stack)
  refine ⟨_, stop', .snoc key stop 0 hms hn, ?_⟩
  rw [hbytes, hscan, hkey, run_mark .colon]
  exact hrun

/-- A comma leads on to the next key. -/
theorem MembersHold.exists_run_comma (h : MembersHold ms members) (start pos : Nat)
    (stack : List Frame) (rest : List UInt8) : ∃ ms', MembersHold ms' members ∧
      (State.inside .afterMember (.object start ms :: stack)).run pos (44 :: rest) =
        (State.inside .key (.object start ms' :: stack)).run (pos + 1) rest := by
  obtain ⟨ms', hms', hsettle⟩ := h.exists_settle pos start stack
  refine ⟨ms', hms', ?_⟩
  rw [run_mark .comma, ← hsettle]
  rfl

/-- A brace closes the object. -/
theorem MembersHold.exists_run_close (h : MembersHold ms members) (start pos : Nat)
    (stack : List Frame) (rest : List UInt8) : ∃ n, n.Spells (.object members) ∧
      (State.inside .afterMember (.object start ms :: stack)).run pos (125 :: rest) =
        (State.push n stack).run (pos + 1) rest := by
  obtain ⟨ms', hms', hsettle⟩ := h.exists_settle (pos + 1) start stack
  obtain ⟨n, hn, hclose⟩ := hms'.exists_close start (pos + 1) stack
  refine ⟨n, hn, ?_⟩
  rw [run_mark .closeObject, ← hclose, ← hsettle]
  rfl

/-- Reading the members that are left takes what is printed of them, and closes their object. -/
theorem exists_run_members (hreads : ∀ m ∈ members', Reads m.2) (hne : members' ≠ [])
    {expect : Expect} (hexpect : expect = .firstKey ∨ expect = .key)
    (hms : MembersHold ms members) (start pos : Nat) (stack : List Frame) (rest : List UInt8) :
    ∃ n stop, n.Spells (.object (members ++ members')) ∧
      (State.inside expect (.object start ms :: stack)).run pos
          (Utf8.encode (writeMembers members') ++ 125 :: rest) =
        (State.push n stack).run stop rest := by
  -- The same for members; one starts with its key.
  induction members' generalizing expect ms members pos with
  | nil => exact absurd rfl hne
  | cons m more ih =>
    obtain ⟨key, j⟩ := m
    obtain ⟨hj, hmore⟩ := List.forall_mem_cons.mp hreads
    cases more with
    | nil =>
      obtain ⟨ms', stop, hms', hrun⟩ := hj.exists_run_member hexpect hms
        (delimited_cons (.inr (.inr (.inr rfl))) rest) key start pos stack
      obtain ⟨n, hn, hclose⟩ := hms'.exists_run_close start stop stack rest
      exact ⟨n, stop + 1, hn, by rw [writeMembers, hrun, hclose]⟩
    | cons next more =>
      have hbytes : Utf8.encode (writeMembers ((key, j) :: next :: more)) ++ 125 :: rest =
          Utf8.encode (writeString key ++ ':' :: write j) ++
            44 :: (Utf8.encode (writeMembers (next :: more)) ++ 125 :: rest) := by
        have hwrite : writeMembers ((key, j) :: next :: more) =
            writeString key ++ ':' :: (write j ++ ',' :: writeMembers (next :: more)) := rfl
        rw [hwrite, ← List.cons_append, ← List.append_assoc, Utf8.encode_append, Utf8.encode_cons,
          List.append_assoc, List.append_assoc]
        rfl
      obtain ⟨ms', stop, hms', hrun⟩ := hj.exists_run_member hexpect hms
        (delimited_cons (.inl rfl) (Utf8.encode (writeMembers (next :: more)) ++ 125 :: rest)) key
        start pos stack
      obtain ⟨settled, hsettled, hcomma⟩ := hms'.exists_run_comma start stop stack
        (Utf8.encode (writeMembers (next :: more)) ++ 125 :: rest)
      obtain ⟨n, stop', hn, hobject⟩ :=
        ih hmore (List.cons_ne_nil next more) (.inr rfl) hsettled (stop + 1)
      rw [List.append_assoc] at hn
      exact ⟨n, stop', hn, by rw [hbytes, hrun, hcomma, hobject]⟩

theorem reads_array {items : List Json} (hreads : ∀ j ∈ items, Reads j)
    (hplain : ∀ j ∈ items, j.IsPlain) : Reads (.array items) := by
  intro rest _ pos stack
  cases items with
  | nil =>
    have hbytes : Utf8.encode (write (.array [])) ++ rest = 91 :: 93 :: rest := rfl
    obtain ⟨n, hn, hclose⟩ := ItemsHold.nil.exists_close pos (pos + 1 + 1) stack
    refine ⟨n, pos + 1 + 1, hn, ?_⟩
    rw [hbytes, run_mark .openList, run_mark .closeList, ← hclose]
    rfl
  | cons j items =>
    have hbytes : Utf8.encode (write (.array (j :: items))) ++ rest =
        91 :: (Utf8.encode (writeItems (j :: items)) ++ 93 :: rest) := by
      rw [write, Utf8.encode_cons, Utf8.encode_append, List.append_assoc, List.append_assoc]
      rfl
    obtain ⟨n, stop, hn, hrun⟩ := exists_run_items hreads hplain
      (List.cons_ne_nil j items) (.inl rfl) .nil pos (pos + 1) stack rest
    refine ⟨n, stop, hn, ?_⟩
    rw [hbytes, run_mark .openList, ← hrun]
    rfl

theorem reads_object {members : List (String × Json)} (hreads : ∀ m ∈ members, Reads m.2) :
    Reads (.object members) := by
  intro rest _ pos stack
  cases members with
  | nil =>
    have hbytes : Utf8.encode (write (.object [])) ++ rest = 123 :: 125 :: rest := rfl
    obtain ⟨n, hn, hclose⟩ := MembersHold.nil.exists_close pos (pos + 1 + 1) stack
    refine ⟨n, pos + 1 + 1, hn, ?_⟩
    rw [hbytes, run_mark .openObject, run_mark .closeObject, ← hclose]
    rfl
  | cons m members =>
    have hbytes : Utf8.encode (write (.object (m :: members))) ++ rest =
        123 :: (Utf8.encode (writeMembers (m :: members)) ++ 125 :: rest) := by
      rw [write, Utf8.encode_cons, Utf8.encode_append, List.append_assoc, List.append_assoc]
      rfl
    obtain ⟨n, stop, hn, hrun⟩ := exists_run_members hreads
      (List.cons_ne_nil m members) (.inl rfl) .nil pos (pos + 1) stack rest
    refine ⟨n, stop, hn, ?_⟩
    rw [hbytes, run_mark .openObject, ← hrun]
    rfl

/-- Whatever is printed of a value is read as a tree that spells it. -/
theorem reads_of_isPlain (h : j.IsPlain) : Reads j := by
  -- The induction is on how the value is put together. It goes through because reading starts
  -- anywhere in the text and on any stack.
  induction h with
  | null =>
    exact reads_of_scans (Token.scans_literal .null) fun _ _ _ => ⟨_, .null _, rfl⟩
  | bool b =>
    cases b with
    | true => exact reads_of_scans (Token.scans_literal .true) fun _ _ _ => ⟨_, .true _, rfl⟩
    | false => exact reads_of_scans (Token.scans_literal .false) fun _ _ _ => ⟨_, .false _, rfl⟩
  | number hx => exact reads_of_scans (Token.scans_number hx) fun _ _ _ => ⟨_, .number _ _, rfl⟩
  | string s => exact reads_of_scans (Token.scans_string s) fun _ _ _ => ⟨_, .string _ s, rfl⟩
  | array hplain ih => exact reads_array ih hplain
  | object _ ih => exact reads_object ih

/-- A value that is printed is read back as a tree that spells it, and nothing is left. -/
theorem exists_ofText_write (h : j.IsPlain) : ∃ root, root.Spells j ∧
    ofText (Utf8.encode (write j)) = ⟨root, none⟩ := by
  obtain ⟨root, stop, hroot, hrun⟩ := reads_of_isPlain h [] delimited_nil 0 []
  refine ⟨root, hroot, ?_⟩
  rw [List.append_nil] at hrun
  rw [ofText, hrun, State.run]
  rfl

end Document

/-! ### Reading values back -/

variable {α : Type} {r : Reader α} {a : α}

/-- What a reader makes of a value it also makes of the text that is printed of it. -/
theorem Accepts.fromText_render (h : Accepts r maxDepth j a) (hj : j.IsPlain) :
    r.fromText (Utf8.bytes j.render) = .ok a := by
  obtain ⟨root, hroot, hdocument⟩ := Document.exists_ofText_write hj
  have hbytes : Utf8.bytes j.render = Utf8.encode (write j) := by
    rw [Utf8.bytes, render, String.toList_ofList]
  rw [hbytes]
  refine Reader.fromText_eq_ok_iff.mpr ?_
  rw [hdocument]
  exact ⟨h _ root (fun _ => Nat.le_refl maxDepth) hroot, rfl⟩

/-- A value that no text was read for may be as deep as it likes. -/
theorem Accepts.fromJson {depth : Nat} (h : Accepts r depth j a) : r.fromJson j = .ok a := by
  have hadmits : Context.Admits ⟨.value, maxDepth⟩ depth :=
    fun hsource => Source.noConfusion hsource
  rw [Reader.fromJson, h _ _ hadmits (Node.spells_ofJson j)]
  rfl

end ServiceBroker.Json

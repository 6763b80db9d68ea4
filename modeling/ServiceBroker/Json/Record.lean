import ServiceBroker.Json.Reader

/-!
# Readers of records

A record is written as an object whose members may stand in any order, with unknown members passed
over, or as a list of its fields in their order. Its reader is put together from the readers of its
fields, named once each.

A tagged record comes in variants that one field tells apart. Its other fields are set aside until
that field is known, so messages about them name no place.

## Main definitions

* `Json.Record`: the fields of a record and how to build it
* `Json.Record.reader`: the reader of a record
* `Json.Reader.variant`: one of several names
* `Json.Reader.tagged`: the reader of a tagged record
-/

namespace ServiceBroker.Json

/-- The values found for the fields of a record, and the error for a field that has none. -/
structure Slots where
  find? : String → Option Node
  missing : String → ReadError

/-- The fields of a record in their order, each with a check of its value, and how to build the
record from values that have passed. -/
structure Record (α : Type) where
  fields : List (String × Reader Unit)
  build : Context → Slots → Except ReadError α

namespace Record

variable {α β : Type}

/-- A record without fields. -/
def pure (a : α) : Record α := ⟨[], fun _ _ => .ok a⟩

/-- The fields of one record followed by those of another. -/
def seq (f : Record (α → β)) (r : Record α) : Record β :=
  ⟨f.fields ++ r.fields, fun ctx slots => do
    let g ← f.build ctx slots
    return g (← r.build ctx slots)⟩

instance : Applicative Record where
  pure := pure
  seq f r := seq f (r ())

/-- A field that has to be there. -/
def required (name : String) (r : Reader α) : Record α :=
  ⟨[(name, r.map fun _ => ())], fun ctx slots =>
    match slots.find? name with
    | some n => r ctx n
    | none => .error (slots.missing name)⟩

/-- A field that has a value when it is not there. -/
def withDefault (name : String) (r : Reader α) (default : α) : Record α :=
  ⟨[(name, r.map fun _ => ())], fun ctx slots =>
    match slots.find? name with
    | some n => r ctx n
    | none => .ok default⟩

/-- A field that may be absent or null. -/
def optional (name : String) (r : Reader α) : Record (Option α) :=
  withDefault name r.option none

/-- Check the members of an object in the order of the text, and collect those that are fields. -/
def collect (fields : List (String × Reader Unit)) (ctx : Context) (found : List (String × Node)) :
    Entries → Except ReadError (List (String × Node))
  | .closed => .ok found
  | .halted faults _ => .error (ctx.failFault faults.kept)
  | .cons (.error fault) _ _ _ _ => .error (ctx.failFault fault)
  | .cons (.ok key) keySettled value settled rest =>
    match fields.lookup key with
    | none =>
      -- The value of an unknown member has to be well formed and no more.
      match value.skipped? with
      | some fault => .error (ctx.failFault fault)
      | none => collect fields ctx found rest
    | some check =>
      if (found.lookup key).isSome then .error (ctx.fail (.duplicateField key) keySettled)
      else do
        ctx.place settled (check ctx value)
        collect fields ctx ((key, value) :: found) rest

/-- Check the items of a list against the fields in their order, and give the items left over. -/
def collectItems (ctx : Context) (found : List (String × Node)) :
    List (String × Reader Unit) → Items → Except ReadError (List (String × Node) × Items)
  | [], rest => .ok (found, rest)
  | _ :: _, .closed => .ok (found, .closed)
  | _ :: _, .halted faults => .error (ctx.failFault faults.kept)
  | (name, check) :: fields, .cons value settled rest => do
    ctx.place settled (check ctx value)
    collectItems ctx ((name, value) :: found) fields rest

/-- A count of elements, as messages word it. -/
def elements (n : Nat) : String := if n = 1 then "1 element" else s!"{n} elements"

/-- The number of items up to the end of a list. -/
def Items.count : Items → Nat
  | .cons _ _ rest => count rest + 1
  | _ => 0

/-- The error for items left over after the `taken` fields of a record, if there are any. -/
def leftOver (ctx : Context) (taken : Nat) (rest : Items) : Except ReadError Unit :=
  match ctx.source, rest with
  | _, .closed => .ok ()
  | _, .halted faults =>
    let cause := if faults.kept.cause = .expectedCommaInList then .trailingCharacters
      else faults.kept.cause
    .error (ctx.failFault ⟨cause, faults.kept.offset⟩)
  | .text, .cons value _ _ =>
    let offset := match value with
      | .broken start faults =>
        if faults.kept = ⟨.endInValue, start⟩ then start else start + 1
      | value => value.start + 1
    .error (ctx.fail (.fault .trailingCharacters) offset)
  | .value, rest =>
    .error (ctx.fail (.wrongLength (taken + Items.count rest) "fewer elements in array") 0)
  | .setAside, rest =>
    .error (ctx.fail (.wrongLength (taken + Items.count rest) (elements taken ++ " in sequence")) 0)

/-- The reader of a record; `title` names it in messages. -/
def reader (title : String) (r : Record α) : Reader α := fun ctx n =>
  match n with
  | .object span _ entries => do
    let inner ← ctx.enter span.start
    let found ← collect r.fields inner [] entries
    ctx.place span.stop
      (r.build inner ⟨(List.lookup · found), fun name => ⟨.missingField name, none⟩⟩)
  | .list span _ its => do
    let inner ← ctx.enter span.start
    let (found, rest) ← collectItems inner [] r.fields its
    let expected := s!"{title} with {elements r.fields.length}"
    let a ← ctx.place span.stop (r.build inner ⟨(List.lookup · found), fun _ =>
      ⟨.wrongLength found.length expected, none⟩⟩)
    leftOver ctx r.fields.length rest
    return a
  | n => Reader.wrongType title ctx n

end Record

namespace Reader

variable {α : Type}

/-- One of several names, each for a value. -/
def choose (choices : List (String × α)) (name : String) : Except ReadError.Cause α :=
  match choices.lookup name with
  | some a => .ok a
  | none => .error (.unknownVariant name (choices.map (·.1)))

/-- The name of a variant, as a string. -/
def variantName (choices : List (String × α)) : Reader α := fun ctx n =>
  match n with
  | .string span (.ok s) => (choose choices s).mapError (ctx.fail · span.stop)
  | n => wrongType "variant identifier" ctx n

/-- The key of an object that names a variant, where there is none. -/
def missingVariantName (ctx : Context) (faults : Faults) (found : Option Token) : ReadError :=
  match found with
  | none => ctx.failFault ⟨.endInValue, faults.kept.offset⟩
  | some t =>
    let wrong (found : Found) (offset : Nat) :=
      ctx.fail (.wrongType found "variant identifier") offset
    match t.kind with
    | .literal .null => wrong .null t.stop
    | .literal .true => wrong (.bool true) t.stop
    | .literal .false => wrong (.bool false) t.stop
    | .number (.ok x) => wrong (.number x) t.stop
    | .number (.error fault) => ctx.failFault fault
    | .broken _ faults => ctx.failFault faults.kept
    | .openList => wrong .list t.start
    | .openObject => wrong .object t.start
    | _ => ctx.failFault ⟨.expectedValue, t.start + 1⟩

/-- One of several names: a string, or an object whose only member has that key and the value null.
-/
def variant (choices : List (String × α)) : Reader α := fun ctx n =>
  match n with
  | .string _ _ => variantName choices ctx n
  | .object span _ entries => do
    let inner ← ctx.enter span.start
    match entries with
    | .closed => .error (inner.failFault ⟨.expectedValue, span.stop⟩)
    | .halted faults found => .error (missingVariantName inner faults found)
    | .cons (.error fault) _ _ _ _ => .error (inner.failFault fault)
    | .cons (.ok key) keySettled value settled rest =>
      let a ← (choose choices key).mapError (inner.fail · keySettled)
      match value with
      | .literal _ .null => Except.ok ()
      | value => wrongType "unit" inner value
      match rest with
      | .closed => return a
      | .halted faults _ =>
        if faults.kept.cause = .endInObject then .error (inner.failFault faults.kept)
        else .error (inner.failFault ⟨.expectedValue, settled⟩)
      | _ => .error (inner.failFault ⟨.expectedValue, settled⟩)
  | .broken start faults =>
    -- Only a string is looked into; anything else is refused at its first byte.
    let inString := faults.kept.cause ∈
      [.endInString, .invalidEscape, .controlCharacter, .loneSurrogate, .missingSurrogate]
    if inString || faults.kept = ⟨.endInValue, start⟩ then .error (ctx.failFault faults.kept)
    else .error (ctx.failFault ⟨.expectedValue, start + 1⟩)
  | n => .error (ctx.failFault ⟨.expectedValue, n.start + 1⟩)

/-- The members of an object other than the tag, with the variant that the tag names. -/
def splitTag (tag : String) (choices : List (String × α)) (ctx : Context) (found : Option α) :
    Entries → Except ReadError (Option α × Entries)
  | .closed => .ok (found, .closed)
  | .halted faults _ => .error (ctx.failFault faults.kept)
  | .cons (.error fault) _ _ _ _ => .error (ctx.failFault fault)
  | .cons (.ok key) keySettled value settled rest =>
    if key = tag then
      match found with
      | some _ => .error (ctx.fail (.duplicateField tag) keySettled)
      | none => do
        let a ← variantName choices ctx value
        splitTag tag choices ctx (some a) rest
    else do
      -- What is set aside is read as any value first, with the faults of that.
      let _ ← json ctx value
      let (found, rest) ← splitTag tag choices ctx found rest
      return (found, .cons (.ok key) keySettled value settled rest)

/-- A variant without fields: every member is passed over, but a list has to be empty. -/
def unit (a : α) : Reader α := fun ctx n =>
  match n with
  | .list _ _ its => do
    Record.leftOver ctx 0 its
    return a
  | _ => .ok a

/-- A record that comes in variants, told apart by the field `tag`. As a list it has the name of the
variant first. -/
def tagged (title tag : String) (choices : List (String × Reader α)) : Reader α := fun ctx n =>
  match n with
  | .object span _ entries => do
    let inner ← ctx.enter span.start
    let (found, rest) ← splitTag tag choices inner none entries
    match found with
    | none => .error (ctx.fail (.missingField tag) span.stop)
    | some r => r { inner with source := .setAside } (.object span none rest)
  | .list span _ its => do
    let inner ← ctx.enter span.start
    match its with
    | .closed => .error (ctx.fail (.missingField tag) span.stop)
    | .halted faults => .error (ctx.failFault faults.kept)
    | .cons value _ rest =>
      let r ← variantName choices inner value
      let _ ← jsonItems inner rest
      r { inner with source := .setAside } (.list span none rest)
  | n => wrongType title ctx n

end Reader

end ServiceBroker.Json

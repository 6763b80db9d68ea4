import ServiceBroker.Json.Token

/-!
# JSON documents

A document is the tree of a text, with the offsets that messages need. It exists for every text:
where the text stops being JSON, the tree holds the fault. Typed readers walk the tree in the order
of the text, so the first fault or mismatch that they meet is the first one in the text.

## Main definitions

* `Json.Node`, `Json.Items`, `Json.Members`: the tree
* `Json.Document.ofText`: the document of a text
* `Json.Node.ofJson`: the tree of a value that no text was read for
-/

namespace ServiceBroker.Json

/-- The offsets at which a value starts and stops. -/
structure Span where
  start : Nat
  stop : Nat

mutual

/-- A value in a text. A list or object carries the fault that a reader who skips it meets, if there
is one; `broken` stands for a value that has no end. -/
inductive Node where
  | literal (span : Span) (value : Literal)
  | number (span : Span) (value : Except Fault Number)
  | string (span : Span) (value : Except Fault String)
  | list (span : Span) (skipped : Option Fault) (items : Items)
  | object (span : Span) (skipped : Option Fault) (members : Entries)
  | broken (start : Nat) (faults : Faults)

/-- The items of a list up to its end, or up to a fault between two items. Each item comes with the
offset at which a reader stands that has looked for what follows it. -/
inductive Items where
  | closed
  | halted (faults : Faults)
  | cons (value : Node) (settled : Nat) (rest : Items)

/-- The members of an object up to its end, or up to a fault between two members, then with the
token found where a key should be. Key and value each come with the offset at which a reader stands
that has looked for what follows. -/
inductive Entries where
  | closed
  | halted (faults : Faults) (found : Option Token)
  | cons (key : Except Fault String) (keySettled : Nat) (value : Node) (settled : Nat)
      (rest : Entries)

end

/-- The offset at which a value starts. -/
def Node.start : Node → Nat
  | .literal span _ | .number span _ | .string span _ => span.start
  | .list span _ _ | .object span _ _ => span.start
  | .broken start _ => start

/-- The fault that a reader meets who skips the value. -/
def Node.skipped? : Node → Option Fault
  | .list _ skipped _ | .object _ skipped _ => skipped
  | .broken _ faults => some faults.skipped
  | _ => none

/-- A member of an object that is still being read. -/
structure Member where
  key : Except Fault String
  keySettled : Nat
  value : Node
  settled : Nat

/-- Items in front of `rest`, the latest first. -/
def Items.prepend (items : List (Node × Nat)) (rest : Items) : Items :=
  items.foldl (fun rest item => .cons item.1 item.2 rest) rest

/-- Members in front of `rest`, the latest first. -/
def Entries.prepend (members : List Member) (rest : Entries) : Entries :=
  members.foldl (fun rest m => .cons m.key m.keySettled m.value m.settled rest) rest

namespace Document

/-- A list or object that is still being read, its latest item or member first; `member` is an
object whose next value is being read. -/
inductive Frame where
  | list (start : Nat) (items : List (Node × Nat))
  | object (start : Nat) (members : List Member)
  | member (start : Nat) (members : List Member) (key : Except Fault String) (keySettled : Nat)

/-- What may come next. -/
inductive Expect where
  | value
  | firstItem
  | item
  | afterItem
  | firstKey
  | key
  | colon (key : Except Fault String)
  | afterMember

/-- How far a text has been read: inside a value, past the first value, past more than that, or up
to a fault. -/
inductive State where
  | inside (expect : Expect) (stack : List Frame)
  | complete (root : Node)
  | trailing (root : Node) (fault : Fault)
  | halted (root : Node)

/-- A value has been read. -/
def State.push (n : Node) : List Frame → State
  | [] => .complete n
  | .list start items :: stack => .inside .afterItem (.list start ((n, 0) :: items) :: stack)
  | .member start members key keySettled :: stack =>
    .inside .afterMember (.object start (⟨key, keySettled, n, 0⟩ :: members) :: stack)
  | .object start members :: stack => .inside .afterMember (.object start members :: stack)

/-- Close every open list and object around a value that holds a fault. -/
def unwind (faults : Faults) (n : Node) : List Frame → Node
  | [] => n
  | .list start items :: stack =>
    unwind faults (.list ⟨start, start⟩ (some faults.skipped)
      (.prepend ((n, 0) :: items) (.halted faults))) stack
  | .member start members key keySettled :: stack =>
    unwind faults (.object ⟨start, start⟩ (some faults.skipped)
      (.prepend (⟨key, keySettled, n, 0⟩ :: members) (.halted faults none))) stack
  | .object start members :: stack =>
    unwind faults (.object ⟨start, start⟩ (some faults.skipped)
      (.prepend members (.halted faults none))) stack

/-- The value that should come next has a fault. -/
def State.breakValue (start : Nat) (faults : Faults) (stack : List Frame) : State :=
  .halted (unwind faults (.broken start faults) stack)

/-- There is a fault between the items or members of the innermost list or object. -/
def State.breakFrame (faults : Faults) (found : Option Token) : List Frame → State
  | .list start items :: stack =>
    .halted (unwind faults (.list ⟨start, start⟩ (some faults.skipped)
      (.prepend items (.halted faults))) stack)
  | .object start members :: stack =>
    .halted (unwind faults (.object ⟨start, start⟩ (some faults.skipped)
      (.prepend members (.halted faults found))) stack)
  | stack => .breakValue faults.kept.offset faults stack

/-- A key is followed by a fault, or has one itself. -/
def State.breakMember (key : Except Fault String) (keySettled : Nat) (faults : Faults) :
    List Frame → State
  | .object start members :: stack =>
    .breakValue keySettled faults (.member start members key keySettled :: stack)
  | stack => .breakValue keySettled faults stack

/-- Note where a reader stands that has looked for what follows the latest item or member. -/
def settle (offset : Nat) : List Frame → List Frame
  | .list start ((n, _) :: items) :: stack => .list start ((n, offset) :: items) :: stack
  | .object start (m :: members) :: stack =>
    .object start ({ m with settled := offset } :: members) :: stack
  | stack => stack

/-- The innermost list or object ends at `stop`. -/
def State.close (stop : Nat) : List Frame → State
  | .list start items :: stack =>
    .push (.list ⟨start, stop⟩ none (.prepend items .closed)) stack
  | .object start members :: stack =>
    .push (.object ⟨start, stop⟩ none (.prepend members .closed)) stack
  | stack => .inside .value stack

/-- A token where a value should start. -/
def State.startValue (t : Token) (stack : List Frame) : State :=
  match t.kind with
  | .openList => .inside .firstItem (.list t.start [] :: stack)
  | .openObject => .inside .firstKey (.object t.start [] :: stack)
  | .literal value => .push (.literal ⟨t.start, t.stop⟩ value) stack
  | .number value => .push (.number ⟨t.start, t.stop⟩ value) stack
  | .string value => .push (.string ⟨t.start, t.stop⟩ value) stack
  | .broken _ faults => .breakValue t.start faults stack
  | _ => .breakValue t.start (.both .expectedValue (t.start + 1)) stack

/-- A token where a key should be; `closing` are the faults of an object that closes here. -/
def State.startKey (t : Token) (closing : Fault.Cause) (stack : List Frame) : State :=
  match t.kind with
  | .string key => .inside (.colon key) stack
  | .broken true faults => .breakMember (.error faults.kept) t.start faults stack
  | .closeObject =>
    .breakFrame ⟨⟨closing, t.start + 1⟩, ⟨.keyMustBeString, t.start + 1⟩⟩ (some t) stack
  | _ => .breakFrame (.both .keyMustBeString (t.start + 1)) (some t) stack

/-- Read one token. -/
def State.step (t : Token) : State → State
  | .inside .value stack => .startValue t stack
  | .inside .firstItem stack =>
    match t.kind with
    | .closeList => .close t.stop stack
    | _ => .startValue t stack
  | .inside .item stack =>
    -- After a comma a reader of a list looks on to the next item, one of an object does not.
    let stack := settle t.start stack
    match t.kind with
    | .closeList =>
      .breakFrame ⟨⟨.trailingComma, t.start + 1⟩, ⟨.expectedValue, t.start + 1⟩⟩ none stack
    | _ => .startValue t stack
  | .inside .afterItem stack =>
    match t.kind with
    | .comma => .inside .item (settle t.stop stack)
    | .closeList => .close t.stop (settle t.stop stack)
    | _ => .breakFrame (.both .expectedCommaInList (t.start + 1)) none (settle t.start stack)
  | .inside .firstKey stack =>
    match t.kind with
    | .closeObject => .close t.stop stack
    | _ => .startKey t .keyMustBeString stack
  | .inside .key stack => .startKey t .trailingComma stack
  | .inside (.colon key) stack =>
    match t.kind, stack with
    | .colon, .object start members :: stack =>
      .inside .value (.member start members key t.start :: stack)
    | .closeObject, stack => .breakMember key t.stop (.both .expectedColon (t.start + 1)) stack
    | _, stack => .breakMember key t.start (.both .expectedColon (t.start + 1)) stack
  | .inside .afterMember stack =>
    match t.kind with
    | .comma => .inside .key (settle t.start stack)
    | .closeObject => .close t.stop (settle t.stop stack)
    | _ => .breakFrame (.both .expectedCommaInObject (t.start + 1)) none (settle t.start stack)
  | .complete root => .trailing root ⟨.trailingCharacters, t.start + 1⟩
  | s => s

/-- The text ends at `stop`. -/
def State.finish (stop : Nat) : State → State
  | .inside .value stack => .breakValue stop (.both .endInValue stop) stack
  | .inside .item stack => .breakValue stop (.both .endInValue stop) (settle stop stack)
  | .inside .firstItem stack => .breakFrame (.both .endInList stop) none stack
  | .inside .afterItem stack => .breakFrame (.both .endInList stop) none (settle stop stack)
  | .inside .firstKey stack => .breakFrame (.both .endInObject stop) none stack
  | .inside .key stack => .breakFrame ⟨⟨.endInValue, stop⟩, ⟨.endInObject, stop⟩⟩ none stack
  | .inside (.colon key) stack => .breakMember key stop (.both .endInObject stop) stack
  | .inside .afterMember stack => .breakFrame (.both .endInObject stop) none (settle stop stack)
  | s => s

/-- Read a text that is at byte `pos` to its end. -/
def State.run (s : State) (pos : Nat) (text : List UInt8) : State :=
  match text with
  | [] => s.finish pos
  | b :: rest =>
    if Token.isSpace b then s.run (pos + 1) rest
    else
      have : (Token.scan pos b rest).2.length ≤ rest.length :=
        Nat.le_of_lt_succ (Token.length_scan pos b rest)
      (s.step (Token.scan pos b rest).1).run (Token.scan pos b rest).1.stop
        (Token.scan pos b rest).2
termination_by text.length

end Document

/-- The first value of a text, and the fault of what follows it. -/
structure Document where
  root : Node
  trailing : Option Fault

/-- The document of a text. -/
def Document.ofText (text : List UInt8) : Document :=
  match State.run (.inside .value []) 0 text with
  | .complete root | .halted root => ⟨root, none⟩
  | .trailing root fault => ⟨root, some fault⟩
  | .inside _ _ => ⟨.broken text.length (.both .endInValue text.length), none⟩

mutual

/-- The tree of a value that no text was read for. -/
def Node.ofJson : Json → Node
  | .null => .literal ⟨0, 0⟩ .null
  | .bool b => .literal ⟨0, 0⟩ (if b then .true else .false)
  | .number n => .number ⟨0, 0⟩ (.ok n)
  | .string s => .string ⟨0, 0⟩ (.ok s)
  | .array items => .list ⟨0, 0⟩ none (Items.ofJsons items)
  | .object members => .object ⟨0, 0⟩ none (Entries.ofMembers members)

/-- The items of a list that no text was read for. -/
def Items.ofJsons : List Json → Items
  | [] => .closed
  | j :: rest => .cons (Node.ofJson j) 0 (Items.ofJsons rest)

/-- The members of an object that no text was read for. -/
def Entries.ofMembers : List (String × Json) → Entries
  | [] => .closed
  | (key, j) :: rest => .cons (.ok key) 0 (Node.ofJson j) 0 (Entries.ofMembers rest)

end

end ServiceBroker.Json

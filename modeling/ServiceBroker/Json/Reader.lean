import ServiceBroker.Json.Document
import ServiceBroker.Decimal.Shortest
import ServiceBroker.Text.Quoted

/-!
# Typed readers of JSON

A reader walks a document in the order of its text and gives a typed value or the first thing that
is wrong. The same readers also run over values that are already in memory and over values that a
reader has had to set aside; then there are no places to name.

## Main definitions

* `Json.ReadError`: what is wrong, and after how many bytes it showed
* `Json.Reader`: a reader, with `string`, `bool`, `uint32`, `uint64`, `option`, `list`, `json` and
  `members`
* `Json.Reader.fromText`, `Json.Reader.fromJson`: run a reader over a text or a value
-/

namespace ServiceBroker.Json

/-- What a reader found where it expected something else. -/
inductive Found where
  | null
  | bool (b : Bool)
  | number (n : Number)
  | string (s : String)
  | list
  | object

/-- The text of a number in a message. -/
def Found.describeNumber : Number → String
  | .natural n => s!"integer `{n}`"
  | .negative n => s!"integer `-{n}`"
  | .float x => s!"floating point `{Decimal.scientific x}`"

/-- The wording for what was found. -/
def Found.describe : Found → String
  | .null => "null"
  | .bool b => s!"boolean `{b}`"
  | .number n => describeNumber n
  | .string s => "string " ++ Text.quote s
  | .list => "sequence"
  | .object => "map"

/-- What is wrong with a value. -/
inductive ReadError.Cause where
  | fault (cause : Fault.Cause)
  | wrongType (found : Found) (expected : String)
  | wrongValue (found : Found) (expected : String)
  | wrongLength (length : Nat) (expected : String)
  | missingField (name : String)
  | duplicateField (name : String)
  | unknownVariant (found : String) (expected : List String)

/-- The choices that a message offers. -/
def describeChoices : List String → String
  | [] => "there are no variants"
  | [a] => s!"expected `{a}`"
  | [a, b] => s!"expected `{a}` or `{b}`"
  | choices => "expected one of " ++ String.intercalate ", " (choices.map fun c => s!"`{c}`")

/-- The wording of what is wrong. -/
def ReadError.Cause.message : ReadError.Cause → String
  | .fault cause => cause.message
  | .wrongType found expected => s!"invalid type: {found.describe}, expected {expected}"
  | .wrongValue found expected => s!"invalid value: {found.describe}, expected {expected}"
  | .wrongLength length expected => s!"invalid length {length}, expected {expected}"
  | .missingField name => s!"missing field `{name}`"
  | .duplicateField name => s!"duplicate field `{name}`"
  | .unknownVariant found expected => s!"unknown variant `{found}`, " ++ describeChoices expected

/-- What is wrong, and after how many bytes of the text it showed, if that is known. -/
structure ReadError where
  cause : ReadError.Cause
  offset : Option Nat

/-- Where the values come from that a reader reads. -/
inductive Source where
  | text
  | value
  | setAside
  deriving DecidableEq

/-- Where values come from, and how many lists and objects may still be opened inside each other. -/
structure Context where
  source : Source
  allowance : Nat

/-- A typed reader. -/
abbrev Reader (α : Type) := Context → Node → Except ReadError α

/-- An error that showed at an offset. -/
def Context.fail (ctx : Context) (cause : ReadError.Cause) (offset : Nat) : ReadError :=
  ⟨cause, if ctx.source = .text then some offset else none⟩

/-- A fault as an error. -/
def Context.failFault (ctx : Context) (fault : Fault) : ReadError :=
  ctx.fail (.fault fault.cause) fault.offset

/-- Give an error that names no place the place where it came to light. -/
def Context.place {α : Type} (ctx : Context) (offset : Nat) :
    Except ReadError α → Except ReadError α
  | .error ⟨cause, none⟩ => .error (ctx.fail cause offset)
  | result => result

/-- Open a list or object that starts at an offset. -/
def Context.enter (ctx : Context) (start : Nat) : Except ReadError Context :=
  match ctx.source, ctx.allowance with
  | .text, 0 => .error (ctx.fail (.fault .tooDeep) (start + 1))
  | _, n => .ok { ctx with allowance := n - 1 }

namespace Reader

variable {α β : Type}

/-- Read a value and apply a function to it. -/
def map (f : α → β) (r : Reader α) : Reader β := fun ctx n => (r ctx n).map f

/-- The error for a value of the wrong type. -/
def wrongType (expected : String) : Reader α := fun ctx n =>
  match n with
  | .literal span .null => .error (ctx.fail (.wrongType .null expected) span.stop)
  | .literal span .true => .error (ctx.fail (.wrongType (.bool true) expected) span.stop)
  | .literal span .false => .error (ctx.fail (.wrongType (.bool false) expected) span.stop)
  | .number span (.ok x) => .error (ctx.fail (.wrongType (.number x) expected) span.stop)
  | .string span (.ok s) => .error (ctx.fail (.wrongType (.string s) expected) span.stop)
  | .number _ (.error fault) | .string _ (.error fault) => .error (ctx.failFault fault)
  | .list span _ _ => .error (ctx.fail (.wrongType .list expected) span.start)
  | .object span _ _ => .error (ctx.fail (.wrongType .object expected) span.start)
  | .broken _ faults => .error (ctx.failFault faults.kept)

/-- A string; `expected` names it in messages. -/
def stringAs (expected : String) : Reader String := fun ctx n =>
  match n with
  | .string _ (.ok s) => .ok s
  | n => wrongType expected ctx n

/-- A string. -/
def string : Reader String := stringAs "a string"

/-- A boolean. -/
def bool : Reader Bool := fun ctx n =>
  match n with
  | .literal _ .true => .ok true
  | .literal _ .false => .ok false
  | n => wrongType "a boolean" ctx n

/-- An integer from zero to `max`; `expected` names its type in messages. -/
def natural (max : Nat) (expected : String) : Reader Nat := fun ctx n =>
  match n with
  | .number span (.ok (.natural k)) =>
    if k ≤ max then .ok k
    else .error (ctx.fail (.wrongValue (.number (.natural k)) expected) span.stop)
  | .number span (.ok (.negative k)) =>
    .error (ctx.fail (.wrongValue (.number (.negative k)) expected) span.stop)
  | n => wrongType expected ctx n

/-- An integer of 32 bits without sign. -/
def uint32 : Reader UInt32 := (natural 4294967295 "u32").map UInt32.ofNat

/-- An integer of 64 bits without sign. -/
def uint64 : Reader UInt64 := (natural 18446744073709551615 "u64").map UInt64.ofNat

/-- A value or null. -/
def option (r : Reader α) : Reader (Option α) := fun ctx n =>
  match n with
  | .literal _ .null => .ok none
  | n => (r ctx n).map some

/-- The items of a list, up to its end. -/
def items (r : Reader α) (ctx : Context) : Items → Except ReadError (List α)
  | .closed => .ok []
  | .halted faults => .error (ctx.failFault faults.kept)
  | .cons value settled rest => do
    let a ← ctx.place settled (r ctx value)
    return a :: (← items r ctx rest)

/-- A list. -/
def list (r : Reader α) : Reader (List α) := fun ctx n =>
  match n with
  | .list span _ its => do items r (← ctx.enter span.start) its
  | n => wrongType "a sequence" ctx n

mutual

/-- Any value. -/
def json (ctx : Context) : Node → Except ReadError Json
  | .literal _ value => .ok value.toJson
  | .number _ (.ok x) => .ok (.number x)
  | .string _ (.ok s) => .ok (.string s)
  | .number _ (.error fault) | .string _ (.error fault) => .error (ctx.failFault fault)
  | .broken _ faults => .error (ctx.failFault faults.kept)
  | .list span _ its => do
    return .array (← jsonItems (← ctx.enter span.start) its)
  | .object span _ entries => do
    return ofMembers (← jsonEntries (← ctx.enter span.start) entries)

/-- Any items. -/
def jsonItems (ctx : Context) : Items → Except ReadError (List Json)
  | .closed => .ok []
  | .halted faults => .error (ctx.failFault faults.kept)
  | .cons value _ rest => do
    let j ← json ctx value
    return j :: (← jsonItems ctx rest)

/-- Any members, in the order of the text. -/
def jsonEntries (ctx : Context) : Entries → Except ReadError (List (String × Json))
  | .closed => .ok []
  | .halted faults _ => .error (ctx.failFault faults.kept)
  | .cons key _ value _ rest => do
    match key with
    | .error fault => .error (ctx.failFault fault)
    | .ok key =>
      let j ← json ctx value
      return (key, j) :: (← jsonEntries ctx rest)

end

/-- An object with members of any kind; of equal keys the last one counts. -/
def members : Reader Members := fun ctx n =>
  match n with
  | .object span _ entries => do
    return Members.ofList (← jsonEntries (← ctx.enter span.start) entries)
  | n => wrongType "a map" ctx n

end Reader

/-- Why a value could not be read, as its message tells it. -/
structure ReadFailure where
  cause : ReadError.Cause
  place : Option Place

/-- The wording of a failure. -/
def ReadFailure.message (e : ReadFailure) : String :=
  match e.place with
  | none => e.cause.message
  | some p => s!"{e.cause.message} at line {p.line} column {p.column}"

/-- The number of lists and objects that may be nested in a text. -/
def maxDepth : Nat := 127

/-- Run a reader over a text, which may hold nothing but white space after the value. -/
def Reader.fromText {α : Type} (r : Reader α) (text : List UInt8) : Except ReadFailure α :=
  let document := Document.ofText text
  let fail (e : ReadError) : ReadFailure := ⟨e.cause, e.offset.map (Place.of text)⟩
  match r ⟨.text, maxDepth⟩ document.root, document.trailing with
  | .error e, _ => .error (fail e)
  | .ok _, some fault => .error (fail ⟨.fault fault.cause, some fault.offset⟩)
  | .ok a, none => .ok a

/-- Run a reader over a value. -/
def Reader.fromJson {α : Type} (r : Reader α) (j : Json) : Except ReadFailure α :=
  (r ⟨.value, maxDepth⟩ (Node.ofJson j)).mapError fun e => ⟨e.cause, none⟩

/-- The value that a text spells. -/
def ofText (text : List UInt8) : Except ReadFailure Json := Reader.fromText Reader.json text

end ServiceBroker.Json

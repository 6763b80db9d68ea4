/-!
# JSON values

## Main definitions

* `Json.Number`: a number as its text spells it, an integer or a binary floating-point number
* `Json`: a value; the members of an object are kept in ascending order of their keys
* `Json.Members.insert`: add a member, in the place of an earlier one with the same key
* `Json.get?`: the member of an object with a given key

## Main results

* `Json.Members.find?_insert`: reading a key back after an insertion
-/

namespace ServiceBroker

/-- A JSON number: an integer of at most 64 bits, or a floating-point number. -/
inductive Json.Number where
  | natural (n : Nat)
  | negative (n : Nat)
  | float (x : Float)
  deriving Inhabited

/-- A JSON value. -/
inductive Json where
  | null
  | bool (b : Bool)
  | number (n : Json.Number)
  | string (s : String)
  | array (items : List Json)
  | object (members : List (String × Json))
  deriving Inhabited

namespace Json

/-- The members of an object. -/
abbrev Members := List (String × Json)

/-- Add a member, in the place of an earlier one with the same key; keys stay in ascending order. -/
def Members.insert (key : String) (value : Json) : Members → Members
  | [] => [(key, value)]
  | (k, v) :: rest =>
    if key = k then (key, value) :: rest
    else if key < k then (key, value) :: (k, v) :: rest
    else (k, v) :: Members.insert key value rest

/-- The value of the member with a given key. -/
def Members.find? : Members → String → Option Json
  | [], _ => none
  | (k, v) :: rest, key => if key = k then some v else Members.find? rest key

/-- After an insertion the new value is found under its key, and every other key as before. -/
theorem Members.find?_insert (members : Members) (key k : String) (value : Json) :
    (members.insert key value).find? k = if k = key then some value else members.find? k := by
  induction members with
  | nil => simp [insert, find?]
  | cons m rest ih => grind [insert, find?]

/-- Members in the order in which a text lists them; of equal keys the last one counts. -/
def Members.ofList (members : List (String × Json)) : Members :=
  members.foldl (fun acc m => Members.insert m.1 m.2 acc) []

/-- The object with the given members; of equal keys the last one counts. -/
def ofMembers (members : List (String × Json)) : Json := .object (Members.ofList members)

/-- The member of an object with a given key; nothing for any other value. -/
def get? (j : Json) (key : String) : Option Json :=
  match j with
  | .object members => Members.find? members key
  | _ => none

/-- A natural number. -/
def nat (n : Nat) : Json := .number (.natural n)

/-- The text of a string value. -/
def asString? : Json → Option String
  | .string s => some s
  | _ => none

/-- The items of an array value. -/
def asArray? : Json → Option (List Json)
  | .array items => some items
  | _ => none

/-- A text, or null if there is none. -/
def ofString? : Option String → Json
  | none => .null
  | some s => .string s

end Json

end ServiceBroker

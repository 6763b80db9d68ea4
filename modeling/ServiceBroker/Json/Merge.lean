import ServiceBroker.Json.Basic

/-!
# Laying one value over another

## Main definitions

* `Json.overlay`: a value with another one laid over it
* `Json.nested`: a value inside objects with one member each
-/

namespace ServiceBroker.Json

mutual

/-- A value with another one laid over it. Of two objects all members are kept, and members of both
are laid over each other; in all other cases the upper value counts. -/
def overlay (lower : Json) : Json → Json
  | .object upper =>
    match lower with
    | .object members => .object (overlayMembers members upper)
    | _ => .object upper
  | upper => upper

/-- Members with others laid over them. -/
def overlayMembers (lower : Members) : List (String × Json) → Members
  | [] => lower
  | (key, value) :: rest =>
    let value := match lower.find? key with
      | some under => overlay under value
      | none => value
    overlayMembers (Members.insert key value lower) rest

end

/-- A value inside objects with one member each, the outermost first. -/
def nested (path : List String) (value : Json) : Json :=
  path.foldr (fun key inner => .object [(key, inner)]) value

end ServiceBroker.Json

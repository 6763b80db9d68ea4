import ServiceBroker.Executor.Failure
import ServiceBroker.Program
import ServiceBroker.Table

/-!
# Finding the namespace of an instance

A cluster carries its instance ID as a label. Its namespace is looked up by that label once and
remembered; an instance does not move.

## Main definitions

* `Locator.selector`: the label selector of an instance
* `Locator.resolve`: the namespace of an instance, as a program
* `Locator.Script`: a memo with answers to come, to run such programs on
-/

namespace ServiceBroker.Locator

/-- What resolving asks for. -/
inductive Request where
  /-- The namespace remembered for an instance. -/
  | recall (instanceId : String)
  /-- The namespaces of the clusters that a selector matches. -/
  | lookup (selector : String)
  /-- Keep the namespace of an instance. -/
  | remember (instanceId namespaceName : String)
  deriving DecidableEq, Repr

/-- The answer to a lookup. -/
abbrev Answer : Type := Except Executor.Failure (List String)

/-- The type of the reply to a request. -/
abbrev Request.Reply : Request → Type
  | .recall _ => Option String
  | .lookup _ => Answer
  | .remember .. => Unit

/-- The effects of resolving. -/
abbrev effects : Effects := ⟨Request, Request.Reply⟩

/-- The label selector that the cluster of an instance matches. -/
def selector (labelKey instanceId : String) : String := labelKey ++ "=" ++ instanceId

/-- The namespace of an instance. Where several clusters match, the first one counts. -/
def resolve (labelKey instanceId : String) :
    Program effects (Except Executor.Failure String) :=
  .ask (.recall instanceId) fun known =>
    match (known : Option String) with
    | some namespaceName => .done (.ok namespaceName)
    | none =>
      .ask (.lookup (selector labelKey instanceId)) fun answer =>
        match (answer : Answer) with
        | .error failure => .done (.error failure)
        | .ok [] => .done (.error (.instanceNotFound
            s!"no cluster matches selector {selector labelKey instanceId}"))
        | .ok (namespaceName :: _) =>
          .ask (.remember instanceId namespaceName) fun _ => .done (.ok namespaceName)

/-- A memo, the answers still to be given to lookups, and the selectors asked for so far, the latest
first. -/
structure Script where
  memo : Table String String
  answers : List Answer
  asked : List String

/-- Give the reply to a request. When no answer is left, a lookup finds nothing. -/
def Script.answer : (r : Request) → StateM Script r.Reply
  | .recall id => fun s => (s.memo.find? id, s)
  | .lookup sel => fun s =>
    let answer : Answer := s.answers.head?.getD (.ok [])
    (answer, { s with answers := s.answers.tail, asked := sel :: s.asked })
  | .remember id namespaceName => fun s => ((), { s with memo := s.memo.put id namespaceName })

end ServiceBroker.Locator

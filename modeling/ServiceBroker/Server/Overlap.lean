import ServiceBroker.Server.Basic

/-!
# Overlapping requests

Requests that are under way together share the executor, the counters and the lock. A request goes
on as far as it can and then waits, for the lock or for an executor call that takes its time. Here
one call takes its time: the first that names the gate, until the gate is opened.

## Main definitions

* `Overlap`: what overlapping requests share
* `Overlap.advance`: let a request go on as far as it can
* `Overlap.run`: start requests one after the other, and open the gate once none can go on
-/

namespace ServiceBroker

/-- What an operation is about, as far as a gate can name it. -/
def Executor.Operation.subject? : Executor.Operation → Option String
  | .createCluster order => some order.clusterName
  | .deleteCluster instanceId => some instanceId
  | .createBinding _ bindingId _ | .deleteBinding _ bindingId => some bindingId
  | .clusterDetail _ => none

/-- The state of a gate: it waits for a call that names it, it holds one up, or all calls pass. -/
inductive Gate where
  | waiting (name : String)
  | holding (op : Executor.Operation)
  | passed
  deriving DecidableEq, Repr

namespace Gate

/-- The number of cluster changes that the gate holds up. -/
def clusterChanges : Gate → Nat
  | .holding op => if op.changesCluster then 1 else 0
  | _ => 0

end Gate

/-- What overlapping requests share: the state of the server, whether the lock is taken, the gate,
and the most cluster changes that were ever in progress together. -/
structure Overlap (σ : Type) where
  server : Server.State σ
  locked : Bool
  gate : Gate
  mostChanges : Nat

namespace Overlap

open Server

variable {σ : Type}

/-- Nothing is under way. -/
def start (s : Server.State σ) : Overlap σ := ⟨s, false, .passed, 0⟩

/-- Count an operation that arrives at the executor. -/
def arrive (w : Overlap σ) (op : Executor.Operation) : Overlap σ :=
  let now := w.gate.clusterChanges + if op.changesCluster then 1 else 0
  { w with mostChanges := max w.mostChanges now }

/-- Meet a need, unless the request has to wait. A gate that holds one call up lets all others
pass. -/
def meet (e : Executor σ) (validate : String → Except Failure String) (w : Overlap σ) :
    (need : Need) → Option need.Reply × Overlap σ
  | .step .acquire => if w.locked then (none, w) else (some (), { w with locked := true })
  | .step .release => (some (), { w with locked := false })
  | .step (.execute op) =>
    match w.gate with
    | .waiting name =>
      -- The call has arrived when the gate stops it, so it counts as in progress.
      if op.subject? = some name then (none, { w.arrive op with gate := .holding op })
      else perform op (w.arrive op)
    | .holding _ | .passed => perform op (w.arrive op)
  | need =>
    let (reply, next) := sequential e validate need w.server
    (some reply, { w with server := next })
where
  /-- Carry out an operation. -/
  perform (op : Executor.Operation) (w : Overlap σ) :
      Option (Executor.Outcome op) × Overlap σ :=
    let (outcome, next) := e.perform op w.server.executor
    (some outcome, { w with server := { w.server with executor := next } })

/-- Let a request go on as far as it can. -/
def advance {α : Type} (e : Executor σ) (validate : String → Except Failure String) :
    Program effects α → Overlap σ → Program effects α × Overlap σ
  | .done a, w => (.done a, w)
  | .ask need resume, w =>
    match w.meet e validate need with
    | (some reply, w) => advance e validate (resume reply) w
    | (none, w) => (.ask need resume, w)

/-- Let requests go on, one after the other. -/
def advanceAll {α : Type} (e : Executor σ) (validate : String → Except Failure String) :
    List (Program effects α) → Overlap σ → List (Program effects α) × Overlap σ
  | [], w => ([], w)
  | p :: rest, w =>
    let (p, w) := advance e validate p w
    let (rest, w) := advanceAll e validate rest w
    (p :: rest, w)

end Overlap

/-- What came of overlapping requests: which were answered while the gate held a call up, the
answers, and the most cluster changes that were ever in progress together. -/
structure Overlap.Report where
  answeredEarly : List Bool
  answers : List (Option Http.Response)
  mostChanges : Nat

/-- The value of a program that is done. -/
def Program.value? {E : Effects} {α : Type} : Program E α → Option α
  | .done a => some a
  | .ask .. => none

namespace Overlap

variable {σ : Type}

/-- Serve the requests of `setup` one by one, then start those of `requests` one after the other
with a gate called `name`, and open it once none of them can go on. -/
def run (s : Server) (e : Executor σ) (validate : String → Except Failure String) (name : String)
    (setup requests : List Http.Request) (initial : σ) : Report :=
  let (_, w) := advanceAll e validate (setup.map s.answer) (start (.start initial))
  let (held, w) :=
    advanceAll e validate (requests.map s.answer) { w with gate := .waiting name }
  let (ended, w) := advanceAll e validate held { w with gate := .passed }
  ⟨held.map fun p => p.value?.isSome, ended.map Program.value?, w.mostChanges⟩

end Overlap

end ServiceBroker

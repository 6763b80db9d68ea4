/-!
# Programs over a set of effects

A program is data: either it is done with a value, or it asks its surroundings for something and
goes on with the reply. The broker, the executors and the HTTP service are all written as such
programs, so one definition can be run to its end against a state, watched request by request, or
interleaved with other programs.

## Main definitions

* `Effects`: what may be asked, and the type of each reply
* `Program`: a computation that asks and then is done
* `Program.runIn`: run a program in a monad that answers its requests
* `Program.Run`: the requests and replies of one complete run, as a relation
-/

namespace ServiceBroker

/-- What a program may ask of its surroundings: the requests, and the type of the reply to each. -/
structure Effects where
  Request : Type
  Reply : Request → Type

/-- A computation that asks for effects one after the other and is then done with a value. -/
inductive Program (E : Effects) (α : Type) where
  | done (value : α)
  | ask (request : E.Request) (resume : E.Reply request → Program E α)

namespace Program

variable {E F : Effects} {α β : Type}

/-- Ask for one effect and be done with its reply. -/
def request (r : E.Request) : Program E (E.Reply r) := ask r done

/-- Run a program and go on with its value. -/
def bind : Program E α → (α → Program E β) → Program E β
  | done a, f => f a
  | ask r k, f => ask r fun reply => (k reply).bind f

instance : Monad (Program E) where
  pure := done
  bind := bind

@[simp] theorem pure_eq (a : α) : (pure a : Program E α) = done a := rfl

@[simp] theorem done_bind (a : α) (f : α → Program E β) : (done a : Program E α) >>= f = f a := rfl

@[simp] theorem ask_bind (r : E.Request) (k : E.Reply r → Program E α) (f : α → Program E β) :
    ask r k >>= f = ask r fun reply => k reply >>= f := rfl

/-- Run a program in a monad that answers its requests. -/
def runIn {m : Type → Type} [Monad m] (answer : (r : E.Request) → m (E.Reply r)) :
    Program E α → m α
  | done a => pure a
  | ask r k => answer r >>= fun reply => (k reply).runIn answer

/-- Replace every request by a program over other effects. -/
def substitute (f : (r : E.Request) → Program F (E.Reply r)) (p : Program E α) : Program F α :=
  p.runIn f

/-- One request together with the reply it got. -/
structure Event (E : Effects) where
  request : E.Request
  reply : E.Reply request

/-- `Run p trace a`: the program `p` can ask the requests of `trace`, be given its replies, and be
done with the value `a`. -/
inductive Run : Program E α → List (Event E) → α → Prop where
  | done (a : α) : Run (done a) [] a
  | ask (r : E.Request) (k : E.Reply r → Program E α) (reply : E.Reply r)
      {trace : List (Event E)} {a : α} :
      Run (k reply) trace a → Run (ask r k) (⟨r, reply⟩ :: trace) a

end Program

end ServiceBroker

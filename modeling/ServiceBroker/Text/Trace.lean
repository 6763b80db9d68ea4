/-!
# Trace IDs

A client may name the trace that its request belongs to. The name goes into logs, so it is kept
short and printable.

## Main definitions

* `Trace.ofClient?`: what is kept of the name that a client gives
-/

namespace ServiceBroker.Trace

/-- The number of characters that are looked at. -/
def maxLength : Nat := 128

/-- The length of a name that is made up for a request without one: a UUID with its hyphens. -/
def generatedLength : Nat := 36

/-- The character is a visible one of ASCII or the space. -/
def isPrintable (c : Char) : Bool := 32 ≤ c.toNat && c.toNat ≤ 126

/-- What is kept of the name that a client gives; nothing if that would be empty. -/
def ofClient? (value : String) : Option String :=
  match (value.toList.take maxLength).filter isPrintable with
  | [] => none
  | cs => some (String.ofList cs)

end ServiceBroker.Trace

import ServiceBroker.Url.Address

/-!
# Addresses to listen on

## Main definitions

* `ListenAddress`: an IP address with a port
* `ListenAddress.parse?`: the address that a text spells
* `ListenAddress.isLocal`: a machine can always listen there
-/

namespace ServiceBroker

/-- The IP address to listen on. -/
inductive ListenAddress.Host where
  | v4 (octets : List Nat)
  | v6 (address : Ipv6) (zone : Option Nat)
  deriving DecidableEq, Repr

/-- An IP address with a port. -/
structure ListenAddress where
  host : ListenAddress.Host
  port : Nat
  deriving DecidableEq, Repr

namespace ListenAddress

/-- The number of at most `max` that decimal digits spell. -/
def number? (max : Nat) (cs : List Char) : Option Nat :=
  if !cs.isEmpty && cs.all isDecimalDigit && ofDecimalDigits cs ≤ max then some (ofDecimalDigits cs)
  else none

/-- An address with four numbers. -/
def v4? (cs : List Char) : Option Host :=
  match (splitAt (· == '.') cs).mapM Ipv6.quad? with
  | some octets => if octets.length = 4 then some (.v4 octets) else none
  | none => none

/-- An address of colons and hexadecimal digits, perhaps with the number of a zone. -/
def v6? (cs : List Char) : Option Host :=
  let (address, zone) := cutAt (· == '%') cs
  match Ipv6.parse? address with
  | none => none
  | some a =>
    if cs.contains '%' then (number? 4294967295 zone).map fun z => .v6 a (some z)
    else some (.v6 a none)

/-- The address that a text spells; an address of colons stands in brackets. -/
def parse? (text : String) : Option ListenAddress :=
  match text.toList with
  | '[' :: rest =>
    let (address, rest) := cutAt (· == ']') rest
    match v6? address, rest with
    | some host, ':' :: port => (number? 65535 port).map fun port => ⟨host, port⟩
    | _, _ => none
  | cs =>
    let (address, port) := cutAt (· == ':') cs
    match v4? address with
    | some host => (number? 65535 port).map fun port => ⟨host, port⟩
    | none => none

/-- The text of an address. -/
def write (a : ListenAddress) : String :=
  match a.host with
  | .v4 octets =>
    let host := String.intercalate "." (octets.map toString)
    s!"{host}:{a.port}"
  | .v6 address zone =>
    -- The zone 0 is that of no zone.
    let zone := ((zone.filter (· ≠ 0)).map fun z => s!"%{z}").getD ""
    s!"[{String.ofList address.display}{zone}]:{a.port}"

/-- A machine can always listen there: it is an address of the machine itself, or stands for all of
its addresses. -/
def isLocal (a : ListenAddress) : Bool :=
  match a.host with
  | .v4 octets => octets.head? == some 127 || octets == [0, 0, 0, 0]
  | .v6 address _ => address.pieces.dropLast.all (· == 0) && address.pieces.getLast?.all (· ≤ 1)

end ListenAddress

end ServiceBroker

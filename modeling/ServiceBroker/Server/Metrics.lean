import ServiceBroker.Broker.Basic
import ServiceBroker.Table

/-!
# Metrics

Every verb that the broker carries out is counted with its outcome, and its duration is observed.
How long verbs take is not modelled; only the number of observations is kept.

## Main definitions

* `Metrics`: the counters
* `Metrics.record`: count one verb
* `Metrics.lines`: the counters in the exposition format
-/

namespace ServiceBroker

/-- How often each verb ended with each outcome, and how many durations were observed of each. -/
structure Metrics where
  totals : Table (Broker.Verb × String) Nat
  durations : Table Broker.Verb Nat
  deriving DecidableEq, Repr

namespace Metrics

/-- Counters that have counted nothing. -/
def zero : Metrics := ⟨[], []⟩

/-- How often a verb ended with an outcome. -/
def total (m : Metrics) (verb : Broker.Verb) (outcome : String) : Nat :=
  (m.totals.find? (verb, outcome)).getD 0

/-- How many durations of a verb were observed. -/
def observed (m : Metrics) (verb : Broker.Verb) : Nat := (m.durations.find? verb).getD 0

/-- Count one verb that ended with an outcome. -/
def record (m : Metrics) (verb : Broker.Verb) (outcome : String) : Metrics where
  totals := m.totals.put (verb, outcome) (m.total verb outcome + 1)
  durations := m.durations.put verb (m.observed verb + 1)

/-- The name under which the outcome of a verb is counted. -/
def outcome {α : Type} : Except Failure α → String
  | .ok _ => "success"
  | .error failure => failure.code

/-- The lines that introduce a metric. -/
def introduction (name help type : String) : List String :=
  [s!"# HELP {name} {help}", s!"# TYPE {name} {type}"]

/-- The name of the metric that observes durations. -/
def durationName : String := "osbridge_request_duration_seconds"

/-- The name of the metric that counts outcomes. -/
def totalName : String := "osbridge_requests_total"

/-- A metric with its introduction; one that has no samples is not listed. -/
def family (name help type : String) (samples : List String) : List String :=
  if samples.isEmpty then [] else introduction name help type ++ samples

/-- The counters in the exposition format, samples in the order of their labels. -/
def lines (m : Metrics) : List String :=
  -- Samples are compared by the values of their labels, the labels by name.
  let durations := (m.durations.map fun d => (d.1.name, d.2)).mergeSort fun a b => a.1 ≤ b.1
  let totals := (m.totals.map fun t => (t.1.2, t.1.1.name, t.2)).mergeSort fun a b =>
    a.1 < b.1 || (a.1 == b.1 && a.2.1 ≤ b.2.1)
  family durationName "Time taken to handle a broker verb" "histogram"
      (durations.map fun d => s!"{durationName}_count\x7bverb=\"{d.1}\"\x7d {d.2}") ++
    family totalName "Total number of broker verbs handled, by outcome" "counter"
      (totals.map fun t =>
        s!"{totalName}\x7boutcome=\"{t.1}\",verb=\"{t.2.1}\"\x7d {t.2.2}")

end Metrics

end ServiceBroker

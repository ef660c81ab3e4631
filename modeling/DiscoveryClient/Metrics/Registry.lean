import DiscoveryClient.Number.Quantity

/-!
# Metrics

Counters and gauges that a host program registers beside the client's own.
Every metric carries the standard labels and may have more.  Each combination
of label values has a number, which exists from its first use on.

Names are taken once and for all: a counter takes its family name and the names
of its two series, a gauge its own name.
-/

namespace DiscoveryClient.Metrics

inductive Kind where
  | counter
  | gauge
  deriving DecidableEq, Repr, Inhabited

def Kind.name : Kind → String
  | .counter => "counter"
  | .gauge => "gauge"

/-- The labels that every metric has, with their values. -/
def standardLabels : List (String × String) :=
  [("service", "discovery-client"), ("env", "test")]

structure Metric where
  kind : Kind
  name : String
  family : String
  help : Value
  labels : List String
  /-- A number for each combination of label values in use. -/
  series : List (List String × Double) := []
  deriving Inhabited

structure Registry where
  taken : List String
  metrics : List Metric := []
  deriving Inhabited

def totalSuffix : String := "_total"

/-- A counter's family is named without the suffix of its series. -/
def familyName (kind : Kind) (name : String) : String :=
  match kind with
  | .gauge => name
  | .counter => if name.endsWith totalSuffix then (name.dropEnd totalSuffix.length).toString else name

def namesTaken (kind : Kind) (family : String) : List String :=
  match kind with
  | .gauge => [family]
  | .counter => [family, family ++ totalSuffix, family ++ "_created"]

/-- The metrics of the client itself. -/
def ownFamilies : List (Kind × String) :=
  [ (.counter, "discovery_identity_refresh"),
    (.gauge, "discovery_identity_last_updated_timestamp_ms"),
    (.counter, "discovery_property_reload") ]

/-- The metrics by which every program that is watched tells of itself. -/
def processFamilies : List (Kind × String) :=
  [ (.counter, "python_gc_objects_collected"),
    (.counter, "python_gc_objects_uncollectable"),
    (.counter, "python_gc_collections"),
    (.gauge, "python_info"),
    (.gauge, "process_virtual_memory_bytes"),
    (.gauge, "process_resident_memory_bytes"),
    (.gauge, "process_start_time_seconds"),
    (.counter, "process_cpu_seconds"),
    (.gauge, "process_open_fds"),
    (.gauge, "process_max_fds") ]

def Registry.initial : Registry where
  taken := (processFamilies ++ ownFamilies).flatMap fun (kind, family) => namesTaken kind family

/-- Labels of a single line that begin with two underscores are reserved. -/
def isReservedLabel (label : String) : Bool :=
  match label.toList with
  | '_' :: '_' :: rest => decide ((rest.dropWhile fun c => c ≠ '\n').length ≤ 1)
  | _ => false

def metricName : Value → Except Failure String
  | .text name =>
      if name = "" then .error (.refusedValue "Metric name should not be empty") else .ok name
  | name =>
      if name.isFilled then .error .wrongType
      else .error (.refusedValue "Metric name should not be empty")

/-- The labels that a metric is asked to have; a value that says nothing is none. -/
def labelItems (labels : Value) : Except Failure (List Value) :=
  match labels.filled? with
  | none => .ok []
  | some (.list items) => .ok items
  | some _ => .error .wrongType

/-- A label, which has to be a text that is not reserved. -/
def labelName : Value → Except Failure String
  | .text label =>
      if isReservedLabel label then
        .error (.refusedValue ("Reserved label metric name: " ++ label))
      else .ok label
  | _ => .error .noSuchOperation

def Registry.create (registry : Registry) (kind : Kind) (name help labels : Value) :
    Except Failure Registry := do
  let items ← labelItems labels
  let name ← metricName name
  let labels ← items.mapM labelName
  let family := familyName kind name
  if family = "" then .error (.refusedValue "metric name cannot be empty")
  else if (namesTaken kind family).any registry.taken.contains then .error .metricTaken
  else
    .ok {
      taken := registry.taken ++ namesTaken kind family
      metrics := registry.metrics ++
        [{ kind, name, family, help, labels := standardLabels.map Prod.fst ++ labels }] }

/-! ## Series -/

/-- A change of a series.  Steps up and down are by one when no amount is given. -/
inductive Update where
  | increase (amount : Option Value)
  | decrease (amount : Option Value)
  | set (amount : Option Value)

def stepAmount (amount : Option Value) : Value :=
  amount.getD (.int 1)

/-- The label values of a use of a metric, in the order of its labels.  The
standard labels cannot be given, nor one of the name `self`. -/
def labelValues (metric : Metric) (given : List (String × Value)) :
    Except Failure (List String) :=
  if ("self" :: standardLabels.map Prod.fst).any (given.map Prod.fst).contains then
    .error .wrongType
  else
    let values := standardLabels ++ given.map fun (label, value) => (label, value.display)
    if (values.map Prod.fst).isPerm metric.labels then
      .ok (metric.labels.filterMap (values.lookup ·))
    else .error (.refusedValue "Incorrect label names")

/-- The number of a series after an update.  Counters only go up, and a number that
is to be set has to be given. -/
def updated (kind : Kind) (current : Double) : Update → Except Failure Double
  | .increase amount =>
      if kind = .counter && Quantity.isNegative (stepAmount amount) then
        .error (.refusedValue "Counters can only be incremented by non-negative amounts.")
      else do .ok (current.add (← Quantity.ofNumber (stepAmount amount)))
  | .decrease amount =>
      match kind with
      | .counter => .error .noSuchOperation
      | .gauge => do .ok (current.sub (← Quantity.ofNumber (stepAmount amount)))
  | .set amount =>
      match kind, amount with
      | .counter, _ => .error .noSuchOperation
      | .gauge, some value => Quantity.ofValue value
      | .gauge, none => .error .wrongType

def putSeries (values : List String) (number : Double) :
    List (List String × Double) → List (List String × Double)
  | [] => [(values, number)]
  | (key, old) :: rest =>
      if key = values then (key, number) :: rest else (key, old) :: putSeries values number rest

/-- Update a metric.  The combination of label values comes into use even if the
update is refused. -/
def Metric.update (metric : Metric) (given : List (String × Value)) (update : Update) :
    Metric × Except Failure Unit :=
  match labelValues metric given with
  | .error failure => (metric, .error failure)
  | .ok values =>
      let current := (metric.series.lookup values).getD .zero
      match updated metric.kind current update with
      | .ok number => ({ metric with series := putSeries values number metric.series }, .ok ())
      | .error failure =>
          ({ metric with series := putSeries values current metric.series }, .error failure)

/-- Update the metric of a name; the answer is none when there is no such metric. -/
def Registry.update (registry : Registry) (name : String) (given : List (String × Value))
    (update : Update) : Registry × Option (Except Failure Unit) :=
  match registry.metrics.find? fun metric => metric.name = name with
  | none => (registry, none)
  | some metric =>
      let (metric, answer) := metric.update given update
      ({ registry with
          metrics := registry.metrics.map fun other =>
            if other.name = name then metric else other }, some answer)

end DiscoveryClient.Metrics

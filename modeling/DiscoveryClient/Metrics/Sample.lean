import DiscoveryClient.Metrics.Registry
import DiscoveryClient.Value.Json

/-!
# Samples

What is collected from a registry: one sample for each combination of label
values in use, in the order of the JSON texts of the samples.
-/

namespace DiscoveryClient.Metrics

structure Sample where
  kind : Kind
  family : String
  help : Value
  name : String
  labels : List (String × String)
  value : Double

def Metric.sampleName (metric : Metric) : String :=
  match metric.kind with
  | .counter => metric.family ++ totalSuffix
  | .gauge => metric.family

/-- The samples of a metric.  Names that end like times of creation are left out. -/
def Metric.samples (metric : Metric) : List Sample :=
  if metric.sampleName.endsWith "_created" then []
  else metric.series.map fun (values, value) =>
    { kind := metric.kind, family := metric.family, help := metric.help
      name := metric.sampleName, labels := metric.labels.zip values, value }

/-- The sample as a document, with all names in alphabetical order. -/
def Sample.document (sample : Sample) : Value :=
  let labels := sample.labels.mergeSort fun left right => left.1 ≤ right.1
  .dict [
    ("family", .text sample.family),
    ("help", sample.help),
    ("labels", .dict (labels.map fun (label, value) => (label, .text value))),
    ("name", .text sample.name),
    ("type", .text sample.kind.name),
    ("value", .float sample.value)]

/-- The documents of all samples, in the order of their JSON texts. -/
def Registry.documents (registry : Registry) : List Value :=
  ((registry.metrics.flatMap Metric.samples).map Sample.document).mergeSort
    fun left right => Json.text left ≤ Json.text right

end DiscoveryClient.Metrics

import AvailabilityGate.Decimal.Scaled
import AvailabilityGate.Metrics.Basic

/-!
Owns the text form of the metrics, one sample a line under a line of help and a line with the type
of the metric. The requests come by their line; a metric without any sample is left out.
-/

namespace AvailabilityGate.Metrics

/-- Numbers are written without an exponent from `1e-6` up to `1e21`. -/
def numberLayout : Decimal.Layout where
  plainFrom := -6
  plainBelow := 21
  plusSign := false
  exponentWidth := 1

def numberText (number : Float) : String :=
  numberLayout.textWith Decimal.Binary.scaled number

def metaLines (name help type : String) : List String :=
  ["# HELP " ++ name ++ " " ++ help ++ ".", "# TYPE " ++ name ++ " " ++ type]

def requestsName : String := "barbossa_admission_requests"

def violationsName : String := "barbossa_admission_violations"

def durationsName : String := "barbossa_admission_duration_seconds"

def Outcome.text (outcome : Outcome) : String :=
  "\x7bverdict=\"" ++ (if outcome.allowed then "allowed" else "denied") ++
    "\",reason=\"" ++ ((outcome.reason.map DenyReason.name).getD "") ++ "\"\x7d"

def requestLine (entry : Outcome × Nat) : String :=
  requestsName ++ "_total" ++ entry.1.text ++ " " ++ toString entry.2

/-- The lines in ascending order. -/
def sortLines (lines : List String) : List String :=
  lines.mergeSort fun left right => !decide (right < left)

def requestLines (metrics : Metrics) : List String :=
  if metrics.requests.isEmpty then []
  else
    metaLines requestsName "Total number of admission requests" "counter" ++
      sortLines (metrics.requests.map requestLine)

def violationLines (metrics : Metrics) : List String :=
  metaLines violationsName "Total number of policy violations reported" "counter" ++
    [violationsName ++ "_total " ++ toString metrics.violations]

/-- The upper end of a bucket; the last one has none. -/
def boundText (bound : Float) : String :=
  if bound < 1.7976931348623157e308 then numberText bound else "+Inf"

def bucketLine (bucket : Float × Nat) : String :=
  durationsName ++ "_bucket\x7ble=\"" ++ boundText bucket.1 ++ "\"\x7d " ++ toString bucket.2

def durationLines (metrics : Metrics) : List String :=
  metaLines durationsName "Duration of admission reviews in seconds" "histogram" ++
    [durationsName ++ "_sum " ++ numberText metrics.durations.sum,
      durationsName ++ "_count " ++ toString metrics.durations.count] ++
    (Histogram.cumulative 0 metrics.durations.buckets).map bucketLine

def lines (metrics : Metrics) : List String :=
  requestLines metrics ++ violationLines metrics ++ durationLines metrics ++ ["# EOF"]

/-- The metrics as text. -/
def exposition (metrics : Metrics) : String :=
  String.join (metrics.lines.map (· ++ "\n"))

end AvailabilityGate.Metrics

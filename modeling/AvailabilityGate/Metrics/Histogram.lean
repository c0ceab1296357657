import AvailabilityGate.Decimal.Shortest

/-!
Owns histograms: observations counted by the first bucket that is wide enough for them, with their
number and their sum.
-/

namespace AvailabilityGate.Metrics

structure Histogram where
  sum : Float := 0
  count : Nat := 0
  /-- The bounds of the buckets in ascending order, each with the observations counted there. -/
  buckets : List (Float × Nat)

namespace Histogram

/-- Bounds that start at a value and grow by a factor. -/
def growingBounds (factor : Float) : Nat → Float → List Float
  | 0, _ => []
  | count + 1, start => start :: growingBounds factor count (start * factor)

/-- Counts an observation in the first bucket whose bound is not below it. -/
def countIn (value : Float) : List (Float × Nat) → List (Float × Nat)
  | [] => []
  | (bound, count) :: rest =>
      if value ≤ bound then (bound, count + 1) :: rest
      else (bound, count) :: countIn value rest

def observe (histogram : Histogram) (value : Float) : Histogram where
  sum := histogram.sum + value
  count := histogram.count + 1
  buckets := countIn value histogram.buckets

/-- The buckets with the observations in them and in all buckets before. -/
def cumulative (before : Nat) : List (Float × Nat) → List (Float × Nat)
  | [] => []
  | (bound, count) :: rest => (bound, before + count) :: cumulative (before + count) rest

end Histogram

end AvailabilityGate.Metrics

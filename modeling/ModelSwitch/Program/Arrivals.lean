import ModelSwitch.Lib.Rounding
import ModelSwitch.Program.Contracts
import Mathlib.Data.List.Sort

/-!
# Planned arrivals

`ArrivalPlan`, `build_arrival_plan` and `validate_arrival_plan` of `acceptance/workload.py`, with
rationals for seconds. The number of requests is an integer, so the refusal of other types is left
out.
-/

namespace ModelSwitch.Arrivals

structure PlannedRequest where
  index : ℕ
  offsetSeconds : ℚ
  modelId : ModelId
  capability : String

structure ArrivalPlan where
  entries : List PlannedRequest
  durationSeconds : ℚ

namespace ArrivalPlan

def countArrival (counts : Dict ModelId ℕ) (entry : PlannedRequest) : Dict ModelId ℕ :=
  counts.set entry.modelId ((counts.get? entry.modelId).getD 0 + 1)

def perModel (plan : ArrivalPlan) : Dict ModelId ℕ := plan.entries.foldl countArrival Dict.empty

def gaps (plan : ArrivalPlan) : List ℚ :=
  (plan.entries.zip plan.entries.tail).map fun p => p.2.offsetSeconds - p.1.offsetSeconds

end ArrivalPlan

def minOperationalSeconds : ℚ := 1800

def minOperationalRequests : ℕ := 100

def maxArrivalGapSeconds : ℚ := 15

/-- `WorkloadError`, by what its message says. -/
inductive WorkloadError
  | noModel
  | notPositive
  | tooFew (requests : ℤ) (needed : ℕ)
  | noDuration
  | gap (duration : ℚ) (requests : ℤ) (step : ℚ)

/-- `round(value, 3)`. -/
def round3 (value : ℚ) : ℚ := Rounding.toMultiple 1000 value

/-- The round-robin arrival list. A position modulo the number of models is never out of range. -/
def buildArrivalPlan (models : List ModelId) (duration : ℚ) (requests : ℤ) (capability : String) :
    Except WorkloadError ArrivalPlan :=
  if models = [] then .error .noModel
  else if requests < 1 then .error .notPositive
  else if requests < 3 * models.length then .error (.tooFew requests (3 * models.length))
  else if duration ≤ 0 then .error .noDuration
  else
    let step := if 1 < requests then duration / requests else 0
    if maxArrivalGapSeconds < step then .error (.gap duration requests step)
    else .ok {
      entries := (List.range requests.toNat).map fun index =>
        { index := index, offsetSeconds := round3 (index * step),
          modelId := models.getD (index % models.length) "", capability := capability }
      durationSeconds := duration }

inductive Problem
  | arrivals (count : ℕ)
  | duration (seconds : ℚ)
  | model (modelId : ModelId) (count : ℕ)
  | gap (seconds : ℚ)

def validateArrivalPlan (plan : ArrivalPlan) : List Problem :=
  (if plan.entries.length < minOperationalRequests then [.arrivals plan.entries.length] else []) ++
  (if plan.durationSeconds < minOperationalSeconds then [.duration plan.durationSeconds] else []) ++
  ((plan.perModel.entries.insertionSort (·.1 ≤ ·.1)).filter (·.2 < 3)).map (fun p =>
    .model p.1 p.2) ++
  (plan.gaps.max?.toList.filter (maxArrivalGapSeconds < ·)).map .gap

end ModelSwitch.Arrivals

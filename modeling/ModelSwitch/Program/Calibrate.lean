import ModelSwitch.Lib.Json
import ModelSwitch.Lib.Rounding
import Mathlib.Data.List.Sort

/-!
# Controlled calibration

`evaluate_round` and `summarize_measurements` of `acceptance/calibrate.py`. The raw rows of a round
come in any order, and times are rationals. The paths and digests of the raw files are left out.
-/

namespace ModelSwitch.Calibrate

open Py

structure Row where
  t : ℚ
  availableBytes : ℤ
  totalBytes : ℤ
  /-- Rows of the probe have no `MemFree`. -/
  memFreeBytes : Option ℤ
  swapFreeBytes : ℤ

structure RoundMaterial where
  label : String
  samples : List Row
  launchTs : Option ℚ
  endTs : Option ℚ
  stop : Members
  cases : Members

inductive Raised
  /-- `min` of no rows. -/
  | value
  /-- A `MemorySample` with a negative figure. -/
  | contract (message : String)
  deriving DecidableEq

def measurementGapSeconds : ℚ := 1 / 2

def windowSeconds : ℚ := 10

def baselineShiftLimitBytes : ℤ := 256 * 1024 ^ 2

/-- `statistics.median`, of some data. -/
def median (data : List ℚ) : ℚ :=
  let sorted := data.insertionSort (· ≤ ·)
  let n := sorted.length
  if n % 2 = 1 then sorted.getD (n / 2) 0
  else (sorted.getD (n / 2 - 1) 0 + sorted.getD (n / 2) 0) / 2

/-- `int(value)`. -/
def truncate (value : ℚ) : ℤ := value.num.tdiv value.den

def gapsOf (samples : List Row) : List ℚ :=
  (samples.zip samples.tail).map fun p => p.2.t - p.1.t

def gapsOver (samples : List Row) : ℕ := (gapsOf samples).countP (measurementGapSeconds < ·)

def baselineWindow (launch : ℚ) (samples : List Row) : List Row :=
  samples.filter fun row => launch - windowSeconds ≤ row.t ∧ row.t < launch

def runWindow (launch finish : ℚ) (samples : List Row) : List Row :=
  samples.filter fun row => launch ≤ row.t ∧ row.t ≤ finish

def postWindow (finish : ℚ) (samples : List Row) : List Row :=
  samples.filter fun row => finish < row.t ∧ row.t ≤ finish + windowSeconds

def medianAvailable (rows : List Row) : ℚ := median (rows.map fun row => (row.availableBytes : ℚ))

def medianBytes (rows : List Row) : Option ℤ :=
  if rows = [] then none else some (truncate (medianAvailable rows))

/-- What the window of a round gives. -/
structure Criteria where
  /-- The numbers of baseline, run and post rows. -/
  window : Option (ℕ × ℕ × ℕ)
  baselineBytes : Option ℤ
  minBytes : Option ℤ
  postBaselineBytes : Option ℤ
  deltaBytes : Option ℤ
  baselineShiftBytes : Option ℤ
  measurementValid : Bool
  criteriaNote : Option String
  /-- The rows the physical bound is taken over, and their name. -/
  windowRows : List Row
  physicalUpperBoundWindow : String

def criteria (m : RoundMaterial) (swapUsed : Bool) : Criteria :=
  match m.launchTs, m.endTs with
  | some launch, some finish =>
    let before := baselineWindow launch m.samples
    let run := runWindow launch finish m.samples
    let after := postWindow finish m.samples
    let baseline := medianBytes before
    let least := (run.map (·.availableBytes)).min?
    let post := medianBytes after
    let delta := match baseline, least with
      | some b, some l => some (max 0 (b - l))
      | _, _ => none
    let shift := match baseline, post with
      | some b, some p => some |p - b|
      | _, _ => none
    { window := some (before.length, run.length, after.length)
      baselineBytes := baseline
      minBytes := least
      postBaselineBytes := post
      deltaBytes := delta
      baselineShiftBytes := shift
      measurementValid := baseline.isSome ∧ least.isSome ∧ post.isSome ∧ delta.any (0 < ·) ∧
        gapsOver m.samples = 0 ∧ gapsOf m.samples ≠ [] ∧
        shift.any (· ≤ baselineShiftLimitBytes) ∧ swapUsed = false
      criteriaNote := none
      windowRows := run
      physicalUpperBoundWindow := "run_window" }
  | _, _ =>
    { window := none, baselineBytes := none, minBytes := none, postBaselineBytes := none
      deltaBytes := none, baselineShiftBytes := none, measurementValid := false
      criteriaNote := some ("preserved material carries no monotonic window: the §5 criteria " ++
        "cannot be recomputed from it, so this round stays unverified")
      windowRows := m.samples
      physicalUpperBoundWindow := "all_raw_rows" }

/-- The figure of one `MemorySample`, which refuses negative ones. -/
def nonfree (row : Row) (free : ℤ) : Except Raised ℤ :=
  if row.totalBytes < 0 then
    .error (.contract "memory_sample.mem_total_bytes: must be a non-negative integer")
  else if free < 0 then
    .error (.contract "memory_sample.mem_free_bytes: must be a non-negative integer")
  else if row.availableBytes < 0 then
    .error (.contract "memory_sample.mem_available_bytes: must be a non-negative integer")
  else .ok (row.totalBytes - free)

/-- `system_nonfree_upper_bound_v1`, for rows that all have a `MemFree`. -/
def physicalUpperBound (rows : List Row) : Except Raised (Option ℤ) :=
  if rows ≠ [] ∧ ∀ row ∈ rows, row.memFreeBytes.isSome then do
    let figures ← rows.mapM fun row => nonfree row (row.memFreeBytes.getD 0)
    pure figures.max?
  else pure none

def members : Option Json → Members
  | some (.obj members) => members
  | _ => []

def imageTokensOf (cases : Members) : Option ℤ :=
  let image := members (cases.lookup "image_max")
  let summary := members (image.lookup "summary")
  [image.lookup "image_tokens_measured", summary.lookup "image_tokens_measured"].findSome? fun
    | some (.int tokens) => some tokens
    | _ => none

structure Metrics where
  round : String
  rawSamples : ℕ
  samplingIntervalSeconds : Option ℚ
  maxGapSeconds : Option ℚ
  gapsOver500ms : ℕ
  swapUsed : Bool
  criteria : Criteria
  physicalUpperBoundBytes : Option ℤ
  boundNote : Option String
  stop : Members
  stopQuiescent : Bool
  imageTokensMeasured : Option ℤ

def swapUsed (samples : List Row) : Except Raised Bool :=
  match (samples.map (·.swapFreeBytes)).min?, samples.head? with
  | some least, some first => .ok (least < first.swapFreeBytes)
  | _, _ => .error .value

def evaluateRound (m : RoundMaterial) : Except Raised Metrics := do
  let gaps := gapsOf m.samples
  let swapped ← swapUsed m.samples
  let found := criteria m swapped
  let bound ← physicalUpperBound found.windowRows
  pure
    { round := m.label
      rawSamples := m.samples.length
      samplingIntervalSeconds :=
        if gaps = [] then none else some (Rounding.toMultiple 10000 (median gaps))
      maxGapSeconds := gaps.max?.map (Rounding.toMultiple 10000)
      gapsOver500ms := gapsOver m.samples
      swapUsed := swapped
      criteria := found
      physicalUpperBoundBytes := bound
      boundNote := if bound.isSome then none else
        some ("the raw samples do not carry MemFree: system_nonfree_upper_bound_v1 cannot be " ++
          "proven from this material and stays null (production stays blocked)")
      stop := m.stop
      stopQuiescent := Json.isBool (m.stop.lookup "quiescent") true
      imageTokensMeasured := imageTokensOf m.cases }

inductive Verdict
  | passed
  | blocked
  deriving DecidableEq

structure Summary where
  runs : ℕ
  verifiedRuns : ℕ
  unverifiedRuns : List String
  measuredPeakBytes : Option ℤ
  reservedBytes : Option ℤ
  physicalResidentPeakBytes : Option ℤ
  temporaryBudgetBytes : ℤ
  budgetExceedsPhysicalBound : Option Bool
  physicalBoundProven : Bool
  stopsProven : Bool
  verdict : Verdict

/-- `max(figures) if figures else 0`, where an absent figure counts as zero. -/
def peak (figures : List (Option ℤ)) : ℤ := ((figures.map (·.getD 0)).max?).getD 0

def summarizeMeasurements (rounds : List Metrics) (budgetBytes : ℤ) : Summary :=
  let measuredPeak := peak (rounds.map (·.criteria.deltaBytes))
  let physicalPeak := peak (rounds.map (·.physicalUpperBoundBytes))
  let verified := rounds.filter (·.criteria.measurementValid)
  let unverified := rounds.filter (!·.criteria.measurementValid)
  let stopsProven := rounds.all (·.stopQuiescent)
  { runs := rounds.length
    verifiedRuns := verified.length
    unverifiedRuns := unverified.map (·.round)
    measuredPeakBytes := if verified = [] then none else some measuredPeak
    reservedBytes := if verified = [] then none else some ((measuredPeak * 115 + 99).fdiv 100)
    physicalResidentPeakBytes := if physicalPeak = 0 then none else some physicalPeak
    temporaryBudgetBytes := budgetBytes
    budgetExceedsPhysicalBound :=
      if physicalPeak = 0 then none else some (decide (physicalPeak < budgetBytes))
    physicalBoundProven := 0 < physicalPeak
    stopsProven := stopsProven
    verdict := if rounds ≠ [] ∧ unverified = [] ∧ stopsProven ∧ 0 < physicalPeak then .passed
      else .blocked }

/-- The measurement over a list of rounds. -/
def measure (rounds : List RoundMaterial) (budgetBytes : ℤ) : Except Raised Summary := do
  let metrics ← rounds.mapM evaluateRound
  pure (summarizeMeasurements metrics budgetBytes)

end ModelSwitch.Calibrate

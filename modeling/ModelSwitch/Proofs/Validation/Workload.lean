import ModelSwitch.Program.Workload
import ModelSwitch.Proofs.Arrivals
import ModelSwitch.Proofs.Validation.Registration

/-!
# What a passed workload shows

O01 is judged by the figures that the material states about itself: stored deviations, stored
outcomes and its own copy of the policy. `Judged` is what the raw figures and the candidate ask for,
`Reported` that whatever breaks a limit shows in the figures that are looked at. Nothing looks at
the plan; rows recorded from one that `build_arrival_plan` made are as the candidate asks.
-/

namespace ModelSwitch.Workload

open Py
open Arrivals
open Registration.Evidence (CandidateV3 parseCandidate)

/-! ### The raw figures -/

def finite? : Option Decimal → Option ℚ
  | some (.finite q) => some q
  | _ => none

def SentRequest.planned (r : SentRequest) : Option ℚ := finite? (numberOf r.plannedOffsetSeconds)

def SentRequest.sentAt (r : SentRequest) : Option ℚ := finite? (numberOf r.sentOffsetSeconds)

/-- The share of the requests whose status code means one of the outcomes. -/
def statusRate (sent : List SentRequest) (outcomes : List String) : ℚ :=
  ratio (sent.countP fun r => outcomeOf r.statusCode ∈ outcomes) sent.length

def Within (value : ℚ) : Decimal → Prop
  | .finite limit => value ≤ limit
  | .inf negative => negative = false
  | .nan => False

/-- The request was sent when it was planned, within the candidate's limit. -/
def SentRequest.OnTime (c : CandidateV3) (r : SentRequest) : Prop :=
  ∃ a ∈ r.planned, ∃ b ∈ r.sentAt,
    Within (|b - a| * 1000) c.policy.operational.sendDeviationMillisecondsMax

/-- The largest of the stored deviations is over the cap. -/
def ReportsLate (sent : List SentRequest) : Prop :=
  ∃ ds, sent.mapM (fun r => numberOf r.deviationMilliseconds) = some ds ∧
    ∃ d ∈ maxOf ds, gt d (.finite maxSendDeviationMilliseconds) = true

section

variable (floatText : String → Option Decimal)

/-- The share of the stored outcomes is over the rate that the material declares. -/
def ReportsRate (sent : List SentRequest) (policy : Members) (name : String)
    (outcomes : List String) : Prop :=
  ∃ limit, declaredRate floatText policy name = some limit ∧
    gt (.finite (outcomeRate sent outcomes)) limit = true

/-- What breaks a limit of the candidate in the raw figures shows in the figures that the material
states, and its end state is in numbers. -/
structure Reported (c : CandidateV3) (sent : List SentRequest) (finalState policy : Members) :
    Prop where
  deviations : (∀ r ∈ sent, r.OnTime c) ∨ ReportsLate sent
  queueFull : Within (statusRate sent ["queue_full"]) c.policy.operational.queueFullRateMax ∨
    ReportsRate floatText sent policy "queue_full_rate_max" ["queue_full"]
  timeout : Within (statusRate sent ["timeout"]) c.policy.operational.timeoutRateMax ∨
    ReportsRate floatText sent policy "timeout_rate_max" ["timeout"]
  error : Within (statusRate sent ["server_error", "error"]) c.policy.operational.errorRateMax ∨
    ReportsRate floatText sent policy "error_rate_max" ["server_error", "error", "oom"]
  endState : ∀ key ∈ zeroToleranceState, ∀ value ∈ finalState.lookup key,
    (numberOf value).isSome = true

end

/-! ### The checks -/

variable {floatText : String → Option Decimal} {sent : List SentRequest}
  {finalState policy : Members} {c : CandidateV3}

/-! ### The verdict -/

/-- A workload without problems reports nothing. -/
structure Checked (floatText : String → Option Decimal) (sent : List SentRequest)
    (finalState policy : Members) : Prop where
  deviations : ¬ ReportsLate sent
  queueFull : ¬ ReportsRate floatText sent policy "queue_full_rate_max" ["queue_full"]
  timeout : ¬ ReportsRate floatText sent policy "timeout_rate_max" ["timeout"]
  error : ¬ ReportsRate floatText sent policy "error_rate_max" ["server_error", "error", "oom"]
  endState : ∀ key ∈ zeroToleranceState, endStateProblem finalState key = []

def SentRequest.row (r : SentRequest) : Json :=
  .obj [("raw", .obj [("index", r.index), ("model_id", r.modelId), ("capability", r.capability),
    ("planned_offset_seconds", r.plannedOffsetSeconds),
    ("sent_offset_seconds", r.sentOffsetSeconds),
    ("deviation_milliseconds", r.deviationMilliseconds), ("outcome", r.outcome),
    ("status_code", r.statusCode), ("queue_seconds", r.queueSeconds),
    ("load_seconds", r.loadSeconds), ("execute_seconds", r.executeSeconds)])]

end ModelSwitch.Workload

import ModelSwitch.Program.Evidence

/-!
# The mixed workload

`SentRequest`, `_outcome_of` and `evaluate_workload` of `acceptance/workload.py`, and the way of
case O01 through `evaluate_report`, `evaluate_case` and `_evaluate_operational` of
`acceptance/evaluator.py`. The rows are arbitrary JSON, and `none` is a Python exception. Rates are
rationals; the percentiles, which are reported and never judged, are left out.
-/

namespace ModelSwitch.Workload

open Py
open Registration.Evidence (floatLimit)

/-! ### Numbers -/

/-- Python's `a > b` on floats. -/
def gt : Decimal → Decimal → Bool
  | .finite a, .finite b => b < a
  | .finite _, .inf negative => negative
  | .inf negative, .finite _ => !negative
  | .inf negative, .inf negative' => !negative && negative'
  | _, _ => false

def intOf : Json → Option ℤ
  | .bool value => some value.toNat
  | .int value => some value
  | _ => none

/-- A value that compares with numbers. -/
def numberOf (value : Json) : Option Decimal :=
  match intOf value, value with
  | some n, _ => some (.finite n)
  | none, .float d => some d
  | none, _ => none

/-- A number as a float, unless it is too large for one. -/
def floatOf (value : Json) : Option Decimal :=
  (numberOf value).filter fun d => match d with
    | .finite q => |q| < floatLimit
    | _ => true

/-- `max(values)`, which keeps the first value that no later one exceeds. -/
def maxOf : List Decimal → Option Decimal
  | [] => none
  | d :: rest => some (rest.foldl (fun best x => if gt x best then x else best) d)

/-- `bool(value)`. -/
def truthy : Json → Bool
  | .null => false
  | .bool value => value
  | .int value => value ≠ 0
  | .float value => value ≠ .finite 0
  | .str value => value ≠ ""
  | .arr items => !items.isEmpty
  | .obj members => !members.isEmpty

structure SentRequest where
  index : Json
  modelId : Json
  capability : Json
  plannedOffsetSeconds : Json
  sentOffsetSeconds : Json
  deviationMilliseconds : Json
  outcome : Json
  statusCode : Json
  queueSeconds : Json
  loadSeconds : Json
  executeSeconds : Json

def SentRequest.hasOutcome (outcome : String) (r : SentRequest) : Bool :=
  Json.isStr (some r.outcome) outcome

/-- `_outcome_of`, of the status code a driver reports. -/
def outcomeOf : Json → String
  | .int status =>
    if status = 429 then "queue_full"
    else if status = 504 then "timeout"
    else if status = 500 then "server_error"
    else if 200 ≤ status ∧ status < 300 then "ok"
    else "error"
  | _ => "error"

def maxSendDeviationMilliseconds : ℚ := 1000

/-- The cap of each of the three rates. -/
def maxRate : ℚ := 1 / 10

def zeroToleranceState : List String :=
  ["oom", "unexpected_500", "unsafe_evictions", "residual", "queue_depth", "leases", "sessions",
    "instances_running"]

def ratio (count total : ℕ) : ℚ := if total = 0 then 0 else count / total

/-- The share of the requests with one of the outcomes. -/
def outcomeRate (sent : List SentRequest) (outcomes : List String) : ℚ :=
  ratio (outcomes.map fun outcome => sent.countP (·.hasOutcome outcome)).sum sent.length

inductive Problem
  | deviation (milliseconds : Decimal)
  | looser (name : String) (declared : Decimal)
  | exceeds (name : String) (rate : ℚ) (limit : Decimal)
  | unreported (key : String)
  | nonzero (key : String) (value : Json)

section

variable (floatText : String → Option Decimal)

/-- `float(value)`. -/
def toFloat (value : Json) : Option Decimal :=
  match value with
  | .str text => floatText text
  | _ => floatOf value

/-- The rate that a policy allows, `float(policy.get(name, cap))`. -/
def declaredRate (policy : Members) (name : String) : Option Decimal :=
  toFloat floatText ((policy.lookup name).getD (.float (.finite maxRate)))

def endStateProblem (finalState : Members) (key : String) : List Problem :=
  match finalState.lookup key with
  | none | some .null => [.unreported key]
  | some value => if truthy value then [.nonzero key value] else []

end

end ModelSwitch.Workload

import Mathlib.Tactic

/-!
# Switching the current release

`switch_release` and `rollback_release` of `deploy.py`. The site operations may answer anything,
they may raise, and what they do may depend on all that was asked of them before: a site is a
function of the log.
-/

namespace ModelSwitch.Release

/-- A value in what an operation reports. -/
inductive Value
  | none
  | bool (value : Bool)
  | int (value : ℤ)
  | float (repr : String) (value : ℚ)
  | str (value : String)
  | other (repr : String)
  deriving DecidableEq

/-- `value == 0`. -/
def Value.isZero : Value → Bool
  | .bool value => !value
  | .int value => value == 0
  | .float _ value => value == 0
  | _ => false

/-- `repr(value)`, with `text` for a text. -/
def Value.repr (text : String → String) : Value → String
  | .none => "None"
  | .bool true => "True"
  | .bool false => "False"
  | .int value => toString value
  | .float repr _ => repr
  | .str value => text value
  | .other repr => repr

/-- `dict(action() or {})`. -/
abbrev Facts := List (String × Value)

def Facts.get (facts : Facts) (key : String) : Value := (facts.lookup key).getD .none

/-- `OpsPort`. -/
inductive Op
  | closeAdmission
  | drain
  | proveInstancesStopped
  | preflightRelease (release : String)
  | switchCurrent (release : String)
  | start
  | smoke
  | reopenAdmission
  | restoreBlobMetadata (backup : String)

inductive Outcome
  | facts (facts : Facts)
  /-- An `Exception`. -/
  | raised (kind message : String)
  /-- An exception that is no `Exception`. -/
  | escaped

/-- What has been asked, and what came of it. -/
abbrev Log := List (Op × Outcome)

structure Site where
  /-- `current_release()`, unless it raises. -/
  currentRelease : Option (Option String)
  answer : Log → Op → Outcome
  /-- `repr` of a text. -/
  repr : String → String

/-- An entry of the `steps` document. -/
inductive Step
  | done (step : String) (facts : Facts)
  | failed (step : String) (error : String)

structure Progress where
  log : Log := []
  steps : List Step := []
  failures : List String := []

/-- `_ops_step`. An exception that escapes leaves the log of what was asked. -/
def opsStep (site : Site) (label : String) (op : Op) (p : Progress) :
    Except Log (Facts × Progress) :=
  match site.answer p.log op with
  | .facts facts =>
    .ok (facts,
      ⟨p.log ++ [(op, .facts facts)], p.steps ++ [.done label facts], p.failures⟩)
  | .raised kind message =>
    .ok ([], ⟨p.log ++ [(op, .raised kind message)], p.steps ++ [.failed label message],
      p.failures ++ [label ++ ": " ++ kind ++ ": " ++ message]⟩)
  | .escaped => .error (p.log ++ [(op, .escaped)])

/-- `if not met: failures.append(message)`. -/
def Progress.require (p : Progress) (met : Bool) (message : String) : Progress :=
  if met then p else { p with failures := p.failures ++ [message] }

/-! ### Forward -/

structure SwitchResult where
  ok : Bool
  switched : Bool
  previousRelease : Option String
  release : Option String := none
  steps : List Step
  problems : List String
  repairRequired : Bool
  rollbackRelease : Option String := none
  metadataBackup : Option String := none

/-- The log of a sequence, and its result unless an exception escaped. -/
abbrev Ended (ρ : Type) := Log × Option ρ

def ended {ρ : Type} : Except Log (Log × ρ) → Ended ρ
  | .ok (log, result) => (log, some result)
  | .error log => (log, none)

/-- The failures of the drain. -/
def Progress.requireDrained (site : Site) (p : Progress) (drained : Facts) : Progress :=
  ["queue_depth", "leases", "sessions"].foldl
    (fun p key => p.require (drained.get key).isZero
      ("the drain still reports " ++ key ++ "=" ++ (drained.get key).repr site.repr)) p

/-- The steps of `switch_release` before the switch. -/
def vacate (site : Site) (release : String) : Except Log Progress := do
  let (admission, p) ← opsStep site "close_admission" .closeAdmission {}
  let p := p.require (admission.get "closed" = .bool true) "admission was not closed"
  let (drained, p) ← opsStep site "drain" .drain p
  let p := p.requireDrained site drained
  let (stopped, p) ← opsStep site "prove_instances_stopped" .proveInstancesStopped p
  let p := p.require (stopped.get "stopped" = .bool true)
    "the running instances were not proven stopped: current is not switched"
  let (preflight, p) ← opsStep site "preflight_release" (.preflightRelease release) p
  return p.require (preflight.get "accepted" = .bool true)
    ("the new release " ++ site.repr release ++ " did not pass preflight")

/-- The texts of the last three checks. -/
structure Texts where
  switch : String
  start : String
  smoke : String

/-- `switch_current`, `start` and `smoke`, with the checks of what they reported. -/
def cutOver (site : Site) (release : String) (texts : Texts) (p : Progress) :
    Except Log Progress := do
  let (switched, p) ← opsStep site "switch_current" (.switchCurrent release) p
  let (started, p) ← opsStep site "start" .start p
  let (smoke, p) ← opsStep site "smoke" .smoke p
  let p := p.require (switched.get "current" = .str release) texts.switch
  let p := p.require (started.get "running" = .bool true) texts.start
  return p.require (smoke.get "ok" = .bool true) texts.smoke

/-- `_ops_step(steps, [], "reopen_admission", ops.reopen_admission)`. -/
def reopen (site : Site) (p : Progress) : Except Log Progress := do
  let (_, q) ← opsStep site "reopen_admission" .reopenAdmission p
  return { q with failures := p.failures }

def switchRelease (site : Site) (release : String) (metadataBackup : Option String) :
    Ended SwitchResult :=
  match site.currentRelease with
  | none => ([], none)
  | some previous => ended do
    let p ← vacate site release
    if p.failures ≠ [] then
      let p ← reopen site p
      return (p.log,
        { ok := false, switched := false, previousRelease := previous, steps := p.steps,
          problems := p.failures, repairRequired := false })
    let p ← cutOver site release
      ⟨"current does not point at the new release", "the scheduler did not start",
        "the smoke check failed"⟩ p
    if p.failures ≠ [] then
      return (p.log,
        { ok := false, switched := true, previousRelease := previous, release := some release,
          steps := p.steps, problems := p.failures, repairRequired := true,
          rollbackRelease := previous, metadataBackup := metadataBackup })
    let p ← reopen site p
    return (p.log,
      { ok := true, switched := true, previousRelease := previous, release := some release,
        steps := p.steps, problems := [], repairRequired := false })

/-! ### Back -/

inductive Status
  | stoppedForRepair
  | repairRequired
  | running

structure RollbackResult where
  ok : Bool
  rolledBack : Bool
  release : Option String := none
  steps : List Step := []
  problems : List String
  status : Status
  admission : Facts := []

/-- The steps of `rollback_release` before the switch. Nothing is made of what `close_admission`
and `prove_instances_stopped` report. -/
def retreat (site : Site) (metadataBackup : Option String) (downgradeCompatible : Bool) :
    Except Log Progress := do
  let (_, p) ← opsStep site "close_admission" .closeAdmission {}
  let (_, p) ← opsStep site "prove_instances_stopped" .proveInstancesStopped p
  if downgradeCompatible then return p
  match metadataBackup with
  | none =>
    return p.require false
      "the downgrade is not metadata-compatible and no pre-upgrade backup exists"
  | some backup =>
    let (restored, p) ← opsStep site "restore_blob_metadata" (.restoreBlobMetadata backup) p
    return p.require (restored.get "restored" = .bool true)
      "the blob metadata backup was not restored"

def rollbackRelease (site : Site) (acceptedRelease metadataBackup : Option String)
    (downgradeCompatible : Bool) : Ended RollbackResult :=
  match acceptedRelease with
  | none => ended do
    let (stopped, p) ← opsStep site "stop_for_repair" .closeAdmission {}
    return (p.log,
      { ok := false, rolledBack := false, status := .stoppedForRepair,
        problems := ["no accepted older candidate exists: the site stops and is repaired by hand"],
        admission := stopped })
  | some release => ended do
    let p ← retreat site metadataBackup downgradeCompatible
    if p.failures ≠ [] then
      return (p.log,
        { ok := false, rolledBack := false, release := some release, steps := p.steps,
          problems := p.failures, status := .repairRequired })
    let p ← cutOver site release
      ⟨"current does not point at the accepted release", "the restored scheduler did not start",
        "the smoke check after the rollback failed"⟩ p
    return (p.log,
      { ok := p.failures = [], rolledBack := p.failures = [], release := some release,
        steps := p.steps, problems := p.failures,
        status := if p.failures = [] then .running else .repairRequired })

end ModelSwitch.Release

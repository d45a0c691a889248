import ModelSwitch.Program.Book
import Mathlib.Data.List.Sort

/-!
# The eviction policy

`eviction_policy.py`: deterministic candidate selection over the book, without changing it.
-/

namespace ModelSwitch

structure EvictionCandidate where
  modelId : ModelId
  reservedBytes : ℤ
  heat : ℚ
  priority : ℤ
  score : ℚ

namespace EvictionPolicy

variable (b : Book)

/-- The order of the sort key `(score, model_id)`. -/
def precedes (x y : EvictionCandidate) : Bool :=
  x.score < y.score ∨ (x.score = y.score ∧ x.modelId ≤ y.modelId)

/-- The unsorted candidates among `specs`. A v2 registration has no `pinned` attribute, which is
read only once the model's runtime passes. -/
def collect (now : Time) (includeBusy : Bool) :
    List (ModelId × Registration) → Except Exc (List EvictionCandidate)
  | [] => .ok []
  | (m, reg) :: specs =>
    match b.runtime.get? m with
    | none => .error (.keyError m)
    | some r =>
      if r.state ≠ .ready ∨ (r.hasLeases ∧ ¬ includeBusy) ∨ r.admissionBlocked then
        collect now includeBusy specs
      else
        match reg with
        | .v2 _ => .error (.attributeError "pinned")
        | .v1 spec =>
          if spec.pinned ∨ ¬ spec.evictable then collect now includeBusy specs
          else
            match collect now includeBusy specs with
            | .error e => .error e
            | .ok result =>
              let heat := b.heat m now
              .ok (⟨m, b.required m, heat, spec.priority,
                (heat + spec.priority) / b.required m⟩ :: result)

def candidates (now : Time) (includeBusy : Bool) : Except Exc (List EvictionCandidate) :=
  match collect b now includeBusy b.specs.entries with
  | .error e => .error e
  | .ok result => .ok (result.insertionSort (precedes · ·))

/-- The shortest prefix that releases `bytesNeeded`, or nothing if `maxEvictions` do not. -/
def prefixFor (bytesNeeded : ℤ) (maxEvictions : ℕ) (selected : List EvictionCandidate)
    (released : ℤ) : List EvictionCandidate → List EvictionCandidate
  | [] => []
  | c :: cs =>
    let selected := selected ++ [c]
    let released := released + c.reservedBytes
    if bytesNeeded ≤ released then selected
    else if maxEvictions ≤ selected.length then []
    else prefixFor bytesNeeded maxEvictions selected released cs

def choose (maxEvictions : ℕ) (bytesNeeded : ℤ) (now : Time) (includeBusy : Bool) :
    Except Exc (List EvictionCandidate) :=
  if bytesNeeded ≤ 0 then .ok []
  else
    match candidates b now includeBusy with
    | .error e => .error e
    | .ok cs => .ok (prefixFor bytesNeeded maxEvictions [] 0 cs)

end EvictionPolicy

end ModelSwitch

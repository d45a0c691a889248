import ModelSwitch.Proofs.Scheduler.Grants

/-!
# Requests that end without a lease

A request that does not return its lease must leave none behind. Between the grant and the end of
the `finally` block the lease is in the book and nowhere else, so this rests on the `finally` block
being run to its end, and on nobody else using the same request identifier.
-/

namespace ModelSwitch

/-! ### What the other tasks add -/

namespace Co

variable {s : Scheduler} {v : TaskView} {inp : Input} {co : Co} {e : Effect Co Value}

end Co

namespace System

variable {w w' : System} {a : Act} {t : TaskId} {inp : Input} {c : AcquireCall}

/-! ### Request identifiers -/

/-- The identifiers of the requests that are running. -/
def acquiring (w : System) : List RequestId :=
  w.tasks.values.filterMap fun
    | .running _ (.acquire c _) => some c.requestId
    | _ => none

/-- A running request was running before, or it is the call made just now. -/
lemma Took.acquire {pc' : Acquire.Pc} (h : Took w a w') (hs : w'.Suspended t (.acquire c pc')) :
    (∃ pc, w.Suspended t (.acquire c pc)) ∨ (a = .call (.acquire c) ∧ t = w.nextTask) := by
  refine suspended_step (K := fun _ t co => ∀ c pc, co = .acquire c pc →
      (∃ pc, w.Suspended t (.acquire c pc)) ∨ (a = .call (.acquire c) ∧ t = w.nextTask))
    ?_ h ?_ ?_ ?_ ?_ ?_ t _ hs c pc' rfl
  · rintro t co hs c pc rfl
    exact .inl ⟨pc, hs⟩
  · rintro call co rfl hstart c pc rfl
    obtain ⟨rfl, -⟩ := ApiCall.start_acquire hstart
    exact .inr ⟨rfl, rfl⟩
  · rintro t inp co e co' - ht he - hc c pc rfl
    obtain ⟨pc₀, -, rfl, -⟩ := Co.step_acquire he hc
    exact .inl ⟨pc₀, true, ht⟩
  · rintro t inp co e sp - - - - c pc hsp
    cases sp <;> cases hsp
  · rintro t co co' - ht - hc c pc rfl
    obtain ⟨pc₀, rfl, -⟩ := Co.throw_acquire hc
    exact .inl ⟨pc₀, true, ht⟩
  · intro t co _ _ _ hK
    exact hK

/-- No lease is held for the request. -/
def Unleased (s : Scheduler) (r : RequestId) : Prop :=
  ∀ m k l, s.book.Held m k l → l.requestId ≠ r

end System

end ModelSwitch

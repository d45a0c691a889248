import ModelSwitch.Program.Wiring
import ModelSwitch.Proofs.Blobs.Calls
import ModelSwitch.Proofs.Execution.Refusals

/-!
# Executions run on the blob that their client named

A reference names a blob by its id, its hash, its size and its media type, and the service resolves
it by the id and the owner alone. So a backend gets the blob the client named exactly as far as the
row under that id agrees with the reference. Where it does not agree, the backend gets another blob.
-/

namespace ModelSwitch

namespace Execution

/-! ### Where the path of a blob comes from -/

namespace Run

variable {s : Service} {id : ExecutionId} {inp : Input}

/-- The path that `_run` has been given for its input. -/
def Pc.path : Pc → Option String
  | .storeInput _ path => some path
  | .acquiring path | .handOver path _ | .reserving path _ | .dispatch path _ _ => path
  | _ => none

lemma Pc.path_of_far {pc : Pc} (h : pc.far = true) : pc.path = none := by
  cases pc <;> first | rfl | cases h

/-- A path comes from the blob store. -/
lemma Next.path {pc pc' : Pc} {s' : Service} (h : Next s id pc inp s' pc')
    (hpc' : pc'.path.isSome = true) :
    pc.path.isSome = true ∨ pc = .openInput ∧ ∃ path, inp = .opened (.ok path) := by
  cases h with
  | opened path => exact .inr ⟨rfl, path, rfl⟩
  | stored => exact .inl rfl
  | granted | filed | reserved => exact .inl hpc'
  | far h =>
    rw [Pc.path_of_far h] at hpc'
    cases hpc'
  | _ => cases hpc'

end Run

/-- A record keeps what was submitted. -/
lemma Change.submitted {L : Licence} {s : Service} {id : ExecutionId} {r r' : Record}
    (h : Change L s id r r') :
    r'.input = r.input ∧ r'.owner = r.owner ∨ s.records.get? id = none := by
  cases h with
  | edit h =>
    cases h with
    | quiet h => exact .inl ⟨congrArg (·.input) h, congrArg (·.owner) h⟩
    | _ => exact .inl ⟨rfl, rfl⟩
  | mark =>
    refine .inl ?_
    simp only [Record.markReason, Record.markCancelling]
    split <;> split <;> exact ⟨rfl, rfl⟩
  | settle h => cases h <;> exact .inl ⟨rfl, rfl⟩
  | create hr hid hnone => exact .inr hnone
  | _ => exact .inl ⟨rfl, rfl⟩

lemma Moves.submitted {L : Licence} {p p' : List Debt × Service} {id : ExecutionId}
    (h : Relation.ReflTransGen (Move L) p p') (hfile : (p.2.records.get? id).isSome = true) :
    (p'.2.get id).input = (p.2.get id).input ∧ (p'.2.get id).owner = (p.2.get id).owner := by
  induction h with
  | refl => exact ⟨rfl, rfl⟩
  | tail hms hm ih =>
    have hkept := Service.Keeps.moves hms (List.forall_mem_singleton.mpr hfile) id
      List.mem_cons_self
    rcases (hm.change id).submitted with heq | hnone
    · exact ⟨heq.1.trans ih.1, heq.2.trans ih.2⟩
    · rw [hnone] at hkept
      cases hkept

namespace System

variable {w w' : System} {t u : TaskId} {co : Co} {e : Effect Co Value} {inp : Input} {a : Act}
  {id : ExecutionId} {pc : Run.Pc} {F : ExecutionId → Prop}

lemma step_submitted (hw : w.Wf) (h : w.step a = some w')
    (hfile : (w.svc.records.get? id).isSome = true) :
    (w'.svc.get id).input = (w.svc.get id).input ∧
      (w'.svc.get id).owner = (w.svc.get id).owner := by
  rcases step_cases h with ⟨env, store, rfl, -⟩ | ⟨c, -, rfl⟩ |
    ⟨t, inp, co, e, -, hrun, hlegal, hstep, rfl⟩ | ⟨t, co, -, hrun, rfl⟩
  · exact ⟨rfl, rfl⟩
  · exact ⟨rfl, rfl⟩
  · exact Moves.submitted (taking_moves hw hrun hlegal hstep) hfile
  · exact Moves.submitted (killed_moves hw hrun) hfile

/-- Every path, in a task or in a backend call, belongs to an execution in `F`. -/
structure Sourced (w : System) (F : ExecutionId → Prop) : Prop where
  run : ∀ t id pc, w.Running t (.run id pc) → pc.path.isSome = true → F id
  executed : ∀ id fence path, .execute id fence (some path) ∈ w.svc.log → F id

/-- The backend is called with the path that `_run` carries. -/
lemma execute_path (hw : w.Wf) (hrun : w.Running t co) (hlegal : inp.legal w.svc = true)
    (hstep : co.step w.svc (w.view t) inp = some e) {fence : Fence} {path : Option String}
    (hmem : .execute id fence path ∈ e.next.log) :
    .execute id fence path ∈ w.svc.log ∨
      ∃ fence' reservation, co = .run id (.dispatch path fence' reservation) := by
  rcases Moves.licensed (taking_moves hw hrun hlegal hstep) hmem with hold |
    ⟨path', fence', reservation, rfl⟩
  · exact .inl hold
  · obtain ⟨e', he', rfl⟩ := Option.map_eq_some_iff.mp hstep
    obtain ⟨-, rfl⟩ := withLock_some he'
    rw [(Effect.lift_next _ _ _).1] at hmem
    rcases @Run.dispatch_cases w.svc id path' fence' reservation with heq |
      ⟨-, fence'', heq⟩
    · rw [heq] at hmem
      exact .inl hmem
    · rw [heq, List.mem_append, List.mem_singleton] at hmem
      refine hmem.imp_right fun hnew => ?_
      cases hnew
      exact ⟨fence', reservation, rfl⟩

lemma Sourced.commit (hw : w.Wf) (hs : w.Sourced F) (hrun : w.Running t co)
    (hlegal : inp.legal w.svc = true) (hstep : co.step w.svc (w.view t) inp = some e)
    (hopen : ∀ id path, inp = .opened (.ok path) → co = .run id .openInput → F id) :
    (w.commit t e).Sourced F := by
  refine ⟨fun u id pc hu hpc => ?_, fun id fence path hmem => ?_⟩
  · rcases run_commit hw.fresh hrun hstep hu with ⟨pc', rfl, rfl, -, hnext⟩ | ⟨-, hold⟩ |
      ⟨sp, hsp, hco⟩
    · rcases hnext.path hpc with hpath | ⟨rfl, path, rfl⟩
      · exact hs.run u id _ hrun hpath
      · exact hopen id path rfl rfl
    · exact hs.run u id pc hold hpc
    · cases sp with
      | run id' => cases hco; cases hpc
      | _ => cases hco
  · rcases execute_path hw hrun hlegal hstep hmem with hold | ⟨fence', reservation, rfl⟩
    · exact hs.executed id fence path hold
    · exact hs.run t id _ hrun rfl

lemma Sourced.step (hw : w.Wf) (hs : w.Sourced F) (h : w.step a = some w')
    (hopen : ∀ t id path, a = .resume t (.opened (.ok path)) →
      w.Running t (.run id .openInput) → F id) : w'.Sourced F := by
  rcases step_cases h with ⟨env, store, rfl, -⟩ | ⟨c, -, rfl⟩ |
    ⟨t, inp, co, e, rfl, hrun, hlegal, hstep, rfl⟩ | ⟨t, co, -, hrun, rfl⟩
  · exact ⟨hs.run, hs.executed⟩
  · exact ⟨fun u id pc hu => hs.run u id pc (running_run_begun hu), hs.executed⟩
  · refine hs.commit hw hrun hlegal hstep ?_
    rintro id path rfl rfl
    exact hopen t id path rfl hrun
  · refine ⟨fun u id pc hu => hs.run u id pc (running_killed hu).2, fun id fence path hmem => ?_⟩
    exact hs.executed id fence path
      ((Moves.licensed (killed_moves hw hrun) hmem).resolve_right fun h => h)

lemma Sourced.mono {G : ExecutionId → Prop} (hs : w.Sourced F) (h : ∀ id, F id → G id) :
    w.Sourced G :=
  ⟨fun t id pc hrun hpc => h id (hs.run t id pc hrun hpc),
    fun id fence path hmem => h id (hs.executed id fence path hmem)⟩

end System

end Execution

/-! ### What a lease is entered for -/

namespace Blobs

/-- The lease has been entered for a published row of the owner, or refused by the store. -/
def LeaseEnd (s : Store) (args : LeaseArgs) : Co → Prop
  | .lease _ (.hold _) => ∃ row, s.metadata.get args.blobId = some row ∧ row.owner = args.owner ∧
      row.state = .published
  | .done (.error e) => ∃ code message, e = .blobStoreError code message
  | _ => False

lemma alone_done (n : ℕ) (s : Store) (out : Outcome) :
    Co.alone n s (.done out) = (s, .done out) := by
  cases n <;> rfl

lemma openVerified_error {s : Store} {id : BlobId} {r : BlobRecord} {e : Exc}
    (h : (s.openVerified id r).2 = .error e) :
    ∃ code message, e = .blobStoreError code message := by
  simp only [Store.openVerified, Store.openPublished, Store.verify] at h
  split at h
  · next e' heq =>
    cases h
    split at heq
    · cases heq; exact ⟨_, _, rfl⟩
    · split at heq <;> first | (cases heq; exact ⟨_, _, rfl⟩) | cases heq
  · split at h
    · next e' heq =>
      cases h
      split at heq
      · split at heq
        · cases heq; exact ⟨_, _, rfl⟩
        · split at heq
          · cases heq; exact ⟨_, _, rfl⟩
          · cases heq
      · cases heq; exact ⟨_, _, rfl⟩
    · cases h

lemma openVerified_get {s : Store} {id : BlobId} {r : BlobRecord} {fd : Ino}
    (h : (s.openVerified id r).2 = .ok fd) : (s.openVerified id r).1 = s := by
  simp only [Store.openVerified] at h ⊢
  split at h
  · cases h
  · split at h
    · cases h
    · rfl

lemma alone_call {n : ℕ} {s : Store} {co : Co} {c : Call} (h : co.await s.cfg = some (.call c)) :
    Co.alone (n + 1) s co = Co.alone n (c.run s).1 (co.next s.cfg s.clock (c.run s).2) := by
  simp only [Co.alone, h]

/-- The last two calls of a lease, for a published row of the owner. -/
lemma alone_verified_end {s : Store} {args : LeaseArgs} {row : BlobRecord}
    (hrow : s.metadata.get args.blobId = some row)
    (hown : row.owner = args.owner ∧ row.state = .published) :
    LeaseEnd s args (Co.alone 1 ((Call.openVerified args.blobId row).run s).1
      ((Co.lease args (.verify row)).next s.cfg s.clock
        ((Call.openVerified args.blobId row).run s).2)).2 := by
  simp only [Call.run, Co.next]
  cases hopen : (s.openVerified args.blobId row).2 with
  | error e =>
    obtain ⟨code, message, rfl⟩ := openVerified_error hopen
    exact ⟨code, message, rfl⟩
  | ok fd =>
    rw [openVerified_get hopen]
    have hacquired : (s.metadata.acquireLease args.blobId args.holder).2 = true := by
      simp only [Metadata.acquireLease, hrow, hown.2, ne_eq, not_true_eq_false, if_false]
    simp only [Except.map, Lease.next]
    rw [alone_call (c := .acquireLease args.blobId args.holder) rfl]
    simp only [Co.alone, Call.run, Co.next, hacquired, Lease.next]
    exact ⟨row, hrow, hown⟩

lemma alone_lease_end (s : Store) (args : LeaseArgs) :
    LeaseEnd s args (Co.alone 3 s (checked args.blobId args.owner (.lease args .get))).2 := by
  simp only [checked, refuse]
  split
  · rw [alone_done]; exact ⟨_, _, rfl⟩
  · split
    · rw [alone_done]; exact ⟨_, _, rfl⟩
    · rw [alone_call (c := .get args.blobId) rfl]
      change LeaseEnd s args
        (Co.alone 2 s (Lease.admission s.clock args (s.metadata.get args.blobId))).2
      cases hrow : s.metadata.get args.blobId with
      | none => exact ⟨_, _, rfl⟩
      | some row =>
        simp only [Lease.admission]
        split
        · rw [alone_done]; exact ⟨_, _, rfl⟩
        · next hrow' =>
          rw [not_or, not_not, not_not] at hrow'
          split
          · rw [alone_done]; exact ⟨_, _, rfl⟩
          · rw [alone_call (c := .openVerified args.blobId row) rfl]
            exact alone_verified_end hrow hrow'

lemma enterLease_ok {s : Store} {args : LeaseArgs} {path : String}
    (h : (s.enterLease args).2 = .ok path) :
    ∃ row, s.metadata.get args.blobId = some row ∧ row.owner = args.owner ∧
      row.state = .published := by
  have hend := alone_lease_end s args
  simp only [Store.enterLease] at h
  split at h
  · next heq => rw [heq] at hend; exact hend
  · cases h
  · cases h

lemma enterLease_error {s : Store} {args : LeaseArgs} {e : Exc}
    (h : (s.enterLease args).2 = .error e) : ∃ code message, e = .blobStoreError code message := by
  have hend := alone_lease_end s args
  simp only [Store.enterLease] at h
  split at h
  · cases h
  · next heq => cases h; rw [heq] at hend; exact hend
  · next hhold hdone =>
    generalize (Co.alone 3 s (checked args.blobId args.owner (.lease args .get))).2 = co at *
    simp only [LeaseEnd] at hend

/-- The row is published under the owner and is the blob of the reference. -/
structure BlobRecord.IsNamed (row : BlobRecord) (ref : BlobRef) (owner : Owner) : Prop where
  owner : row.owner = owner
  state : row.state = .published
  sha256 : row.sha256 = some ref.sha256
  sizeBytes : row.sizeBytes = ref.sizeBytes
  mediaType : row.mediaType = ref.mediaType

end Blobs

namespace Wired

open Execution (System)

variable {w w' w₁ w₂ : Wired} {a : Act} {t : TaskId} {id : ExecutionId} {ref : BlobRef}

/-- The reference agrees with the published row that the owner has under its id, if there is one. -/
def Agrees (s : Blobs.Store) (ref : BlobRef) (owner : Blobs.Owner) : Prop :=
  ∀ row ∈ s.metadata.get ref.blobId, row.owner = owner → row.state = .published →
    row.sha256 = some ref.sha256 ∧ row.sizeBytes = ref.sizeBytes ∧ row.mediaType = ref.mediaType

instance (s : Blobs.Store) (ref : BlobRef) (owner : Blobs.Owner) : Decidable (Agrees s ref owner) :=
  inferInstanceAs (Decidable (∀ row ∈ s.metadata.get ref.blobId, _ → _ → _))

/-- An input is opened only while its reference agrees with the store. -/
def consistent (w : Wired) : Act → Bool
  | .openInput t => (w.opening t).all fun p =>
      Agrees w.blobs p.2 (Execution.blobOwnerFor (w.exec.svc.get p.1).owner)
  | _ => true

/-- A reader of the blob that was named has been entered for the execution. -/
def Fed (w : Wired) (id : ExecutionId) : Prop :=
  ∃ ref row, (w.exec.svc.get id).input = .blob ref ∧ (id, row) ∈ w.readers ∧
    row.IsNamed ref (Execution.blobOwnerFor (w.exec.svc.get id).owner)

lemma opening_some (h : w.opening t = some (id, ref)) :
    w.exec.Running t (.run id .openInput) ∧ (w.exec.svc.get id).input = .blob ref := by
  simp only [opening] at h
  split at h
  · next htask =>
    split at h
    · cases h
    · next hinput =>
      cases h
      exact ⟨htask, hinput⟩
  · cases h

lemma opening_eq (hrun : w.exec.Running t (.run id .openInput))
    (hinput : (w.exec.svc.get id).input = .blob ref) : w.opening t = some (id, ref) := by
  have htask : w.exec.tasks.get? t = some (.running (.run id .openInput)) := hrun
  simp only [opening, htask, hinput]

/-- The answer of the store to task `t`. -/
lemma openInput_cases (h : w.step (.openInput t) = some w') :
    ∃ id ref, w.opening t = some (id, ref) ∧
      w.exec.step (.resume t (.opened
        ((w.blobs.enterLease (w.leaseArgs id ref)).2.mapError Blobs.Exc.port))) = some w'.exec ∧
      w'.readers = w.readers ++ reader id (w.blobs.metadata.get ref.blobId)
        (w.blobs.enterLease (w.leaseArgs id ref)).2 := by
  simp only [step] at h
  split at h
  · cases h
  · next id ref heq =>
    obtain ⟨exec, hexec, rfl⟩ := Option.map_eq_some_iff.mp h
    exact ⟨id, ref, heq, hexec, rfl⟩

/-- What a step of the whole is for the service: nothing, a step of its own, or the answer of the
store. -/
lemma step_cases (h : w.step a = some w') :
    w'.exec = w.exec ∧ w'.readers = w.readers ∨
    (∃ a', w.exec.step a' = some w'.exec ∧ w'.readers = w.readers ∧
      ∀ t r, a' ≠ .resume t (.opened r)) ∨
    ∃ t id ref, a = .openInput t ∧ w.opening t = some (id, ref) ∧
      w.exec.step (.resume t (.opened
        ((w.blobs.enterLease (w.leaseArgs id ref)).2.mapError Blobs.Exc.port))) = some w'.exec ∧
      w'.readers = w.readers ++ reader id (w.blobs.metadata.get ref.blobId)
        (w.blobs.enterLease (w.leaseArgs id ref)).2 := by
  cases a with
  | store s => cases h; exact .inl ⟨rfl, rfl⟩
  | openInput t =>
    obtain ⟨id, ref, hopen, hexec, hreaders⟩ := openInput_cases h
    exact .inr (.inr ⟨t, id, ref, rfl, hopen, hexec, hreaders⟩)
  | exec a =>
    simp only [step] at h
    split at h
    · cases h
    · next a' hother heq =>
      cases heq
      obtain ⟨exec, hexec, rfl⟩ := Option.map_eq_some_iff.mp h
      exact .inr (.inl ⟨a, hexec, rfl, fun t r heq => hother t r (by rw [heq])⟩)
    · next heq => cases heq
    · next heq => cases heq

/-- The service runs as it would with any store. -/
lemma reach_exec {ok : Wired → Act → Prop} (h : w.Reach ok) :
    w.exec.Reach fun _ _ => True := by
  obtain ⟨w₀, ⟨hstart, -⟩, hrun⟩ := h
  refine hrun.invariant (I := fun w => w.exec.Reach fun _ _ => True) ?_ ⟨_, hstart, .refl _⟩
  rintro w a w' ⟨w₁, hstart₁, hrun₁⟩ - hstep
  rcases step_cases hstep with ⟨heq, -⟩ | ⟨a', hexec, -⟩ | ⟨t, id, ref, -, -, hexec, -⟩
  · rw [heq]; exact ⟨w₁, hstart₁, hrun₁⟩
  · exact ⟨w₁, hstart₁, .tail a' hrun₁ trivial hexec⟩
  · exact ⟨w₁, hstart₁, .tail _ hrun₁ trivial hexec⟩

lemma wf_step (hw : w.exec.Wf) (h : w.step a = some w') : w'.exec.Wf := by
  rcases step_cases h with ⟨heq, -⟩ | ⟨a', hexec, -⟩ | ⟨t, id, ref, -, -, hexec, -⟩
  · rw [heq]; exact hw
  · exact hw.step hexec
  · exact hw.step hexec

/-- A reader stays, and so does what was submitted. -/
lemma Fed.step (hw : w.exec.Wf) (h : w.step a = some w') (hf : w.Fed id) : w'.Fed id := by
  obtain ⟨ref, row, hinput, hmem, hnamed⟩ := hf
  have hfile : (w.exec.svc.records.get? id).isSome = true := by
    cases hr : w.exec.svc.records.get? id with
    | some r => rfl
    | none =>
      rw [Execution.Service.get, hr] at hinput
      cases hinput
  have hkept : (w'.exec.svc.get id).input = (w.exec.svc.get id).input ∧
      (w'.exec.svc.get id).owner = (w.exec.svc.get id).owner := by
    rcases step_cases h with ⟨heq, -⟩ | ⟨a', hexec, -⟩ | ⟨t, id, ref, -, -, hexec, -⟩
    · rw [heq]; exact ⟨rfl, rfl⟩
    · exact System.step_submitted hw hexec hfile
    · exact System.step_submitted hw hexec hfile
  refine ⟨ref, row, hkept.1.trans hinput, ?_, by rw [hkept.2]; exact hnamed⟩
  rcases step_cases h with ⟨-, heq⟩ | ⟨a', -, heq, -⟩ | ⟨t, id, ref, -, -, -, heq⟩
  · rw [heq]; exact hmem
  · rw [heq]; exact hmem
  · rw [heq]; exact List.mem_append_left _ hmem

/-- The reader of an input that agrees with its reference is one of the blob that was named. -/
lemma fed_of_opening (hok : w.consistent (.openInput t) = true)
    (hopen : w.opening t = some (id, ref))
    (hreaders : w'.readers = w.readers ++ reader id (w.blobs.metadata.get ref.blobId)
      (w.blobs.enterLease (w.leaseArgs id ref)).2)
    (hsub : (w'.exec.svc.get id).input = (w.exec.svc.get id).input ∧
      (w'.exec.svc.get id).owner = (w.exec.svc.get id).owner) {path : String}
    (hpath : (w.blobs.enterLease (w.leaseArgs id ref)).2 = .ok path) : w'.Fed id := by
  obtain ⟨row, hrow, howner, hstate⟩ := Blobs.enterLease_ok hpath
  simp only [consistent, hopen, Option.all_some, decide_eq_true_eq] at hok
  obtain ⟨hsha, hsize, hmedia⟩ := hok row hrow howner hstate
  have hget : w.blobs.metadata.get ref.blobId = some row := hrow
  refine ⟨ref, row, hsub.1.trans (opening_some hopen).2, ?_, ?_⟩
  · rw [hreaders, hpath, hget]
    exact List.mem_append_right _ List.mem_cons_self
  · rw [hsub.2]
    exact ⟨howner, hstate, hsha, hsize, hmedia⟩

lemma sourced_step (hw : w.exec.Wf) (hs : w.exec.Sourced w.Fed) (hok : w.consistent a = true)
    (h : w.step a = some w') : w'.exec.Sourced w'.Fed := by
  have hs' : w.exec.Sourced w'.Fed := hs.mono fun id hf => hf.step hw h
  rcases step_cases h with ⟨heq, -⟩ | ⟨a', hexec, -, hother⟩ |
    ⟨t, id, ref, rfl, hopen, hexec, hreaders⟩
  · rw [heq]; exact hs'
  · exact hs'.step hw hexec fun t id path heq => absurd heq (hother t _)
  · refine hs'.step hw hexec fun t' id' path heq hrun => ?_
    cases hentered : (w.blobs.enterLease (w.leaseArgs id ref)).2 with
    | error e =>
      rw [hentered] at heq
      cases heq
    | ok path' =>
      rw [hentered] at heq
      cases heq
      cases hrun.symm.trans (opening_some hopen).1
      obtain ⟨r, hr⟩ := Execution.Service.exists_of_claimed (hw.claimed _ _ _ hrun)
      have hfile : (w.exec.svc.records.get? id).isSome = true := by rw [hr]; rfl
      have hsub := System.step_submitted hw hexec hfile
      exact fed_of_opening hok hopen hreaders hsub hentered

/-- No row of the store is the blob of the reference. -/
def Unnamed (w : Wired) (id : ExecutionId) (ref : BlobRef) : Prop :=
  ∀ row ∈ w.blobs.metadata.get ref.blobId,
    ¬ row.IsNamed ref (Execution.blobOwnerFor (w.exec.svc.get id).owner)

/-- An input that is not in the store is refused. -/
lemma inputFailed_of_unnamed (hw : w.exec.Wf) (hok : w.consistent (.openInput t) = true)
    (hrun : w.exec.Running t (.run id .openInput)) (hinput : (w.exec.svc.get id).input = .blob ref)
    (hnone : w.Unnamed id ref) (h : w.step (.openInput t) = some w') :
    ∃ code, w'.exec.Running t (.run id (.inputFailed code)) := by
  have hopen := opening_eq hrun hinput
  obtain ⟨id', ref', hopen', hexec, -⟩ := openInput_cases h
  cases hopen.symm.trans hopen'
  cases hentered : (w.blobs.enterLease (w.leaseArgs id ref)).2 with
  | ok path =>
    obtain ⟨row, hrow, howner, hstate⟩ := Blobs.enterLease_ok hentered
    simp only [consistent, hopen, Option.all_some, decide_eq_true_eq] at hok
    obtain ⟨hsha, hsize, hmedia⟩ := hok row hrow howner hstate
    exact absurd ⟨howner, hstate, hsha, hsize, hmedia⟩ (hnone row hrow)
  | error e =>
    obtain ⟨code, message, rfl⟩ := Blobs.enterLease_error hentered
    rw [hentered] at hexec
    obtain ⟨co, e, hrun', -, hstep, heq⟩ := System.resume_cases hexec
    cases hrun.symm.trans hrun'
    cases hstep
    rw [heq]
    exact ⟨_, System.commit_running_self hw.fresh (hw.fresh.lt hrun) rfl⟩

/-- What has been denied stays denied. -/
lemma denied_run {ok : Wired → Act → Prop} (hw : w.exec.Wf) (hd : w.exec.Denied id)
    (hrun : Run step ok w w') : w'.exec.Denied id := by
  have hboth : w'.exec.Wf ∧ w'.exec.Denied id := by
    refine hrun.invariant (I := fun w => w.exec.Wf ∧ w.exec.Denied id) ?_ ⟨hw, hd⟩
    rintro w a w' ⟨hw, hd⟩ - hstep
    refine ⟨wf_step hw hstep, ?_⟩
    rcases step_cases hstep with ⟨heq, -⟩ | ⟨a', hexec, -⟩ | ⟨t, id, ref, -, -, hexec, -⟩
    · rw [heq]; exact hd
    · exact hd.step hw hexec
    · exact hd.step hw hexec
  exact hboth.2

/-- Executions run on the blob that was named: in every run in which an input is opened only while
its reference agrees with the published row of its owner, every backend call with a path is for an
execution whose reader is of the blob that was named. Where the store has no such row, the input is
refused, and the section that follows settles the execution with an error and without a backend
call, then and ever after. -/
theorem Reach.runs_on_named (h : w.Reach fun w a => w.consistent a = true) :
    (∀ id fence path, .execute id fence (some path) ∈ w.exec.svc.log → w.Fed id) ∧
    ∀ t id ref w', w.exec.Running t (.run id .openInput) →
      (w.exec.svc.get id).input = .blob ref → w.Unnamed id ref →
      w.consistent (.openInput t) = true → w.step (.openInput t) = some w' →
      ∃ code, w'.exec.Running t (.run id (.inputFailed code)) ∧
        ∀ w₁ w₂ w₃, Run step (fun _ _ => True) w' w₁ →
          w₁.exec.Running t (.run id (.inputFailed code)) →
          (w₁.exec.svc.get id).settled = false → w₁.step (.exec (.resume t .go)) = some w₂ →
          Run step (fun _ _ => True) w₂ w₃ →
          w₃.exec.svc.SettledUnstarted id ∧ w₃.exec.svc.Undispatched id := by
  have hexec := reach_exec h
  constructor
  · obtain ⟨w₀, ⟨hstart, -⟩, hrun⟩ := h
    have hboth : w.exec.Wf ∧ w.exec.Sourced w.Fed := by
      refine hrun.invariant (I := fun w => w.exec.Wf ∧ w.exec.Sourced w.Fed) ?_ ⟨hstart.wf, ?_⟩
      · rintro w a w' ⟨hw, hs⟩ hok hstep
        exact ⟨wf_step hw hstep, sourced_step hw hs hok hstep⟩
      · obtain ⟨cfg, env, s, hs, heq⟩ := hstart
        obtain ⟨cfg', rfl⟩ := Execution.System.init_ok hs
        rw [heq]
        exact ⟨by rintro t id pc ⟨⟩, by rintro id fence path ⟨⟩⟩
    exact hboth.2.executed
  · intro t id ref w' hrun hinput hnone hok hstep
    have hw := hexec.wf
    obtain ⟨code, hfailed⟩ := inputFailed_of_unnamed hw hok hrun hinput hnone hstep
    refine ⟨code, hfailed, fun w₁ w₂ w₃ hrun₁ hat hs hturn hrun₂ => ?_⟩
    have hreach₁ : w₁.Reach fun _ _ => True := by
      obtain ⟨w₀, hstart, hrun₀⟩ := h
      exact ⟨w₀, hstart, ((hrun₀.mono fun _ _ _ => trivial).tail _ trivial hstep).trans hrun₁⟩
    have hexec₁ := reach_exec hreach₁
    obtain ⟨exec, hexec₂, rfl⟩ := Option.map_eq_some_iff.mp hturn
    have hdenied := System.denied_of_refusal hexec₁.wf hat rfl hs hexec₂
      (hexec₁.before System.undispatched_endsBehind)
    have hlast := denied_run (hexec₁.wf.step hexec₂) hdenied hrun₂
    exact ⟨hlast.toSettledUnstarted, hlast.undispatched⟩

/-! ### A store with one blob -/

def digest (c : Char) : String := String.ofList (List.replicate 64 c)

def servedRow : Blobs.BlobRecord where
  owner := "alice"
  sha256 := some (digest '0')
  sizeBytes := 1
  mediaType := "application/json"
  state := .published

def servedStore : Blobs.Store where
  cfg := { sha256 := fun _ => digest '0' }
  metadata := { policy := Blobs.emptyStore.metadata.policy, blobs := Dict.empty.set "b" servedRow }
  disk := { nodes := Dict.empty.set 0 (.regular [7]), nextIno := 1,
            published := Dict.empty.set ("alice", "b") 0 }

/-- The reference of that blob. -/
def servedRef : BlobRef where
  blobId := "b"
  owner := "alice"
  sha256 := digest '0'
  sizeBytes := 1
  mediaType := "application/json"

/-- A reference to another content under the same id. -/
def otherRef : BlobRef :=
  { servedRef with sha256 := digest '1', sizeBytes := 2, mediaType := "image/png" }

def sample : Wired where
  exec := Execution.sample
  blobs := servedStore

lemma sample_starts : sample.Starts := ⟨Execution.sample_starts, rfl⟩

/-- Execution 1 is submitted with the reference and comes to open its input. -/
def submitRef (ref : BlobRef) : List Act :=
  [.exec (.call (.submit { System.sampleSubmit with input := .blob ref })),
    .exec (Execution.System.go 0), .exec (Execution.System.go 1), .exec (Execution.System.go 1),
    .exec (Execution.System.go 2)]

/-- Its input is opened, and the backend is called. -/
def dispatchRef (ref : BlobRef) : List Act :=
  submitRef ref ++ [.openInput 2, .exec (Execution.System.go 2),
    .exec (.resume 2 (.acquired (.ok System.sampleLease))), .exec (Execution.System.go 2),
    .exec (.resume 2 (.reserved (.ok System.sampleReservation))), .exec (Execution.System.go 2)]

/-- A client that names the blob of the store gets it; one that names a blob that is gone is
refused. -/
theorem runs_on_named_served :
    (∃ w : Wired, w.Reach (fun w a => w.consistent a = true) ∧
      .execute 1 System.sampleReservation.fence (some "alice/b") ∈ w.exec.svc.log ∧ w.Fed 1) ∧
    ∃ w w' : Wired, w.Reach (fun w a => w.consistent a = true) ∧
      w.step (.openInput 2) = some w' ∧
      ∃ code, w'.exec.Running 2 (.run 1 (.inputFailed code)) := by
  constructor
  · obtain ⟨w, hrun, hmem⟩ := exists_run_to step consistent sample (dispatchRef servedRef)
      (fun w => .execute 1 System.sampleReservation.fence (some "alice/b") ∈ w.exec.svc.log)
      (by decide +kernel)
    have hreach : w.Reach fun w a => w.consistent a = true := ⟨sample, sample_starts, hrun⟩
    exact ⟨w, hreach, hmem, (Reach.runs_on_named hreach).1 _ _ _ hmem⟩
  · obtain ⟨w, hrun, hat, hinput, hempty, hok, hstep⟩ := exists_run_to step consistent sample
      (submitRef otherRef ++ [.store { servedStore with
        metadata := { servedStore.metadata with blobs := Dict.empty } }])
      (fun w => w.exec.isRun 2 1 .openInput = true ∧
        (w.exec.svc.get 1).input = .blob otherRef ∧ w.blobs.metadata.get "b" = none ∧
        w.consistent (.openInput 2) = true ∧ (w.step (.openInput 2)).isSome = true)
      (by decide +kernel)
    have hreach : w.Reach fun w a => w.consistent a = true := ⟨sample, sample_starts, hrun⟩
    obtain ⟨w', hstep'⟩ := Option.isSome_iff_exists.mp hstep
    have hunnamed : w.Unnamed 1 otherRef := by
      intro row hrow
      rw [show w.blobs.metadata.get otherRef.blobId = none from hempty] at hrow
      cases hrow
    obtain ⟨code, hfailed, -⟩ := (Reach.runs_on_named hreach).2 2 1 otherRef w'
      (System.of_isRun hat) hinput hunnamed hok hstep'
    exact ⟨w, w', hreach, hstep', code, hfailed⟩

/-- The reference differs from the row in its hash, its size and its media type, and passes the
checks of `parse_blob_ref`: the backend is called on the blob of the row. -/
theorem runs_on_another_blob :
    ∃ w : Wired, w.Reach (fun _ _ => True) ∧
      Protocol.parseBlobRef otherRef "input.blob" = .ok () ∧
      (w.exec.svc.get 1).input = .blob otherRef ∧
      .execute 1 System.sampleReservation.fence (some "alice/b") ∈ w.exec.svc.log ∧
      w.readers = [(1, servedRow)] ∧ ¬ w.Fed 1 := by
  obtain ⟨w, hrun, hinput, hmem, hreaders⟩ := exists_run_to step (fun _ _ => true) sample
    (dispatchRef otherRef)
    (fun w => (w.exec.svc.get 1).input = .blob otherRef ∧
      .execute 1 System.sampleReservation.fence (some "alice/b") ∈ w.exec.svc.log ∧
      w.readers = [(1, servedRow)])
    (by decide +kernel)
  refine ⟨w, ⟨sample, sample_starts, hrun.mono fun _ _ _ => trivial⟩, by decide +kernel, hinput,
    hmem, hreaders, ?_⟩
  rintro ⟨ref, row, href, hrow, hnamed⟩
  rw [hreaders, List.mem_singleton] at hrow
  cases hrow
  have hsize := hnamed.sizeBytes
  cases hinput.symm.trans href
  exact absurd hsize (by decide)

end Wired

end ModelSwitch

import ModelSwitch.Program.Blobs.System

/-!
# Thread calls and steps of the blob store

What a metadata method does to one row, and what a step of the store consists of: at most one
thread call, and one coroutine that moves on.
-/

namespace ModelSwitch.Blobs

namespace Metadata

variable {m m' : Metadata} {id id' : BlobId} {r r' : BlobRecord}

/-! ### Rows -/

lemma get_update (m : Metadata) (id id' : BlobId) (states : BlobState → Bool)
    (f : BlobRecord → BlobRecord) :
    (m.update id states f).get id' =
      (m.get id').map fun r => if id' = id ∧ states r.state = true then f r else r := by
  simp only [update, get]
  split
  · next hnone =>
    by_cases h : id' = id
    · rw [h, hnone]; rfl
    · simp [h]
  · next r hr =>
    by_cases h : id' = id
    · subst h
      split <;> rename_i hs <;> simp [hr, hs]
    · split <;> simp [h, Dict.get?_set_ne]

@[simp] lemma leases_update (m : Metadata) (id : BlobId) (states : BlobState → Bool)
    (f : BlobRecord → BlobRecord) : (m.update id states f).leases = m.leases := by
  simp only [update]
  split
  · rfl
  · split <;> rfl

lemma get_update_ne (m : Metadata) (states : BlobState → Bool) (f : BlobRecord → BlobRecord)
    (h : id' ≠ id) : (m.update id states f).get id' = m.get id' := by
  simp [get_update, h]

/-- A published row whose file is not the published one becomes a tombstone. -/
lemma releaseMissing_deleted (hr : m.get id = some r) (now : Time) :
    ∃ r', (m.releaseMissing id now true).get id = some r' ∧ r'.state = .deleted := by
  let r' : BlobRecord :=
    { r with state := .deleted, sizeBytes := 0,
             expiresAt := some (now + m.policy.tombstoneSeconds) }
  refine ⟨r', ?_, rfl⟩
  rw [releaseMissing, get_update, hr, Option.map_some, if_pos ⟨rfl, rfl⟩]
  rfl

lemma get_abort_self (hr : m.get id = some r) (hunf : r.state.unfinished = true) :
    (m.abort id).get id = none := by
  simp only [get] at hr
  simp only [abort, hr, hunf, if_true, get, Dict.get?_erase_self]

lemma get_abort_ne (m : Metadata) (h : id' ≠ id) : (m.abort id).get id' = m.get id' := by
  simp only [abort]
  split
  · split
    · exact Dict.get?_erase_ne _ h
    · rfl
  · rfl

@[simp] lemma leases_abort (m : Metadata) (id : BlobId) : (m.abort id).leases = m.leases := by
  simp only [abort]
  split
  · split <;> rfl
  · rfl

/-- An unfinished row is published. -/
lemma publish_unfinished (hr : m.get id = some r) (hunf : r.state.unfinished = true)
    (sha : Digest) (size : ℤ) (now : Time) :
    ∃ r', (m.publish id sha size now).1.get id = some r' ∧
      (m.publish id sha size now).2 = .ok r' ∧ r'.owner = r.owner ∧ r'.state = .published ∧
      r'.sha256 = some sha ∧ r'.sizeBytes = size := by
  have hget : (m.publish id sha size now).1.get id = some
      { r with state := .published, sha256 := some sha, sizeBytes := size,
               expiresAt := some (now + m.policy.retentionSeconds) } := by
    simp only [publish]
    rw [get_update, hr, Option.map_some, if_pos ⟨rfl, hunf⟩]
  refine ⟨_, hget, ?_, rfl, rfl, rfl, rfl⟩
  simp only [publish] at hget ⊢
  simp only [require, hget, ne_eq, not_true_eq_false, if_false]

lemma mem_leasesOf {h : Holder} : h ∈ m.leasesOf id ↔ (id, h) ∈ m.leases := by
  simp only [leasesOf, List.mem_map, List.mem_filter, decide_eq_true_eq]
  constructor
  · rintro ⟨⟨i, h'⟩, ⟨hmem, rfl⟩, rfl⟩
    exact hmem
  · intro hmem
    exact ⟨(id, h), ⟨hmem, rfl⟩, rfl⟩

lemma leasesOf_eq_nil : m.leasesOf id = [] ↔ ∀ h, (id, h) ∉ m.leases := by
  simp only [List.eq_nil_iff_forall_not_mem, mem_leasesOf]

lemma delete_held {owner : Owner} (hr : m.get id = some r) (howner : r.owner = owner)
    (hstate : r.state ≠ .deleted) (hheld : m.leasesOf id ≠ []) (now : Time) :
    m.delete id owner now = (m, .held) := by
  simp only [delete, hr, howner, hstate, hheld, ne_eq, not_true_eq_false, not_false_eq_true,
    if_true, if_false]

lemma delete_free (hr : m.get id = some r) (hfree : m.leasesOf id = []) (now : Time) :
    (m.delete id r.owner now).2 = .deleted := by
  simp only [delete, hr, hfree, ne_eq, not_true_eq_false, if_false]
  split_ifs <;> rfl

lemma mem_expire {now : Time} : (id, r) ∈ (m.expire now).2 ↔
    m.get id = some r ∧ m.expirable now id r = true := by
  simp only [expire, List.mem_filter, Dict.mem_entries_iff, get]

lemma expirable_iff {now : Time} : m.expirable now id r = true ↔
    r.state = .published ∧ r.expiresAt.any (· ≤ now) = true ∧ m.leasesOf id = [] := by
  simp only [expirable, Bool.and_eq_true, decide_eq_true_eq, List.isEmpty_iff, and_assoc]

end Metadata

/-! ### Steps -/

section Steps

variable {w w' : System} {t : TaskId} {inp : Input}

lemma Await.meet_some {s : Store} {a : Await} {p : Store × Except Exc Answer}
    (h : a.meet s inp = some p) :
    (∃ c, a = .call c ∧ inp = .go ∧ p = c.run s) ∨
    (∃ c, a = .call c ∧ inp = .fail ∧ p = (s, .error .osError)) ∨
    (∃ owner id, a = .call (.publishFile owner id) ∧ inp = .failLate ∧
      p = (((Call.publishFile owner id).run s).1, .error .osError)) ∨
    (∃ fd b n, a = .call (.write fd b) ∧ inp = .short n ∧ p = (Call.write fd (b.take n)).run s) ∨
    (∃ b, a = .stream ∧ inp = .chunk b ∧ p = (s, .ok (.chunk b))) ∨
    ((a = .stream ∨ a = .block) ∧
      ((inp = .eof ∧ p = (s, .ok .ended)) ∨ (inp = .raise ∧ p = (s, .error .streamError)))) := by
  simp only [Await.meet] at h
  split at h <;> cases h
  · exact .inl ⟨_, rfl, rfl, rfl⟩
  · exact .inr (.inl ⟨_, rfl, rfl, rfl⟩)
  · exact .inr (.inr (.inl ⟨_, _, rfl, rfl, rfl⟩))
  · exact .inr (.inr (.inr (.inl ⟨_, _, _, rfl, rfl, rfl⟩)))
  · exact .inr (.inr (.inr (.inr (.inl ⟨_, rfl, rfl, rfl⟩))))
  · exact .inr (.inr (.inr (.inr (.inr ⟨.inl rfl, .inl ⟨rfl, rfl⟩⟩))))
  · exact .inr (.inr (.inr (.inr (.inr ⟨.inr rfl, .inl ⟨rfl, rfl⟩⟩))))
  · exact .inr (.inr (.inr (.inr (.inr ⟨.inl rfl, .inr ⟨rfl, rfl⟩⟩))))
  · exact .inr (.inr (.inr (.inr (.inr ⟨.inr rfl, .inr ⟨rfl, rfl⟩⟩))))

namespace System

lemma start_some {request : Request} (h : w.start request = some w') :
    ∃ co, w'.store = w.store ∧ w'.tasks = w.tasks.set w.nextTask co := by
  cases request with
  | writeOutput | cancelOutput | abandonOutput =>
    obtain ⟨r, -, rfl⟩ := Option.map_eq_some_iff.mp h
    exact ⟨_, rfl, rfl⟩
  | _ =>
    cases h
    exact ⟨_, rfl, rfl⟩

lemma resume_some (h : w.resume t inp = some w') :
    ∃ co a p, w.tasks.get? t = some co ∧ co.await w.store.cfg = some a ∧
      a.meet w.store inp = some p ∧
      w' = { w with store := p.1 }.put t (co.next w.store.cfg w.store.clock p.2) := by
  simp only [resume] at h
  split at h
  · cases h
  · next co hco =>
    split at h
    · cases h
    · next a ha =>
      obtain ⟨p, hp, rfl⟩ := Option.map_eq_some_iff.mp h
      exact ⟨co, a, p, hco, ha, hp, rfl⟩

lemma cancel_some (h : w.cancel t = some w') :
    ∃ co a, w.tasks.get? t = some co ∧ co.await w.store.cfg = some a ∧
      w' = { w with strays := w.strays ++ a.stray }.put t
        (co.next w.store.cfg w.store.clock (.error .cancelledError)) := by
  simp only [cancel] at h
  split at h
  · cases h
  · next co hco =>
    obtain ⟨a, ha, rfl⟩ := Option.map_eq_some_iff.mp h
    exact ⟨co, a, hco, ha, rfl⟩

@[simp] lemma put_store (co : Co) : (w.put t co).store = w.store := rfl

@[simp] lemma put_tasks (co : Co) : (w.put t co).tasks = w.tasks.set t co := rfl

@[simp] lemma damage_tasks (owner : Owner) (id : BlobId) (node : Option Node) :
    (w.damage owner id node).tasks = w.tasks := by
  cases node <;> rfl

@[simp] lemma damage_nextTask (owner : Owner) (id : BlobId) (node : Option Node) :
    (w.damage owner id node).nextTask = w.nextTask := by
  cases node <;> rfl

end System

end Steps

/-- A computed run. -/
lemma System.exists_run (ok : System → Act → Bool) (w : System) (acts : List Act)
    (P : System → Prop) [DecidablePred P]
    (h : ((execUnder System.step ok w acts).any fun w' => P w') = true) :
    ∃ w', Run System.step (fun w a => ok w a = true) w w' ∧ P w' :=
  exists_run_to System.step ok w acts P h

/-! ### A small store -/

/-- The store with its default policy and a stand-in for the hash. -/
def emptyStore : Store where
  cfg := { sha256 := fun content => if content = [7] then "seven" else "other" }
  metadata := { policy := { valid := by norm_num } }

/-- One published blob `b` of the owner `o`. -/
def oneBlob : Store :=
  { emptyStore with
    metadata :=
      { emptyStore.metadata with
        blobs := Dict.empty.set "b"
          { owner := "o", sha256 := some "seven", sizeBytes := 1, mediaType := "application/json",
            state := .published, expiresAt := some 100 } }
    disk :=
      { nodes := Dict.empty.set 0 (.regular [7]), nextIno := 1,
        published := Dict.empty.set ("o", "b") 0 } }

def sampleOutput (id : BlobId) (limit : ℤ) : OutputReservation where
  blobId := id
  owner := "o"
  mediaType := "application/json"
  limitBytes := limit
  fence := ⟨"boot", "m", 1, 0, none, none⟩

end ModelSwitch.Blobs

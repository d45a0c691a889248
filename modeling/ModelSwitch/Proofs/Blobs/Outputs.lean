import ModelSwitch.Proofs.Blobs.Calls

/-!
# Outputs that are given up

`abandon_output` removes the staging file, the published file and the row of an output, each in a
thread call of its own, while `write_output` may still be at work. The row goes in any order but
one: a row that the writer has published before `abort` looks at it stays.
-/

namespace ModelSwitch.Blobs

open ModelSwitch.Execution (Body)

/-- Steps of `write_output`, `cancel_output` and `abandon_output` for one reservation, in any order;
what the writer reads or calls may fail, but not the cleaning up. -/
def Interleaves (key : TaskId) (w : System) : Act → Bool
  | .tick _ | .diskFree _ => true
  | .call (.writeOutput k _ _) | .call (.cancelOutput k _) | .call (.abandonOutput k) => k = key
  | .resume t .fail => (w.tasks.get? t).any fun | .receive _ _ => true | _ => false
  | .resume _ .failLate => false
  | .resume _ _ => true
  | _ => false

/-- The writer comes to `metadata.publish` only when the row is gone. -/
def PublishesLate (w : System) : Act → Bool
  | .resume t .go =>
    (w.tasks.get? t).all fun
      | .receive job (.publish _ _) => (w.store.metadata.get job.blobId).isNone
      | _ => true
  | _ => true

section Steps

variable {key t : TaskId} {w : System} {inp : Input} {co : Co}

lemma not_failLate (h : Interleaves key w (.resume t inp) = true) : inp ≠ .failLate := by
  rintro rfl
  cases h

lemma receive_of_fail (h : Interleaves key w (.resume t inp) = true)
    (ht : w.tasks.get? t = some co) (hinp : inp = .fail) : ∃ job pc, co = .receive job pc := by
  subst hinp
  simp only [Interleaves, ht, Option.any_some] at h
  cases co with
  | receive job pc => exact ⟨job, pc, rfl⟩
  | _ => cases h

lemma gone_of_publish (h : PublishesLate w (.resume t inp) = true)
    (ht : w.tasks.get? t = some co) (hinp : inp = .go) (job : Receipt) (got : Body) (moment : Time)
    (hco : co = .receive job (.publish got moment)) : w.store.metadata.get job.blobId = none := by
  subst hinp hco
  simpa [PublishesLate, ht] using h

end Steps

/-! ### Calls -/

/-- What a writer of the output calls, or whoever cleans up after it. -/
def Call.ofOutput (owner : Owner) (id : BlobId) : Call → Prop
  | .journal .. | .openStaging _ | .beginStaging _ | .write .. | .fsync _ | .close _
  | .clearJournal _ | .removeStaging _ | .removePublished .. | .abort _ => True
  | .publish id' .. => id' = id
  | .publishFile owner' id' => owner' = owner ∧ id' = id
  | _ => False

/-- The calls of a clean-up. -/
def Call.tidies : Call → Prop
  | .close _ | .removeStaging _ | .removePublished .. | .abort _ | .clearJournal _ => True
  | _ => False

section Calls

variable {s : Store} {c : Call} {owner : Owner} {id : BlobId}

lemma Call.tidies.ofOutput (h : c.tidies) : c.ofOutput owner id := by
  cases c <;> trivial

lemma Call.tidies.answer (h : c.tidies) (s : Store) : ∃ a, (c.run s).2 = .ok a := by
  cases c with
  | close | removeStaging | removePublished | abort | clearJournal => exact ⟨_, rfl⟩
  | _ => cases h

/-- A row that is gone stays gone. -/
lemma Call.ofOutput.gone (h : c.ofOutput owner id) (hnone : s.metadata.get id = none) :
    (c.run s).1.metadata.get id = none := by
  cases c with
  | beginStaging id' | publish id' =>
    simp only [run, onMetadata, Metadata.beginStaging, Metadata.publish, Metadata.get_update, hnone,
      Option.map_none]
  | abort id' =>
    simp only [run, silent, Metadata.abort]
    split
    · split
      · rw [Metadata.get, Dict.get?_erase]
        split_ifs
        · rfl
        · exact hnone
      · exact hnone
    · exact hnone
  | _ => first | exact hnone | cases h

/-- An unfinished row is not finished, unless it is published. -/
lemma Call.ofOutput.unfinished (h : c.ofOutput owner id)
    (hrow : ∀ r, s.metadata.get id = some r → r.state.unfinished = true)
    (hpub : ∀ sha size now, c ≠ .publish id sha size now) :
    ∀ r, (c.run s).1.metadata.get id = some r → r.state.unfinished = true := by
  cases c with
  | beginStaging id' =>
    intro r hr
    simp only [run, onMetadata, Metadata.beginStaging, Metadata.get_update] at hr
    obtain ⟨r₀, hr₀, rfl⟩ := Option.map_eq_some_iff.mp hr
    split_ifs
    · rfl
    · exact hrow r₀ hr₀
  | publish id' sha size now =>
    cases h
    exact absurd rfl (hpub sha size now)
  | abort id' =>
    intro r hr
    simp only [run, silent, Metadata.abort] at hr
    split at hr
    · split at hr
      · rw [Metadata.get, Dict.get?_erase] at hr
        split_ifs at hr
        exact hrow r hr
      · exact hrow r hr
    · exact hrow r hr
  | _ => first | exact hrow | cases h

/-- A file appears only by the rename. -/
lemma Call.ofOutput.file (h : c.ofOutput owner id)
    (hfile : (c.run s).1.disk.published.get? (owner, id) ≠ none) :
    s.disk.published.get? (owner, id) ≠ none ∨
      c = .publishFile owner id ∧ ∃ a, (c.run s).2 = .ok a := by
  cases c with
  | openStaging id' =>
    refine .inl fun hnone => hfile ?_
    simp only [run, onDisk, Disk.openStaging]
    split <;> exact hnone
  | write fd b =>
    refine .inl fun hnone => hfile ?_
    simp only [run, Disk.write]
    split <;> exact hnone
  | publishFile owner' id' =>
    obtain ⟨rfl, rfl⟩ := h
    simp only [run, onDisk, Disk.publishFile] at hfile ⊢
    split at hfile
    · exact .inl hfile
    · exact .inr ⟨trivial, _, rfl⟩
  | removePublished owner' id' =>
    refine .inl fun hnone => hfile ?_
    simp only [run, Disk.removePublished, Dict.get?_erase, hnone, ite_self]
  | beginStaging | publish => exact .inl hfile
  | _ => first | exact .inl hfile | cases h

end Calls

/-! ### Coroutines -/

/-- A coroutine of the output; it hands no reservation out. -/
def Co.ofOutput (owner : Owner) (id : BlobId) : Co → Prop
  | .receive job _ => job.owner = owner ∧ job.blobId = id
  | .seq call rest out => (∀ c ∈ call :: rest, c.tidies) ∧ ∀ r, out ≠ .ok (.reservation r)
  | .done out => ∀ r, out ≠ .ok (.reservation r)
  | _ => False

/-- The file is going to be removed: by the clean-up, or because its row is gone. -/
def Co.removes (owner : Owner) (id : BlobId) : Co → Prop
  | .receive _ (.publish _ _) => True
  | .seq call rest _ => .removePublished owner id ∈ call :: rest
  | _ => False

section Coroutines

variable {owner : Owner} {id : BlobId} {cfg : StoreConfig} {clock : Time}

lemma Co.ofOutput_calls {l : List Call} {out : Outcome} (h : ∀ c ∈ l, c.tidies)
    (hout : ∀ r, out ≠ .ok (.reservation r)) : (Co.calls out l).ofOutput owner id := by
  cases l with
  | nil => exact hout
  | cons c l => exact ⟨h, hout⟩

lemma Co.removes_calls {l : List Call} (out : Outcome) (h : .removePublished owner id ∈ l) :
    (Co.calls out l).removes owner id := by
  cases l with
  | nil => cases h
  | cons c l => exact h

lemma Receive.await_ofOutput {job : Receipt} (hjob : job.owner = owner ∧ job.blobId = id)
    {pc : Receive} {c : Call} (hawait : pc.await cfg job = .call c) : c.ofOutput owner id := by
  cases pc with
  | chunk => cases hawait
  | publishFile => cases hawait; exact hjob
  | publish => cases hawait; exact hjob.2
  | _ => cases hawait; trivial

lemma Receive.next_ofOutput {job : Receipt} (hjob : job.owner = owner ∧ job.blobId = id)
    (pc : Receive) (a : Except Exc Answer) : (pc.next cfg clock job a).ofOutput owner id := by
  have hundo : ∀ fd e, (undoStaging job fd e).ofOutput owner id := by
    refine fun fd e => ⟨fun c hc => ?_, nofun⟩
    fin_cases hc <;> trivial
  unfold Receive.next
  split
  all_goals first
    | exact hjob
    | exact hundo _ _
    | (intro r hr; cases hr)
    | skip
  · simp only [received]
    split_ifs
    · exact hjob
    · exact hundo _ _
    · exact hjob
  · simp only [synced]
    split_ifs
    · exact hundo _ _
    · exact hundo _ _
    · exact hjob
  · refine ⟨fun c hc => ?_, nofun⟩
    fin_cases hc <;> trivial
  · refine ⟨fun c hc => ?_, nofun⟩
    fin_cases hc <;> trivial

variable {s : Store} {co : Co} {a : Await} {inp : Input} {p : Store × Except Exc Answer}

lemma Co.await_ofOutput (h : co.ofOutput owner id) {c : Call}
    (hawait : co.await cfg = some (.call c)) : c.ofOutput owner id := by
  cases co with
  | receive job pc => exact Receive.await_ofOutput h (Option.some.inj hawait)
  | seq call rest out =>
    cases hawait
    exact (h.1 c (List.mem_cons_self ..)).ofOutput
  | done => cases hawait
  | _ => cases h

lemma Co.publishing_of_await (h : co.ofOutput owner id) {sha : Digest} {size : ℤ} {now : Time}
    (hawait : co.await cfg = some (.call (.publish id sha size now))) :
    ∃ job got moment, co = .receive job (.publish got moment) := by
  cases co with
  | receive job pc =>
    cases pc with
    | publish got moment => exact ⟨job, got, moment, rfl⟩
    | _ => cases hawait
  | seq call rest out =>
    cases hawait
    cases h.1 _ (List.mem_cons_self ..)
  | done => cases hawait
  | _ => cases h

lemma Co.next_ofOutput (h : co.ofOutput owner id) (a : Except Exc Answer) :
    (co.next cfg clock a).ofOutput owner id := by
  cases co with
  | receive job pc => exact Receive.next_ofOutput h pc a
  | seq call rest out =>
    cases a with
    | error e => exact nofun
    | ok _ => exact Co.ofOutput_calls (fun c hc => h.1 c (List.mem_cons_of_mem _ hc)) h.2
  | done out => exact h
  | _ => cases h

/-- A publication of a row that is gone is refused. -/
lemma Metadata.publish_gone {m : Metadata} (hnone : m.get id = none) (sha : Digest) (size : ℤ)
    (now : Time) : ∃ e, (m.publish id sha size now).2 = .error e := by
  have hgone : (m.update id (·.unfinished) fun r =>
      { r with state := .published, sha256 := some sha, sizeBytes := size,
               expiresAt := some (now + m.policy.retentionSeconds) }).get id = none := by
    rw [get_update, hnone, Option.map_none]
  simp only [publish, require, hgone]
  exact ⟨_, rfl⟩

/-- The store after a step for the output. -/
lemma Await.meet_store (h : ∀ c, a = .call c → c.ofOutput owner id) (hmeet : a.meet s inp = some p)
    (hlate : inp ≠ .failLate) :
    p.1 = s ∨ ∃ c, c.ofOutput owner id ∧ p = c.run s ∧
      (inp = .go ∧ a = .call c ∨ ∃ fd b, c = .write fd b) := by
  rcases Await.meet_some hmeet with ⟨c, rfl, rfl, rfl⟩ | ⟨c, rfl, rfl, rfl⟩ |
    ⟨owner', id', rfl, rfl, rfl⟩ | ⟨fd, b, n, rfl, rfl, rfl⟩ | ⟨b, rfl, rfl, rfl⟩ |
    ⟨-, ⟨rfl, rfl⟩ | ⟨rfl, rfl⟩⟩
  · exact .inr ⟨c, h c rfl, rfl, .inl ⟨rfl, rfl⟩⟩
  · exact .inl rfl
  · exact absurd rfl hlate
  · exact .inr ⟨.write fd (b.take n), trivial, rfl, .inr ⟨_, _, rfl⟩⟩
  · exact .inl rfl
  · exact .inl rfl
  · exact .inl rfl

/-- The file is there after a step: it was there, or the writer has just made it. -/
lemma Await.meet_file (h : ∀ c, a = .call c → c.ofOutput owner id) (hmeet : a.meet s inp = some p)
    (hlate : inp ≠ .failLate) (hfile : p.1.disk.published.get? (owner, id) ≠ none) :
    s.disk.published.get? (owner, id) ≠ none ∨
      a = .call (.publishFile owner id) ∧ ∃ ans, p.2 = .ok ans := by
  rcases Await.meet_store h hmeet hlate with hsame | ⟨c, hc, rfl, hcase⟩
  · rw [hsame] at hfile
    exact .inl hfile
  · rcases hc.file hfile with hold | ⟨rfl, hans⟩
    · exact .inl hold
    · rcases hcase with ⟨-, rfl⟩ | ⟨fd, b, heq⟩
      · exact .inr ⟨rfl, hans⟩
      · cases heq

/-- The call of a clean-up that may not fail is made. -/
lemma Call.tidies.meet {c : Call} (h : c.tidies) (hmeet : (Await.call c).meet s inp = some p)
    (hlate : inp ≠ .failLate) (hfail : inp ≠ .fail) : p = c.run s := by
  rcases Await.meet_some hmeet with ⟨c', heq, rfl, rfl⟩ | ⟨c', -, rfl, -⟩ |
    ⟨owner', id', -, rfl, -⟩ | ⟨fd, b, n, heq, -⟩ | ⟨b, heq, -⟩ | ⟨heq | heq, -⟩
  · cases heq
    rfl
  · exact absurd rfl hfail
  · exact absurd rfl hlate
  · cases heq
    cases h
  all_goals cases heq

/-- A publication of a row that is gone raises, whatever happens to the call. -/
lemma Await.meet_publish {sha : Digest} {size : ℤ} {now : Time}
    (hmeet : (Await.call (.publish id sha size now)).meet s inp = some p)
    (hgone : inp = .go → s.metadata.get id = none) : ∃ e, p.2 = .error e := by
  rcases Await.meet_some hmeet with ⟨c, heq, rfl, rfl⟩ | ⟨c, heq, rfl, rfl⟩ |
    ⟨owner', id', heq, -⟩ | ⟨fd, b, n, heq, -⟩ | ⟨b, heq, -⟩ | ⟨heq | heq, -⟩
  · cases heq
    obtain ⟨e, he⟩ := Metadata.publish_gone (hgone rfl) sha size now
    exact ⟨e, by simp only [Call.run, Call.onMetadata, he, Except.map]⟩
  · exact ⟨_, rfl⟩
  all_goals cases heq

/-- A coroutine of the output takes a step. If the file is there afterwards, it was there already
and the coroutine was not to remove it, or the coroutine is to remove it now. -/
lemma Co.next_removes (h : co.ofOutput owner id) (ha : co.await s.cfg = some a)
    (hmeet : a.meet s inp = some p) (hlate : inp ≠ .failLate)
    (hfail : inp = .fail → ∃ job pc, co = .receive job pc)
    (hpub : inp = .go → ∀ job got moment, co = .receive job (.publish got moment) →
      s.metadata.get job.blobId = none)
    (hfile : p.1.disk.published.get? (owner, id) ≠ none) :
    (s.disk.published.get? (owner, id) ≠ none ∧ ¬ co.removes owner id) ∨
      (co.next s.cfg clock p.2).removes owner id := by
  have hcall : ∀ c, a = .call c → c.ofOutput owner id := by
    rintro c rfl
    exact Co.await_ofOutput h ha
  have hcases := Await.meet_file hcall hmeet hlate hfile
  cases co with
  | receive job pc =>
    obtain rfl : pc.await s.cfg job = a := Option.some.inj ha
    cases pc with
    | publish got moment =>
      obtain ⟨e, he⟩ := Await.meet_publish hmeet fun hgo => hpub hgo job got moment rfl
      obtain ⟨rfl, rfl⟩ := h
      rw [he]
      exact .inr (List.mem_cons_self ..)
    | publishFile got =>
      rcases hcases with hold | ⟨-, ans, hans⟩
      · exact .inl ⟨hold, False.elim⟩
      · rw [hans]
        exact .inr trivial
    | _ =>
      rcases hcases with hold | ⟨heq, -⟩
      · exact .inl ⟨hold, False.elim⟩
      · cases heq
  | seq call rest out =>
    cases ha
    have htidy := h.1 call (List.mem_cons_self ..)
    have hnofail : inp ≠ .fail := by
      intro hinp
      obtain ⟨job, pc, heq⟩ := hfail hinp
      cases heq
    obtain rfl := htidy.meet hmeet hlate hnofail
    obtain ⟨ans, hans⟩ := htidy.answer s
    rw [hans]
    by_cases hmem : .removePublished owner id ∈ rest
    · exact .inr (Co.removes_calls out hmem)
    · rcases hcases with hold | ⟨heq, -⟩
      · refine .inl ⟨hold, fun hrem => ?_⟩
        rcases List.mem_cons.mp hrem with rfl | hrest
        · simp [Call.run, Disk.removePublished] at hfile
        · exact hmem hrest
      · cases heq
        cases htidy
  | done => cases ha
  | _ => cases h

end Coroutines

/-! ### Runs -/

/-- An output that nobody has published, and whose file, if it is there, somebody is to remove. -/
structure Unpublishing (key : TaskId) (owner : Owner) (id : BlobId) (w : System) : Prop where
  reservation : ∀ r, w.reservations.get? key = some r → r.owner = owner ∧ r.blobId = id
  row : ∀ r, w.store.metadata.get id = some r → r.state.unfinished = true
  tasks : ∀ {t co}, w.tasks.get? t = some co →
    (∃ out, co = .done out) ∨ co.ofOutput owner id ∧ t < w.nextTask
  file : w.store.disk.published.get? (owner, id) ≠ none →
    ∃ t co, w.tasks.get? t = some co ∧ co.removes owner id

/-- The coroutine has still to give the row up, or it is gone. -/
def Abandons (t : TaskId) (id : BlobId) (w : System) : Prop :=
  w.store.metadata.get id = none ∨
    ∃ call rest out, w.tasks.get? t = some (.seq call rest out) ∧ .abort id ∈ call :: rest

namespace Unpublishing

variable {key t : TaskId} {owner : Owner} {id : BlobId} {w w' : System}
  (h : Unpublishing key owner id w)

include h

lemma spawn {co : Co} (hco : co.ofOutput owner id) : Unpublishing key owner id (w.spawn co) := by
  refine ⟨h.reservation, h.row, fun {t' co'} ht => ?_, fun hfile => ?_⟩
  · simp only [System.spawn, Dict.get?_set] at ht
    split_ifs at ht with heq
    · cases ht
      exact .inr ⟨hco, by simp only [System.spawn, heq]; exact Nat.lt_succ_self _⟩
    · exact (h.tasks ht).imp_right fun hold => ⟨hold.1, Nat.lt_succ_of_lt hold.2⟩
  · obtain ⟨t', co', ht, hrem⟩ := h.file hfile
    refine ⟨t', co', ?_, hrem⟩
    rcases h.tasks ht with ⟨out, rfl⟩ | ⟨-, hlt⟩
    · cases hrem
    · simp only [System.spawn, Dict.get?_set, if_neg hlt.ne, ht]

/-- One of the three requests. -/
lemma call {request : Request} (hok : Interleaves key w (.call request) = true)
    (hstart : w.start request = some w') : Unpublishing key owner id w' := by
  have habandon : ∀ (r : OutputReservation) out, (∀ r, out ≠ .ok (.reservation r)) →
      (r.abandon out).ofOutput owner id := by
    refine fun r out hout => Co.ofOutput_calls (fun c hc => ?_) hout
    fin_cases hc <;> trivial
  cases request with
  | writeOutput k expected now =>
    obtain rfl : k = key := of_decide_eq_true hok
    obtain ⟨r, hr, rfl⟩ := Option.map_eq_some_iff.mp hstart
    refine h.spawn ?_
    simp only [OutputReservation.write]
    split_ifs
    · exact habandon r _ (by rintro _ ⟨⟩)
    · exact h.reservation r hr
  | cancelOutput k fence =>
    obtain rfl : k = key := of_decide_eq_true hok
    obtain ⟨r, hr, rfl⟩ := Option.map_eq_some_iff.mp hstart
    have hres : Unpublishing k owner id
        { w with reservations := w.reservations.set k (r.cancel fence).1 } := by
      refine ⟨fun r' hr' => ?_, h.row, h.tasks, h.file⟩
      obtain rfl : (r.cancel fence).1 = r' := by simpa using hr'
      simp only [OutputReservation.cancel]
      split_ifs <;> exact h.reservation r hr
    exact hres.spawn (by rintro _ ⟨⟩)
  | abandonOutput k =>
    obtain ⟨r, -, rfl⟩ := Option.map_eq_some_iff.mp hstart
    exact h.spawn (habandon r _ (by rintro _ ⟨⟩))
  | _ => cases hok

/-- One of the coroutines goes on. -/
lemma resume {inp : Input} (hok : Interleaves key w (.resume t inp) = true)
    (hpub : PublishesLate w (.resume t inp) = true) (hstep : w.resume t inp = some w') :
    Unpublishing key owner id w' := by
  obtain ⟨co, a, p, ht, ha, hmeet, rfl⟩ := System.resume_some hstep
  rcases h.tasks ht with ⟨out, rfl⟩ | ⟨hco, hlt⟩
  · cases ha
  have hnext : (co.next w.store.cfg w.store.clock p.2).ofOutput owner id :=
    Co.next_ofOutput hco p.2
  have hlate := not_failLate hok
  have hgone := gone_of_publish hpub ht
  have hcall : ∀ c, a = .call c → c.ofOutput owner id := by
    rintro c rfl
    exact Co.await_ofOutput hco ha
  refine ⟨fun r hr => ?_, ?_, fun {t' co'} ht' => ?_, fun hfile => ?_⟩
  · refine h.reservation r ?_
    simp only [System.put] at hr
    split at hr
    · next r' heq =>
      rw [heq] at hnext
      exact absurd rfl (hnext r')
    · exact hr
  · rcases Await.meet_store hcall hmeet hlate with hsame | ⟨c, hc, rfl, hcase⟩
    · rw [System.put_store, hsame]
      exact h.row
    · by_cases hnone : w.store.metadata.get id = none
      · intro r hr
        rw [System.put_store, hc.gone hnone] at hr
        cases hr
      · refine hc.unfinished h.row ?_
        rintro sha size now rfl
        rcases hcase with ⟨rfl, rfl⟩ | ⟨fd, b, heq⟩
        · obtain ⟨job, got, moment, rfl⟩ := Co.publishing_of_await hco ha
          exact hnone (hco.2 ▸ hgone rfl job got moment rfl)
        · cases heq
  · simp only [System.put_tasks, Dict.get?_set] at ht'
    split_ifs at ht' with heq
    · cases ht'
      exact .inr ⟨hnext, heq ▸ hlt⟩
    · exact h.tasks ht'
  · rcases Co.next_removes hco ha hmeet hlate (receive_of_fail hok ht) hgone hfile with
      ⟨hold, hnot⟩ | hrem
    · obtain ⟨t', co', ht', hrem⟩ := h.file hold
      refine ⟨t', co', ?_, hrem⟩
      have hne : t' ≠ t := by
        rintro rfl
        cases ht.symm.trans ht'
        exact hnot hrem
      simp only [System.put_tasks, Dict.get?_set, if_neg hne, ht']
    · exact ⟨t, _, Dict.get?_set_self .., hrem⟩

lemma step {a : Act} (hok : Interleaves key w a = true) (hpub : PublishesLate w a = true)
    (hstep : w.step a = some w') : Unpublishing key owner id w' := by
  cases a with
  | tick now | diskFree bytes =>
    cases hstep
    exact ⟨h.reservation, h.row, h.tasks, h.file⟩
  | call request => exact h.call hok hstep
  | resume t inp => exact h.resume hok hpub hstep
  | damage | cancel | thread | crash => cases hok

/-- `abandon_output` gets to its `abort`, and no row is made again. -/
lemma abandons_step {a : Act} (hab : Abandons t id w) (hok : Interleaves key w a = true)
    (hstep : w.step a = some w') : Abandons t id w' := by
  cases a with
  | tick now | diskFree bytes =>
    cases hstep
    exact hab
  | call request =>
    obtain ⟨co, hstore, htasks⟩ := System.start_some hstep
    rcases hab with hnone | ⟨call, rest, out, ht, hmem⟩
    · exact .inl (by rw [hstore]; exact hnone)
    · refine .inr ⟨call, rest, out, ?_, hmem⟩
      rcases h.tasks ht with ⟨out, heq⟩ | ⟨-, hlt⟩
      · cases heq
      · rw [htasks, Dict.get?_set, if_neg hlt.ne, ht]
  | resume t' inp =>
    obtain ⟨co, a, p, ht', ha, hmeet, rfl⟩ := System.resume_some hstep
    rcases h.tasks ht' with ⟨out, rfl⟩ | ⟨hco, -⟩
    · cases ha
    have hcall : ∀ c, a = .call c → c.ofOutput owner id := by
      rintro c rfl
      exact Co.await_ofOutput hco ha
    have hkeep : w.store.metadata.get id = none → p.1.metadata.get id = none := by
      intro hnone
      rcases Await.meet_store hcall hmeet (not_failLate hok) with hsame | ⟨c, hc, rfl, -⟩
      · rw [hsame]
        exact hnone
      · exact hc.gone hnone
    rcases hab with hnone | ⟨call, rest, out, ht, hmem⟩
    · exact .inl (hkeep hnone)
    by_cases heq : t = t'
    · subst heq
      cases ht.symm.trans ht'
      cases ha
      -- the clean-up cannot fail, so its call is made
      have htidy := hco.1 call (List.mem_cons_self ..)
      have hnofail : inp ≠ .fail := by
        intro hinp
        obtain ⟨job, pc, heq⟩ := receive_of_fail hok ht hinp
        cases heq
      obtain rfl := htidy.meet hmeet (not_failLate hok) hnofail
      obtain ⟨ans, hans⟩ := htidy.answer w.store
      rw [hans]
      rcases List.mem_cons.mp hmem with rfl | hrest
      · refine .inl ?_
        cases hr : w.store.metadata.get id with
        | none => exact hkeep hr
        | some r => exact Metadata.get_abort_self hr (h.row r hr)
      · cases rest with
        | nil => cases hrest
        | cons call' rest => exact .inr ⟨call', rest, out, Dict.get?_set_self .., hrest⟩
    · refine .inr ⟨call, rest, out, ?_, hmem⟩
      rw [System.put_tasks, Dict.get?_set, if_neg heq, ht]
  | damage | cancel | thread | crash => cases hok

lemma run
    (hrun : Run System.step (fun w a => (Interleaves key w a && PublishesLate w a) = true) w w') :
    Unpublishing key owner id w' := by
  refine hrun.invariant (I := Unpublishing key owner id) (fun _ _ _ h hok hstep => ?_) h
  obtain ⟨hint, hpub⟩ := Bool.and_eq_true_iff.mp hok
  exact h.step hint hpub hstep

lemma run_abandons (hab : Abandons t id w)
    (hrun : Run System.step (fun w a => (Interleaves key w a && PublishesLate w a) = true) w w') :
    Abandons t id w' := by
  refine (hrun.invariant (I := fun w => Unpublishing key owner id w ∧ Abandons t id w)
    (fun _ _ _ h hok hstep => ?_) ⟨h, hab⟩).2
  obtain ⟨hint, hpub⟩ := Bool.and_eq_true_iff.mp hok
  exact ⟨h.1.step hint hpub hstep, h.1.abandons_step h.2 hint hstep⟩

end Unpublishing

/-- Every coroutine has come to its end. -/
def System.Finished (w : System) : Prop := ∀ t co, w.tasks.get? t = some co → ∃ out, co = .done out

/-- `reserve_output` has handed the reservation out, and nothing has been done with it. -/
structure System.Reserved (w : System) (key : TaskId) (r : OutputReservation) : Prop where
  reservation : w.reservations.get? key = some r
  row : ∃ row, w.store.metadata.get r.blobId = some row ∧ row.state = .reserved
  file : w.store.disk.published.get? (r.owner, r.blobId) = none
  finished : w.Finished

lemma System.Reserved.unpublishing {w : System} {key : TaskId} {r : OutputReservation}
    (h : w.Reserved key r) : Unpublishing key r.owner r.blobId w := by
  obtain ⟨row, hrow, hstate⟩ := h.row
  refine ⟨fun r' hr' => ?_, fun row' hrow' => ?_, fun ht => .inl (h.finished _ _ ht),
    fun hfile => absurd h.file hfile⟩
  · cases h.reservation.symm.trans hr'
    exact ⟨rfl, rfl⟩
  · cases hrow.symm.trans hrow'
    rw [hstate]
    rfl

/-- When `abandon_output` and every writer of the reservation have come to their end, in any order
in which no publication comes before the row is given up, the row and the file are gone. -/
theorem abandoned_output_gone {w₀ w₁ w₂ w : System} {key : TaskId} {r : OutputReservation}
    (hstart : w₀.Reserved key r)
    (hrun : Run System.step (fun w a => (Interleaves key w a && PublishesLate w a) = true) w₀ w₁)
    (hcall : w₁.step (.call (.abandonOutput key)) = some w₂)
    (hrun' : Run System.step (fun w a => (Interleaves key w a && PublishesLate w a) = true) w₂ w)
    (hdone : w.Finished) :
    w.store.metadata.get r.blobId = none ∧
      w.store.disk.published.get? (r.owner, r.blobId) = none := by
  have h₁ := hstart.unpublishing.run hrun
  have h₂ := h₁.step (a := .call (.abandonOutput key)) (by simp [Interleaves]) rfl hcall
  have hab : Abandons w₁.nextTask r.blobId w₂ := by
    obtain ⟨r', hr', rfl⟩ := Option.map_eq_some_iff.mp hcall
    rw [← (h₁.reservation r' hr').2]
    exact .inr ⟨_, _, _, Dict.get?_set_self .., by simp⟩
  have h := h₂.run hrun'
  refine ⟨?_, ?_⟩
  · rcases h₂.run_abandons hab hrun' with hnone | ⟨call, rest, out, ht, -⟩
    · exact hnone
    · obtain ⟨out, heq⟩ := hdone _ _ ht
      cases heq
  · by_contra hfile
    obtain ⟨t, co, ht, hrem⟩ := h.file hfile
    obtain ⟨out, rfl⟩ := hdone t co ht
    cases hrem

/-- The output `b` is reserved. -/
def reservedOutput : System where
  store :=
    { emptyStore with
      metadata :=
        { emptyStore.metadata with
          blobs := Dict.empty.set "b"
            { owner := "o", sizeBytes := 4, mediaType := "application/json",
              state := .reserved } } }
  reservations := Dict.empty.set 0 (sampleOutput "b" 4)
  nextTask := 1

lemma reservedOutput_reserved : reservedOutput.Reserved 0 (sampleOutput "b" 4) :=
  ⟨rfl, ⟨_, rfl, rfl⟩, rfl, fun _ _ ht => (nomatch ht)⟩

def System.finished (w : System) : Bool :=
  w.tasks.values.all fun | .done _ => true | _ => false

lemma System.finished_of_all {w : System} (h : w.finished = true) : w.Finished := by
  intro t co ht
  have hco := List.all_eq_true.mp h co (Dict.mem_values_iff.mpr ⟨t, ht⟩)
  cases co with
  | done out => exact ⟨out, rfl⟩
  | _ => cases hco

def stageOutput : List Act :=
  [.resume 1 .go, .resume 1 .go, .resume 1 (.chunk [7]), .resume 1 .go, .resume 1 .eof,
    .resume 1 .go, .resume 1 .go, .resume 1 .go, .resume 1 .go]

/-- The theorem where the writer renames its file and then finds its row gone. -/
theorem abandoned_output_gone_renamed :
    ∃ w₁ w₂ w, Run System.step (fun w a => (Interleaves 0 w a && PublishesLate w a) = true)
        reservedOutput w₁ ∧
      w₁.step (.call (.abandonOutput 0)) = some w₂ ∧
      Run System.step (fun w a => (Interleaves 0 w a && PublishesLate w a) = true) w₂ w ∧
      w.Finished ∧ w.store.metadata.get "b" = none ∧
      w.store.disk.published.get? ("o", "b") = none := by
  let ok : System → Act → Bool := fun w a => Interleaves 0 w a && PublishesLate w a
  obtain ⟨w₁, hrun, htest⟩ := System.exists_run ok reservedOutput
    (.call (.writeOutput 0 none none) :: .resume 1 .go :: stageOutput ++
      [.call (.cancelOutput 0 (sampleOutput "b" 4).fence)])
    (fun w₁ => ((w₁.step (.call (.abandonOutput 0))).any fun w₂ =>
      (execUnder System.step ok w₂ [.resume 3 .go, .resume 3 .go, .resume 3 .go, .resume 3 .go,
        .resume 1 .go, .resume 1 .go, .resume 1 .go, .resume 1 .go]).any System.finished) = true)
    (by decide +kernel)
  obtain ⟨w₂, hcall, htest⟩ := (Option.any_eq_true ..).mp htest
  obtain ⟨w, hrun', hall⟩ := exists_run htest
  have hdone := System.finished_of_all hall
  exact ⟨w₁, w₂, w, hrun, hcall, hrun', hdone,
    abandoned_output_gone reservedOutput_reserved hrun hcall hrun' hdone⟩

/-- The writer comes to its staging file after `abandon_output` has removed both files, and
publishes the row before `abort`, which leaves it then. -/
theorem abandoned_output_published :
    ∃ w₁ w₂ w, Run System.step (fun w a => Interleaves 0 w a = true) reservedOutput w₁ ∧
      w₁.step (.call (.abandonOutput 0)) = some w₂ ∧
      Run System.step (fun w a => Interleaves 0 w a = true) w₂ w ∧ w.Finished ∧
      (∃ r, w.store.metadata.get "b" = some r ∧ r.state = .published) ∧
      (w.store.metadata.usage "o").totalBytes = 1 ∧
      w.store.disk.published.get? ("o", "b") = some 0 := by
  obtain ⟨w₁, hrun, htest⟩ := System.exists_run (Interleaves 0) reservedOutput
    [.call (.writeOutput 0 none none), .resume 1 .go,
      .call (.cancelOutput 0 (sampleOutput "b" 4).fence)]
    (fun w₁ => ((w₁.step (.call (.abandonOutput 0))).any fun w₂ =>
      (execUnder System.step (Interleaves 0) w₂ (.resume 3 .go :: .resume 3 .go :: stageOutput ++
        [.resume 1 .go, .resume 1 .go, .resume 1 .go, .resume 3 .go, .resume 3 .go])).any fun w =>
          w.finished && ((w.store.metadata.get "b").any (·.state = .published)) &&
            (w.store.metadata.usage "o").totalBytes = 1 &&
            w.store.disk.published.get? ("o", "b") = some 0) = true)
    (by decide +kernel)
  obtain ⟨w₂, hcall, htest⟩ := (Option.any_eq_true ..).mp htest
  obtain ⟨w, hrun', htest⟩ := exists_run htest
  simp only [Bool.and_eq_true, Option.any_eq_true, decide_eq_true_eq] at htest
  obtain ⟨⟨⟨hall, hrow⟩, husage⟩, hfile⟩ := htest
  exact ⟨w₁, w₂, w, hrun, hcall, hrun', System.finished_of_all hall, hrow, husage, hfile⟩

end ModelSwitch.Blobs

import ModelSwitch.Proofs.Blobs.Calls

/-!
# Restart recovery

`recover` runs alone, after a crash and before the store is opened. Whatever survived, it comes to
its end; a published row whose file is not the published one becomes a tombstone, and an unfinished
row is completed from its renamed file or given up together with it.
-/

namespace ModelSwitch.Blobs

open ModelSwitch.Execution (Body)

/-! ### Running alone -/

/-- Alone, the coroutine comes from one point to the other. -/
def Alone (s : Store) (co : Co) (s' : Store) (co' : Co) : Prop := ∃ n, Co.alone n s co = (s', co')

namespace Alone

variable {s s' s'' : Store} {co co' co'' : Co} {c : Call}

lemma refl (s : Store) (co : Co) : Alone s co s co := ⟨0, rfl⟩

lemma call (hawait : co.await s.cfg = some (.call c))
    (h : Alone (c.run s).1 (co.next s.cfg s.clock (c.run s).2) s' co') : Alone s co s' co' := by
  obtain ⟨n, hn⟩ := h
  refine ⟨n + 1, ?_⟩
  rw [Co.alone, hawait]
  exact hn

lemma trans (h : Alone s co s' co') (h' : Alone s' co' s'' co'') : Alone s co s'' co'' := by
  obtain ⟨n, hn⟩ := h
  induction n generalizing s co with
  | zero => cases hn; exact h'
  | succ n ih =>
    cases hawait : co.await s.cfg with
    | none =>
      simp only [Co.alone, hawait] at hn
      cases hn
      exact h'
    | some a =>
      cases a with
      | call c =>
        simp only [Co.alone, hawait] at hn
        exact .call hawait (ih hn)
      | _ =>
        simp only [Co.alone, hawait] at hn
        cases hn
        exact h'

end Alone

/-! ### The published file of a row -/

/-- The published file of the row is there, with the size and the hash of the row. -/
def Store.Verified (s : Store) (id : BlobId) (r : BlobRecord) : Prop :=
  ∃ content, s.disk.nodeAt r.owner id = some (.regular content) ∧ s.agrees r content = true

namespace Store

variable {s : Store} {id : BlobId} {r : BlobRecord}

lemma verify_regular (content : Body) :
    ((∃ code message, s.verify r (.regular content) = .error (.blobStoreError code message)) ∧
      s.agrees r content = false) ∨
    s.verify r (.regular content) = .ok () ∧ s.agrees r content = true := by
  by_cases hsize : (content.length : ℤ) = r.sizeBytes
  · by_cases hsha : some (s.cfg.sha256 content) = r.sha256
    · exact .inr ⟨by simp [verify, hsize, hsha], by simp [agrees, hsize, hsha]⟩
    · exact .inl ⟨⟨_, _, (if_neg (not_not.mpr hsize)).trans (if_pos hsha)⟩, by simp [agrees, hsha]⟩
  · exact .inl ⟨⟨_, _, if_pos hsize⟩, by simp [agrees, hsize]⟩

/-- `_open_verified` opens the file of the row, or refuses. -/
lemma openVerified_cases (s : Store) (id : BlobId) (r : BlobRecord) :
    (s.Verified id r ∧ ∃ fd, s.openVerified id r = (s, .ok fd)) ∨
    (¬ s.Verified id r ∧ ∃ s' code message,
      s.openVerified id r = (s', .error (.blobStoreError code message)) ∧
      (s' = s ∨ s' = { s with metadata := s.metadata.markCorrupt id })) := by
  cases hino : s.disk.published.get? (r.owner, id) with
  | none =>
    refine .inr ⟨?_, s, _, _, by simp only [openVerified, openPublished, hino]; rfl, .inl rfl⟩
    rintro ⟨content, hnode, -⟩
    simp [Disk.nodeAt, hino] at hnode
  | some ino =>
    have hat : s.disk.nodeAt r.owner id = s.disk.nodes.get? ino := by simp [Disk.nodeAt, hino]
    cases hnode : s.disk.nodes.get? ino with
    | none =>
      refine .inr ⟨?_, s, _, _, by simp only [openVerified, openPublished, hino, hnode]; rfl,
        .inl rfl⟩
      rintro ⟨content, h, -⟩
      rw [hat, hnode] at h
      cases h
    | some node =>
      cases node with
      | symlink =>
        refine .inr ⟨?_, s, _, _, by simp only [openVerified, openPublished, hino, hnode]; rfl,
          .inl rfl⟩
        rintro ⟨content, h, -⟩
        rw [hat, hnode] at h
        cases h
      | special =>
        refine .inr ⟨?_, _, _, _,
          by simp only [openVerified, openPublished, hino, hnode, verify]; rfl,
          .inr rfl⟩
        rintro ⟨content, h, -⟩
        rw [hat, hnode] at h
        cases h
      | regular content =>
        rcases s.verify_regular (r := r) content with ⟨⟨code, message, he⟩, hno⟩ | ⟨hok, hyes⟩
        · refine .inr ⟨?_, _, code, message,
            by simp only [openVerified, openPublished, hino, hnode, he], .inr rfl⟩
          rintro ⟨content', h, hagree⟩
          rw [hat, hnode] at h
          cases h
          rw [hno] at hagree
          cases hagree
        · exact .inl ⟨⟨content, hat.trans hnode, hyes⟩, ino,
            by simp only [openVerified, openPublished, hino, hnode, hok]⟩

/-- What `_stat_published` sees is what is published. -/
lemma statPublished_cases (s : Store) (owner : Owner) (id : BlobId) :
    (∃ fd content, s.disk.nodeAt owner id = some (.regular content) ∧
      s.statPublished owner id = .ok (fd, content.length, s.cfg.sha256 content)) ∨
    ∃ code message, s.statPublished owner id = .error (.blobStoreError code message) := by
  cases hino : s.disk.published.get? (owner, id) with
  | none => exact .inr ⟨_, _, by simp only [statPublished, openPublished, hino]; rfl⟩
  | some ino =>
    cases hnode : s.disk.nodes.get? ino with
    | none => exact .inr ⟨_, _, by simp only [statPublished, openPublished, hino, hnode]; rfl⟩
    | some node =>
      cases node with
      | symlink | special =>
        exact .inr ⟨_, _, by simp only [statPublished, openPublished, hino, hnode]; rfl⟩
      | regular content =>
        exact .inl ⟨ino, content, by simp [Disk.nodeAt, hino, hnode],
          by simp only [statPublished, openPublished, hino, hnode]⟩

end Store

/-! ### What becomes of one blob -/

/-- The row of the blob and the files of its name are as they were. -/
structure Untouched (s s' : Store) (id : BlobId) : Prop where
  row : s'.metadata.get id = s.metadata.get id
  file : ∀ owner, s'.disk.published.get? (owner, id) = s.disk.published.get? (owner, id)

/-- What recovery never touches. -/
structure Framed (s s' : Store) : Prop where
  cfg : s'.cfg = s.cfg
  nodes : s'.disk.nodes = s.disk.nodes
  leases : s'.metadata.leases = s.metadata.leases

/-- The outcomes of recovery for a blob. -/
inductive Resolved (s s' : Store) (id : BlobId) : Prop
  | kept (h : Untouched s s' id)
      (hrow : ∀ r, s.metadata.get id = some r → r.state.unfinished = false ∧
        (r.state = .published → s.Verified id r))
  | lost (r r' : BlobRecord) (hr : s.metadata.get id = some r) (hpub : r.state = .published)
      (hbad : ¬ s.Verified id r) (hr' : s'.metadata.get id = some r') (hdel : r'.state = .deleted)
      (hfile : ∀ owner, s'.disk.published.get? (owner, id) = s.disk.published.get? (owner, id))
  | completed (r r' : BlobRecord) (hr : s.metadata.get id = some r)
      (hunf : r.state.unfinished = true) (hr' : s'.metadata.get id = some r')
      (howner : r'.owner = r.owner) (hpub : r'.state = .published) (hver : s.Verified id r')
      (hfile : ∀ owner, s'.disk.published.get? (owner, id) = s.disk.published.get? (owner, id))
  | purged (r : BlobRecord) (hr : s.metadata.get id = some r) (hunf : r.state.unfinished = true)
      (hnone : s'.metadata.get id = none) (hgone : s'.disk.published.get? (r.owner, id) = none)
      (hother : ∀ owner, owner ≠ r.owner →
        s'.disk.published.get? (owner, id) = s.disk.published.get? (owner, id))

lemma Untouched.refl (s : Store) (id : BlobId) : Untouched s s id := ⟨rfl, fun _ => rfl⟩

lemma Untouched.trans {s s' s'' : Store} {id : BlobId} (h : Untouched s s' id)
    (h' : Untouched s' s'' id) : Untouched s s'' id :=
  ⟨h'.row.trans h.row, fun owner => (h'.file owner).trans (h.file owner)⟩

lemma Framed.refl (s : Store) : Framed s s := ⟨rfl, rfl, rfl⟩

lemma Framed.trans {s s' s'' : Store} (h : Framed s s') (h' : Framed s' s'') : Framed s s'' :=
  ⟨h'.cfg.trans h.cfg, h'.nodes.trans h.nodes, h'.leases.trans h.leases⟩

lemma Store.nodeAt_congr {s s' : Store} {owner : Owner} {id : BlobId} (hf : Framed s s')
    (h : s'.disk.published.get? (owner, id) = s.disk.published.get? (owner, id)) :
    s'.disk.nodeAt owner id = s.disk.nodeAt owner id := by
  simp only [Disk.nodeAt, h, hf.nodes]

lemma Store.verified_congr {s s' : Store} {id : BlobId} {r : BlobRecord} (hf : Framed s s')
    (h : ∀ owner, s'.disk.published.get? (owner, id) = s.disk.published.get? (owner, id)) :
    s'.Verified id r ↔ s.Verified id r := by
  simp only [Store.Verified, Store.nodeAt_congr hf (h _), Store.agrees, hf.cfg]

namespace Resolved

variable {s s' s'' : Store} {id : BlobId}

/-- What happens to other blobs afterwards does not matter. -/
lemma then_untouched (h : Resolved s s' id) (h' : Untouched s' s'' id) : Resolved s s'' id := by
  cases h with
  | kept h hrow => exact .kept (h.trans h') hrow
  | lost r r' hr hpub hbad hr' hdel hfile =>
    exact .lost r r' hr hpub hbad (h'.row.trans hr') hdel fun o => (h'.file o).trans (hfile o)
  | completed r r' hr hunf hr' howner hpub hver hfile =>
    exact .completed r r' hr hunf (h'.row.trans hr') howner hpub hver
      fun o => (h'.file o).trans (hfile o)
  | purged r hr hunf hnone hgone hother =>
    exact .purged r hr hunf (h'.row.trans hnone) ((h'.file _).trans hgone)
      fun o ho => (h'.file o).trans (hother o ho)

/-- Nor what happened to them before. -/
lemma after_untouched (hf : Framed s s') (h : Untouched s s' id) (h' : Resolved s' s'' id) :
    Resolved s s'' id := by
  have hver : ∀ r, s'.Verified id r ↔ s.Verified id r := fun r => Store.verified_congr hf h.file
  cases h' with
  | kept h' hrow =>
    refine .kept (h.trans h') fun r hr => ?_
    obtain ⟨hunf, hpub⟩ := hrow r (h.row.trans hr)
    exact ⟨hunf, fun hp => (hver r).mp (hpub hp)⟩
  | lost r r' hr hpub hbad hr' hdel hfile =>
    exact .lost r r' (h.row.symm.trans hr) hpub (fun hv => hbad ((hver r).mpr hv)) hr' hdel
      fun o => (hfile o).trans (h.file o)
  | completed r r' hr hunf hr' howner hpub hv hfile =>
    exact .completed r r' (h.row.symm.trans hr) hunf hr' howner hpub ((hver r').mp hv)
      fun o => (hfile o).trans (h.file o)
  | purged r hr hunf hnone hgone hother =>
    exact .purged r (h.row.symm.trans hr) hunf hnone hgone
      fun o ho => (hother o ho).trans (h.file o)

end Resolved

/-- A part of recovery that settles the listed blobs and leaves the others alone. -/
structure Settles (ids : List BlobId) (s s' : Store) : Prop where
  framed : Framed s s'
  resolved : ∀ id ∈ ids, Resolved s s' id
  untouched : ∀ id, id ∉ ids → Untouched s s' id

namespace Settles

variable {s s' s'' : Store} {id : BlobId} {ids ids' : List BlobId}

lemma nil (hf : Framed s s') (h : ∀ id, Untouched s s' id) : Settles [] s s' :=
  ⟨hf, nofun, fun id _ => h id⟩

/-- The parts settle different blobs. -/
lemma append (h : Settles ids s s') (h' : Settles ids' s' s'') (hdis : ids.Disjoint ids') :
    Settles (ids ++ ids') s s'' := by
  refine ⟨h.framed.trans h'.framed, fun id hid => ?_, fun id hid => ?_⟩
  · rcases List.mem_append.mp hid with hid | hid
    · exact (h.resolved id hid).then_untouched (h'.untouched id fun hid' => hdis hid hid')
    · exact .after_untouched h.framed (h.untouched id fun hid' => hdis hid' hid)
        (h'.resolved id hid)
  · rw [List.mem_append, not_or] at hid
    exact (h.untouched id hid.1).trans (h'.untouched id hid.2)

end Settles

/-! ### The loops -/

namespace Recover

variable {s : Store} {id : BlobId} {r : BlobRecord} (args : RecoverArgs) (report : RecoveryReport)

/-- The first loop at a published row. -/
lemma visit_one (hr : s.metadata.get id = some r) (hpub : r.state = .published)
    (rest : List BlobId) :
    ∃ report' s', Alone s (.recover args report (.get id rest)) s'
      (.recover args report' (visit rest)) ∧ Settles [id] s s' := by
  rcases s.openVerified_cases id r with ⟨hver, fd, hopen⟩ | ⟨hbad, s₁, code, message, hopen, hs₁⟩
  · refine ⟨{ report with verified := report.verified ++ [id] },
      { s with metadata := s.metadata.clearJournal id }, ?_, ⟨rfl, rfl, rfl⟩, ?_, ?_⟩
    · refine .call (c := .get id) rfl ?_
      simp only [Call.run, Co.next, next, hr]
      refine .call (c := .openVerified id r) rfl ?_
      simp only [Call.run, Co.next, next, hopen, Except.map]
      exact .call rfl (.call rfl (.refl _ _))
    · intro id' hid'
      obtain rfl := List.mem_singleton.mp hid'
      refine .kept ⟨rfl, fun _ => rfl⟩ fun r' hr' => ?_
      cases hr.symm.trans hr'
      exact ⟨by rw [hpub]; rfl, fun _ => hver⟩
    · exact fun id' _ => ⟨rfl, fun _ => rfl⟩
  · refine ⟨{ report with unreadable := report.unreadable ++ [id] },
      { s with metadata :=
          (s₁.metadata.releaseMissing id args.moment true).clearJournal id }, ?_, ?_, ?_, ?_⟩
    · refine .call (c := .get id) rfl ?_
      simp only [Call.run, Co.next, next, hr]
      refine .call (c := .openVerified id r) rfl ?_
      simp only [Call.run, Co.next, next, hopen, Except.map]
      refine .call rfl (.call rfl ?_)
      rcases hs₁ with rfl | rfl
      · exact .refl _ _
      · exact .refl _ _
    · refine ⟨rfl, rfl, ?_⟩
      rcases hs₁ with rfl | rfl
      · exact Metadata.leases_update ..
      · exact (Metadata.leases_update ..).trans (Metadata.leases_update ..)
    · intro id' hid'
      obtain rfl := List.mem_singleton.mp hid'
      obtain ⟨r₁, hr₁⟩ : ∃ r₁, s₁.metadata.get id' = some r₁ := by
        rcases hs₁ with rfl | rfl
        · exact ⟨r, hr⟩
        · exact ⟨_, by rw [Metadata.markCorrupt, Metadata.get_update, hr]; rfl⟩
      obtain ⟨r', hr', hdel⟩ := Metadata.releaseMissing_deleted hr₁ args.moment
      exact .lost r r' hr hpub hbad hr' hdel fun _ => rfl
    · intro id' hid'
      have hne : id' ≠ id := by simpa using hid'
      refine ⟨?_, fun _ => rfl⟩
      rcases hs₁ with rfl | rfl
      · exact Metadata.get_update_ne _ _ _ hne
      · exact (Metadata.get_update_ne _ _ _ hne).trans (Metadata.get_update_ne _ _ _ hne)

/-- The second loop gives an unfinished row up. -/
lemma discard_one (hr : s.metadata.get id = some r) (hunf : r.state.unfinished = true)
    (rest : List (BlobId × BlobRecord)) :
    ∃ report' s', Alone s (.recover args report (.removeStaging id r.owner rest)) s'
      (.recover args report' (resolve rest)) ∧ Settles [id] s s' := by
  refine ⟨{ report with purged := report.purged ++ [id] },
    { s with
      metadata := (s.metadata.abort id).clearJournal id
      disk := (s.disk.removeStaging id).removePublished r.owner id },
    .call rfl (.call rfl (.call rfl (.call rfl (.refl _ _)))), ⟨rfl, rfl, ?_⟩, ?_, ?_⟩
  · exact Metadata.leases_abort ..
  · intro id' hid'
    obtain rfl := List.mem_singleton.mp hid'
    refine .purged r hr hunf (Metadata.get_abort_self hr hunf) (Dict.get?_erase_self ..) ?_
    intro owner howner
    exact Dict.get?_erase_ne _ fun h => howner (Prod.mk.inj h).1
  · intro id' hid'
    have hne : id' ≠ id := by simpa using hid'
    refine ⟨Metadata.get_abort_ne _ hne, fun owner => ?_⟩
    exact Dict.get?_erase_ne _ fun h => hne (Prod.mk.inj h).2

/-- The second loop completes the publication of a renamed file. -/
lemma complete_one {content : Body} (hr : s.metadata.get id = some r)
    (hunf : r.state.unfinished = true)
    (hnode : s.disk.nodeAt r.owner id = some (.regular content)) (fd : Ino)
    (rest : List (BlobId × BlobRecord)) :
    ∃ report' s', Alone s (.recover args report
        (.publish fd id (s.cfg.sha256 content) content.length rest)) s'
      (.recover args report' (resolve rest)) ∧ Settles [id] s s' := by
  obtain ⟨r', hr', hok, howner, hpub, hsha, hsize⟩ :=
    Metadata.publish_unfinished hr hunf (s.cfg.sha256 content) content.length args.moment
  refine ⟨{ report with verified := report.verified ++ [id] },
    { s with
      metadata := ((s.metadata.publish id (s.cfg.sha256 content) content.length
        args.moment).1).clearJournal id
      disk := s.disk.removeStaging id }, ?_, ⟨rfl, rfl, ?_⟩, ?_, ?_⟩
  · refine .call (c := .publish id (s.cfg.sha256 content) content.length args.moment) rfl ?_
    simp only [Call.run, Call.onMetadata, Co.next, next, hok, Except.map]
    exact .call rfl (.call rfl (.call rfl (.refl _ _)))
  · exact Metadata.leases_update ..
  · intro id' hid'
    obtain rfl := List.mem_singleton.mp hid'
    refine .completed r r' hr hunf hr' howner hpub ⟨content, ?_, ?_⟩ fun _ => rfl
    · rw [howner]
      exact hnode
    · simp [Store.agrees, hsha, hsize]
  · intro id' hid'
    have hne : id' ≠ id := by simpa using hid'
    exact ⟨Metadata.get_update_ne _ _ _ hne, fun _ => rfl⟩

/-- The second loop at an unfinished row. -/
lemma resolve_one (hr : s.metadata.get id = some r) (hunf : r.state.unfinished = true)
    (rest : List (BlobId × BlobRecord)) :
    ∃ report' s', Alone s (.recover args report (.journalEntry id r.owner rest)) s'
      (.recover args report' (resolve rest)) ∧ Settles [id] s s' := by
  -- the entry of the journal decides whether the file is looked at
  suffices h : ∃ report' s', Alone s (.recover args report
      (judge id r.owner rest (s.metadata.journalEntry id))) s'
      (.recover args report' (resolve rest)) ∧ Settles [id] s s' by
    obtain ⟨report', s', halone, hs⟩ := h
    exact ⟨report', s', .call rfl halone, hs⟩
  have hdiscard : ∃ report' s', Alone s (.recover args report (.removeStaging id r.owner rest)) s'
      (.recover args report' (resolve rest)) ∧ Settles [id] s s' :=
    discard_one args report hr hunf rest
  cases s.metadata.journalEntry id with
  | none => exact hdiscard
  | some entry =>
    simp only [judge]
    split
    · next sha hstep hsha =>
      split_ifs with hempty
      · exact hdiscard
      · rcases s.statPublished_cases r.owner id with ⟨fd, content, hnode, hstat⟩ |
          ⟨code, message, hstat⟩
        · by_cases hmatch : s.cfg.sha256 content ≠ sha ∨ (content.length : ℤ) ≠ entry.sizeBytes
          · obtain ⟨report', s', halone, hs⟩ := hdiscard
            refine ⟨report', s', .call (c := .statPublished r.owner id) rfl ?_, hs⟩
            simp only [Call.run, Co.next, next, hstat, Except.map, if_pos hmatch]
            exact .call rfl halone
          · obtain ⟨report', s', halone, hs⟩ := complete_one args report hr hunf hnode fd rest
            refine ⟨report', s', .call (c := .statPublished r.owner id) rfl ?_, hs⟩
            simp only [Call.run, Co.next, next, hstat, Except.map, if_neg hmatch]
            exact halone
        · obtain ⟨report', s', halone, hs⟩ := hdiscard
          refine ⟨report', s', .call (c := .statPublished r.owner id) rfl ?_, hs⟩
          simp only [Call.run, Co.next, next, hstat, Except.map]
          exact halone
    · exact hdiscard

lemma visit_all {ids : List BlobId} (hnd : ids.Nodup) :
    ∀ (s : Store) (report : RecoveryReport),
      (∀ id ∈ ids, ∃ r, s.metadata.get id = some r ∧ r.state = .published) →
      ∃ report' s', Alone s (.recover args report (visit ids)) s'
        (.recover args report' .unfinishedRows) ∧ Settles ids s s' := by
  induction ids with
  | nil =>
    intro s report _
    exact ⟨report, s, .refl _ _, .nil (.refl s) (.refl s)⟩
  | cons id ids ih =>
    intro s report hrows
    obtain ⟨hid, hnd⟩ := List.nodup_cons.mp hnd
    obtain ⟨r, hr, hpub⟩ := hrows id (List.mem_cons_self ..)
    obtain ⟨report₁, s₁, halone₁, hs₁⟩ := visit_one args report hr hpub ids
    obtain ⟨report', s', halone, hs'⟩ := ih hnd s₁ report₁ fun id' hid' => by
      have hne : id' ∉ [id] := by
        rintro hmem
        rw [List.mem_singleton.mp hmem] at hid'
        exact hid hid'
      rw [(hs₁.untouched id' hne).row]
      exact hrows id' (List.mem_cons_of_mem _ hid')
    exact ⟨report', s', halone₁.trans halone, hs₁.append hs' (List.singleton_disjoint.mpr hid)⟩

lemma resolve_all {rows : List (BlobId × BlobRecord)}
    (hnd : (rows.map (·.1)).Nodup) :
    ∀ (s : Store) (report : RecoveryReport),
      (∀ p ∈ rows, s.metadata.get p.1 = some p.2 ∧ p.2.state.unfinished = true) →
      ∃ report' s', Alone s (.recover args report (resolve rows)) s'
        (.recover args report' .orphans) ∧ Settles (rows.map (·.1)) s s' := by
  induction rows with
  | nil =>
    intro s report _
    exact ⟨report, s, .refl _ _, .nil (.refl s) (.refl s)⟩
  | cons p rows ih =>
    intro s report hrows
    obtain ⟨id, r⟩ := p
    rw [List.map_cons, List.nodup_cons] at hnd
    obtain ⟨hr, hunf⟩ := hrows (id, r) (List.mem_cons_self ..)
    obtain ⟨report₁, s₁, halone₁, hs₁⟩ :=
      resolve_one args report hr hunf rows
    obtain ⟨report', s', halone, hs'⟩ := ih hnd.2 s₁ report₁ fun p hp => by
      have hne : p.1 ∉ [id] := by
        intro hmem
        exact hnd.1 (List.mem_map.mpr ⟨p, hp, List.mem_singleton.mp hmem⟩)
      rw [(hs₁.untouched p.1 hne).row]
      exact hrows p (List.mem_cons_of_mem _ hp)
    exact ⟨report', s', halone₁.trans halone, hs₁.append hs' (List.singleton_disjoint.mpr hnd.1)⟩

/-- The store without the staging files of the listed blobs. -/
def swept (s : Store) (ids : List BlobId) : Store :=
  { s with disk := ids.foldl Disk.removeStaging s.disk }

lemma sweep_all (ids : List BlobId) :
    ∀ s : Store, Alone s (sweepOn args report ids) (swept s ids) (sweepOn args report []) := by
  induction ids with
  | nil => exact fun s => .refl _ _
  | cons id ids ih => exact fun s => .call rfl (ih _)

omit args report in
lemma swept_staging (ids : List BlobId) (s : Store) (id : BlobId) :
    (swept s ids).disk.staging.get? id = if id ∈ ids then none else s.disk.staging.get? id := by
  induction ids generalizing s with
  | nil => rfl
  | cons id' ids ih =>
    refine (ih { s with disk := s.disk.removeStaging id' }).trans ?_
    simp only [Disk.removeStaging, Dict.get?_erase, List.mem_cons]
    by_cases h : id ∈ ids
    · simp [h]
    · by_cases h' : id = id' <;> simp [h, h']

omit args report in
lemma swept_disk (ids : List BlobId) (s : Store) :
    (swept s ids).disk.published = s.disk.published ∧ (swept s ids).disk.nodes = s.disk.nodes := by
  induction ids generalizing s with
  | nil => exact ⟨rfl, rfl⟩
  | cons id ids ih => exact ih { s with disk := s.disk.removeStaging id }

end Recover

/-! ### Recovery as a whole -/

/-- What recovery leaves. -/
structure Recovered (args : RecoverArgs) (s s' : Store) : Prop where
  cfg : s'.cfg = s.cfg
  nodes : s'.disk.nodes = s.disk.nodes
  resolved : ∀ id, Resolved s s' id
  staging : ∀ id, s'.disk.staging.get? id = none
  leases : ∀ k, k ∈ s'.metadata.leases ↔ k ∈ s.metadata.leases ∨
    args.instancesRunning = true ∧ k.2 = restartHolder args.bootId ∧
      ∃ r, s'.metadata.get k.1 = some r ∧ r.state = .published

lemma Metadata.mem_verifyAll {m : Metadata} {id : BlobId} :
    id ∈ m.verifyAll ↔ ∃ r, m.get id = some r ∧ r.state = .published := by
  simp only [verifyAll, List.mem_map, List.mem_filter, decide_eq_true_eq]
  constructor
  · rintro ⟨⟨id', r⟩, ⟨hmem, hpub⟩, rfl⟩
    exact ⟨r, Dict.mem_entries_iff.mp hmem, hpub⟩
  · rintro ⟨r, hr, hpub⟩
    exact ⟨(id, r), ⟨Dict.mem_entries_iff.mpr hr, hpub⟩, rfl⟩

lemma Metadata.nodup_verifyAll (m : Metadata) : m.verifyAll.Nodup :=
  m.blobs.nodup.sublist (List.filter_sublist.map _)

lemma Metadata.mem_unfinishedRows {m : Metadata} {id : BlobId} {r : BlobRecord} :
    (id, r) ∈ m.unfinishedRows ↔ m.get id = some r ∧ r.state.unfinished = true := by
  simp only [unfinishedRows, List.mem_filter, Dict.mem_entries_iff, get]

lemma Metadata.nodup_unfinishedRows (m : Metadata) : (m.unfinishedRows.map (·.1)).Nodup :=
  m.blobs.nodup.sublist (List.filter_sublist.map _)

lemma Metadata.mem_protect {m : Metadata} {holder : Holder} {k : BlobId × Holder} :
    k ∈ (m.protectAllPublished holder).1.leases ↔
      k ∈ m.leases ∨ k.2 = holder ∧ k.1 ∈ m.verifyAll := by
  have hfold : ∀ (ids : List BlobId) (ls : List (BlobId × Holder)),
      k ∈ ids.foldl (fun ls id => ls.insert (id, holder)) ls ↔
        k ∈ ls ∨ k.2 = holder ∧ k.1 ∈ ids := by
    intro ids
    induction ids with
    | nil => simp
    | cons id ids ih =>
      intro ls
      rw [List.foldl_cons, ih, List.mem_insert_iff, List.mem_cons, Prod.ext_iff]
      tauto
  exact hfold _ _

/-- The two loops settle every blob. -/
lemma resolved_of_loops {s s₁ s₂ : Store} (h₁ : Settles s.metadata.verifyAll s s₁)
    (h₂ : Settles (s₁.metadata.unfinishedRows.map (·.1)) s₁ s₂) (id : BlobId) :
    Resolved s s₂ id := by
  have hdis : s.metadata.verifyAll.Disjoint (s₁.metadata.unfinishedRows.map (·.1)) := by
    intro id hid hid'
    obtain ⟨⟨id', r₁⟩, hmem, rfl⟩ := List.mem_map.mp hid'
    obtain ⟨hr₁, hunf₁⟩ := Metadata.mem_unfinishedRows.mp hmem
    obtain ⟨r, hr, hpub⟩ := Metadata.mem_verifyAll.mp hid
    cases h₁.resolved _ hid with
    | kept h hrow =>
      obtain rfl : r = r₁ := Option.some.inj ((hr.symm.trans h.row.symm).trans hr₁)
      rw [hpub] at hunf₁
      cases hunf₁
    | lost r₀ r' _ _ _ hr' hdel _ =>
      obtain rfl : r' = r₁ := Option.some.inj (hr'.symm.trans hr₁)
      rw [hdel] at hunf₁
      cases hunf₁
    | completed r₀ _ hr₀ hunf | purged r₀ hr₀ hunf =>
      obtain rfl : r = r₀ := Option.some.inj (hr.symm.trans hr₀)
      rw [hpub] at hunf
      cases hunf
  have h := h₁.append h₂ hdis
  by_cases hid : id ∈ s.metadata.verifyAll ++ s₁.metadata.unfinishedRows.map (·.1)
  · exact h.resolved id hid
  · rw [List.mem_append, not_or] at hid
    refine .kept ((h₁.untouched id hid.1).trans (h₂.untouched id hid.2)) fun r hr => ⟨?_, ?_⟩
    · rw [Bool.eq_false_iff]
      intro hunf
      have hr₁ := (h₁.untouched id hid.1).row.trans hr
      exact hid.2 (List.mem_map.mpr ⟨(id, r), Metadata.mem_unfinishedRows.mpr ⟨hr₁, hunf⟩, rfl⟩)
    · exact fun hpub => absurd (Metadata.mem_verifyAll.mpr ⟨r, hr, hpub⟩) hid.1

/-- Alone, `recover` comes to its end, whatever it starts from. -/
theorem recovery_settles (args : RecoverArgs) (s : Store) :
    ∃ report s', Alone s (.recovery args) s' (.done (.ok (.report report))) ∧
      Recovered args s s' := by
  obtain ⟨report₁, s₁, halone₁, h₁⟩ := Recover.visit_all args s.metadata.nodup_verifyAll s {}
    fun id hid => Metadata.mem_verifyAll.mp hid
  obtain ⟨report₂, s₂, halone₂, h₂⟩ := Recover.resolve_all args
    s₁.metadata.nodup_unfinishedRows s₁ report₁ fun p hp => Metadata.mem_unfinishedRows.mp hp
  let ids := s₂.disk.staging.keys
  let report₃ : RecoveryReport := { report₂ with purged := report₂.purged ++ ids }
  let s₃ := Recover.swept s₂ ids
  have halone₃ : Alone s (.recovery args) s₃ (Recover.sweepOn args report₃ []) := by
    refine .call rfl (halone₁.trans (.call rfl (halone₂.trans (.call rfl ?_))))
    exact Recover.sweep_all args report₃ ids s₂
  have hcfg : s₃.cfg = s.cfg := (h₁.framed.trans h₂.framed).cfg
  have hnodes : s₃.disk.nodes = s.disk.nodes :=
    (Recover.swept_disk ids s₂).2.trans (h₁.framed.trans h₂.framed).nodes
  have hresolved : ∀ id, Resolved s s₃ id := fun id =>
    (resolved_of_loops h₁ h₂ id).then_untouched
      ⟨rfl, fun owner => by rw [(Recover.swept_disk ids s₂).1]⟩
  have hstaging : ∀ id, s₃.disk.staging.get? id = none := by
    intro id
    rw [Recover.swept_staging]
    split_ifs with hid
    · rfl
    · exact Dict.get?_eq_none_iff.mpr hid
  have hleases : s₃.metadata.leases = s.metadata.leases := (h₁.framed.trans h₂.framed).leases
  cases hrunning : args.instancesRunning with
  | false =>
    refine ⟨report₃, s₃, ?_, hcfg, hnodes, hresolved, hstaging, fun k => ?_⟩
    · simpa [Recover.sweepOn, hrunning] using halone₃
    · simp [hleases, hrunning]
  | true =>
    have hsame : ∀ holder id, Untouched s₃
        { s₃ with metadata := (s₃.metadata.protectAllPublished holder).1 } id :=
      fun _ _ => ⟨rfl, fun _ => rfl⟩
    refine ⟨{ report₃ with protected_ := s₃.metadata.verifyAll },
      { s₃ with metadata := (s₃.metadata.protectAllPublished (restartHolder args.bootId)).1 },
      halone₃.trans ?_, hcfg, hnodes, fun id => (hresolved id).then_untouched (hsame _ id),
      hstaging, fun k => ?_⟩
    · rw [Recover.sweepOn, if_pos hrunning]
      exact .call rfl (.refl _ _)
    · simp only [Metadata.mem_protect, hleases, hrunning, true_and, Metadata.mem_verifyAll]
      rfl

namespace Recovered

variable {args : RecoverArgs} {s s' : Store} (h : Recovered args s s')

include h

lemma nodeAt {owner : Owner} {id : BlobId}
    (hfile : s'.disk.published.get? (owner, id) = s.disk.published.get? (owner, id)) :
    s'.disk.nodeAt owner id = s.disk.nodeAt owner id := by
  simp only [Disk.nodeAt, hfile, h.nodes]

lemma agrees (r : BlobRecord) (content : Body) : s'.agrees r content = s.agrees r content := by
  simp only [Store.agrees, h.cfg]

end Recovered

/-! ### Files without a row -/

/-- Every regular file in the owner directories belongs to a published row of its size and hash. -/
def Store.NoOrphan (s : Store) : Prop :=
  ∀ owner id content, s.disk.nodeAt owner id = some (.regular content) →
    ∃ r, s.metadata.get id = some r ∧ r.owner = owner ∧ r.state = .published ∧
      s.agrees r content = true

/-- What the crash has to leave for that: a row of the same owner that is published with this file,
or that recovery takes up because it never was. -/
def Store.Attributed (s : Store) : Prop :=
  ∀ owner id content, s.disk.nodeAt owner id = some (.regular content) →
    ∃ r, s.metadata.get id = some r ∧ r.owner = owner ∧
      (r.state.unfinished = true ∨ r.state = .published ∧ s.agrees r content = true)

lemma Recovered.noOrphan_iff {args : RecoverArgs} {s s' : Store} (h : Recovered args s s') :
    s'.NoOrphan ↔ s.Attributed := by
  constructor
  · intro hno owner id content hnode
    cases h.resolved id with
    | kept hu hrow =>
      obtain ⟨r, hr, howner, hpub, hagree⟩ :=
        hno owner id content ((h.nodeAt (hu.file _)).trans hnode)
      exact ⟨r, hu.row.symm.trans hr, howner, .inr ⟨hpub, (h.agrees ..).symm.trans hagree⟩⟩
    | lost r r' hr _ _ hr' hdel hfile =>
      obtain ⟨r₀, hr₀, -, hpub, -⟩ := hno owner id content ((h.nodeAt (hfile _)).trans hnode)
      cases hr'.symm.trans hr₀
      rw [hdel] at hpub
      cases hpub
    | completed r r' hr hunf hr' howner' _ _ hfile =>
      obtain ⟨r₀, hr₀, howner, -, -⟩ := hno owner id content ((h.nodeAt (hfile _)).trans hnode)
      cases hr'.symm.trans hr₀
      exact ⟨r, hr, howner'.symm.trans howner, .inl hunf⟩
    | purged r hr hunf hnone _ hother =>
      by_cases howner : r.owner = owner
      · exact ⟨r, hr, howner, .inl hunf⟩
      · obtain ⟨r₀, hr₀, -⟩ :=
          hno owner id content ((h.nodeAt (hother owner (Ne.symm howner))).trans hnode)
        rw [hnone] at hr₀
        cases hr₀
  · intro hatt owner id content hnode
    cases h.resolved id with
    | kept hu hrow =>
      obtain ⟨r, hr, howner, hcase⟩ :=
        hatt owner id content ((h.nodeAt (hu.file _)).symm.trans hnode)
      rcases hcase with hunf | ⟨hpub, hagree⟩
      · rw [(hrow r hr).1] at hunf
        cases hunf
      · exact ⟨r, hu.row.trans hr, howner, hpub, (h.agrees ..).trans hagree⟩
    | lost r r' hr hpub hbad _ _ hfile =>
      have hnode' := (h.nodeAt (hfile owner)).symm.trans hnode
      obtain ⟨r₀, hr₀, rfl, hcase⟩ := hatt owner id content hnode'
      cases hr.symm.trans hr₀
      rcases hcase with hunf | ⟨-, hagree⟩
      · rw [hpub] at hunf
        cases hunf
      · exact absurd ⟨content, hnode', hagree⟩ hbad
    | completed r r' hr hunf hr' howner hpub hver hfile =>
      have hnode' := (h.nodeAt (hfile owner)).symm.trans hnode
      obtain ⟨r₀, hr₀, rfl, -⟩ := hatt owner id content hnode'
      cases hr.symm.trans hr₀
      obtain ⟨content', hnode'', hagree⟩ := hver
      rw [howner] at hnode''
      cases hnode'.symm.trans hnode''
      exact ⟨r', hr', howner, hpub, (h.agrees ..).trans hagree⟩
    | purged r hr hunf hnone hgone hother =>
      by_cases howner : owner = r.owner
      · subst howner
        simp [Disk.nodeAt, hgone] at hnode
      · obtain ⟨r₀, hr₀, howner', -⟩ :=
          hatt owner id content ((h.nodeAt (hother owner howner)).symm.trans hnode)
        cases hr.symm.trans hr₀
        exact absurd howner'.symm howner

/-- After recovery no regular file is without its published row exactly if each file that the crash
left had a row of its owner that was published with that file or was unfinished. -/
theorem recovery_noOrphan_iff (args : RecoverArgs) (s : Store) :
    ∃ report s', Alone s (.recovery args) s' (.done (.ok (.report report))) ∧
      (s'.NoOrphan ↔ s.Attributed) := by
  obtain ⟨report, s', halone, h⟩ := recovery_settles args s
  exact ⟨report, s', halone, h.noOrphan_iff⟩

/-- The arguments of the recovery that the service starts with. -/
def sampleRecover : RecoverArgs := { instancesRunning := false, moment := 0 }

/-- A crash between the tombstone of a deletion and its `unlink`: recovery passes the file by. -/
theorem recovery_orphan_of_delete :
    ∃ w, Run System.step (fun _ _ => true = true) { store := oneBlob } w ∧
      ∃ report s', Alone w.store (.recovery sampleRecover) s' (.done (.ok (.report report))) ∧
        ¬ s'.NoOrphan := by
  obtain ⟨w, hrun, hnode, hrow⟩ := System.exists_run (fun _ _ => true) { store := oneBlob }
    [.call (.delete "b" "o" none), .resume 0 .go, .crash]
    (fun w => w.store.disk.nodeAt "o" "b" = some (.regular [7]) ∧
      (w.store.metadata.get "b").all (fun r => r.state = .deleted) = true) (by decide +kernel)
  obtain ⟨report, s', halone, h⟩ := recovery_settles sampleRecover w.store
  refine ⟨w, hrun, report, s', halone, fun hno => ?_⟩
  obtain ⟨r, hr, -, hcase⟩ := h.noOrphan_iff.mp hno "o" "b" [7] hnode
  have hdel : r.state = .deleted := by simpa [hr] using hrow
  rcases hcase with hunf | ⟨hpub, -⟩
  · rw [hdel] at hunf
    cases hunf
  · rw [hdel] at hpub
    cases hpub

/-! ### Leases of the boot that crashed -/

/-- Whoever held the blob when the service crashed holds it still, but for the restart leases that
are released. -/
lemma Recovered.leases_released {args : RecoverArgs} {s s' : Store} (h : Recovered args s s') :
    ∃ s'', (if args.instancesRunning then
        Alone s' (.releaseProtection args.bootId) s'' (.done (.ok .unit)) else s'' = s') ∧
      s''.metadata.blobs = s'.metadata.blobs ∧
      ∀ k, k ∈ s''.metadata.leases ↔ k ∈ s.metadata.leases ∧
        ¬ (args.instancesRunning = true ∧ k.2 = restartHolder args.bootId) := by
  cases hrunning : args.instancesRunning with
  | false =>
    refine ⟨s', by simp, rfl, fun k => ?_⟩
    simp [h.leases, hrunning]
  | true =>
    refine ⟨{ s' with metadata := (s'.metadata.releaseProtection (restartHolder args.bootId)).1 },
      ?_, rfl, fun k => ?_⟩
    · rw [if_pos rfl]
      exact .call rfl (.refl _ _)
    · simp only [Metadata.releaseProtection, List.mem_filter, h.leases, hrunning, true_and,
        ne_eq, decide_eq_true_eq]
      tauto

/-- After recovery, and the release of its own restart leases, a published blob can be deleted and
expires exactly if no other lease on it was open at the crash. -/
theorem recovery_frees_iff (args : RecoverArgs) (s : Store) :
    ∃ report s' s'', Alone s (.recovery args) s' (.done (.ok (.report report))) ∧
      (if args.instancesRunning then
        Alone s' (.releaseProtection args.bootId) s'' (.done (.ok .unit)) else s'' = s') ∧
      ∀ id r, s''.metadata.get id = some r → r.state = .published →
        (((∀ now, (s''.metadata.delete id r.owner now).2 = .deleted) ∧
          ∀ now, r.expiresAt.any (· ≤ now) = true → (id, r) ∈ (s''.metadata.expire now).2) ↔
        ∀ holder, (id, holder) ∈ s.metadata.leases →
          args.instancesRunning = true ∧ holder = restartHolder args.bootId) := by
  obtain ⟨report, s', halone, h⟩ := recovery_settles args s
  obtain ⟨s'', hs'', -, hleases⟩ := h.leases_released
  refine ⟨report, s', s'', halone, hs'', fun id r hr hpub => ⟨fun hfree holder hmem => ?_, ?_⟩⟩
  · by_contra hother
    have hk : (id, holder) ∈ s''.metadata.leases := (hleases _).mpr ⟨hmem, hother⟩
    have hheld := Metadata.delete_held hr rfl (by simp [hpub])
      (List.ne_nil_of_mem (Metadata.mem_leasesOf.mpr hk)) 0
    have hdel := hfree.1 0
    rw [hheld] at hdel
    cases hdel
  · intro hnone
    have hfree : s''.metadata.leasesOf id = [] := by
      rw [Metadata.leasesOf_eq_nil]
      intro holder hmem
      obtain ⟨hmem, hother⟩ := (hleases _).mp hmem
      exact hother (hnone holder hmem)
    refine ⟨Metadata.delete_free hr hfree, fun now hexp => ?_⟩
    exact Metadata.mem_expire.mpr ⟨hr, Metadata.expirable_iff.mpr ⟨hpub, hexp, hfree⟩⟩

/-- A crash in the middle of a read: the blob is still published after recovery, nobody reads it,
and its owner is told that it is held. -/
theorem recovery_keeps_lease_of_crash :
    ∃ w, Run System.step (fun _ _ => true = true) { store := oneBlob } w ∧ w.tasks.size = 0 ∧
      ∃ report s', Alone w.store (.recovery sampleRecover) s' (.done (.ok (.report report))) ∧
        (∃ r, s'.metadata.get "b" = some r ∧ r.state = .published) ∧
        ∀ now, (s'.metadata.delete "b" "o" now).2 = .held := by
  let acts : List Act := [.call (.lease { blobId := "b", owner := "o", holder := "reader" }),
    .resume 0 .go, .resume 0 .go, .resume 0 .go, .crash]
  obtain ⟨w, hrun, hsize, hlease, hrow, hagree, hnode⟩ :=
    System.exists_run (fun _ _ => true) { store := oneBlob } acts
      (fun w => w.tasks.size = 0 ∧ ("b", "reader") ∈ w.store.metadata.leases ∧
        w.store.metadata.get "b" = oneBlob.metadata.get "b" ∧
        (w.store.metadata.get "b").all (fun r => w.store.agrees r [7]) = true ∧
        w.store.disk.nodeAt "o" "b" = some (.regular [7])) (by decide +kernel)
  obtain ⟨report, s', halone, h⟩ := recovery_settles sampleRecover w.store
  obtain ⟨r, hr, howner, hpub⟩ : ∃ r, oneBlob.metadata.get "b" = some r ∧ r.owner = "o" ∧
      r.state = .published := ⟨_, rfl, rfl, rfl⟩
  have hr' : s'.metadata.get "b" = some r := by
    cases h.resolved "b" with
    | kept hu _ => exact hu.row.trans (hrow.trans hr)
    | lost r₀ _ hr₀ _ hbad =>
      cases (hrow.trans hr).symm.trans hr₀
      rw [hrow, hr] at hagree
      exact absurd ⟨[7], by rw [howner]; exact hnode, by simpa using hagree⟩ hbad
    | completed r₀ _ hr₀ hunf | purged r₀ hr₀ hunf =>
      cases (hrow.trans hr).symm.trans hr₀
      rw [hpub] at hunf
      cases hunf
  have hheld : s'.metadata.leasesOf "b" ≠ [] :=
    List.ne_nil_of_mem (Metadata.mem_leasesOf.mpr ((h.leases _).mpr (.inl hlease)))
  refine ⟨w, hrun, hsize, report, s', halone, ⟨r, hr', hpub⟩, fun now => ?_⟩
  rw [Metadata.delete_held hr' howner (by simp [hpub]) hheld]

end ModelSwitch.Blobs

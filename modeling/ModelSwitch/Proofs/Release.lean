import ModelSwitch.Program.Release

/-!
# The current release is switched on a stopped site

The forward sequence switches only after all it asked for was reported. The rollback asks for the
same but reads none of the answers, so it does so only on a site that raises when it cannot close
admission or prove the instances stopped.
-/

namespace ModelSwitch.Release

/-! ### What a log shows -/

/-- The operation has reported the value under the key. -/
def Reported (log : Log) (op : Op) (key : String) (value : Value) : Prop :=
  ∃ facts : Facts, (op, .facts facts) ∈ log ∧ facts.get key = value

/-- Admission is closed and the instances are stopped, as reported. -/
def Vacated (log : Log) : Prop :=
  Reported log .closeAdmission "closed" (.bool true) ∧
    Reported log .proveInstancesStopped "stopped" (.bool true)

/-- The queue, the leases and the sessions are zero, as the drain reported. -/
def Drained (log : Log) : Prop :=
  ∃ facts : Facts, (.drain, .facts facts) ∈ log ∧ (facts.get "queue_depth").isZero ∧
    (facts.get "leases").isZero ∧ (facts.get "sessions").isZero

/-- The switch, the start and the smoke check went as wanted. -/
def Succeeded (log : Log) (release : String) : Prop :=
  Reported log (.switchCurrent release) "current" (.str release) ∧
    Reported log .start "running" (.bool true) ∧ Reported log .smoke "ok" (.bool true)

/-- What may be asked after the log, with a condition of its own for the switch. -/
def Allowed (mayswitch : Log → String → Prop) (log : Log) : Op → Prop
  | .switchCurrent release => mayswitch log release
  | .start => ∃ release outcome, (.switchCurrent release, outcome) ∈ log
  | _ => True

/-- All that was asked was allowed when it was asked. -/
def Safe (mayswitch : Log → String → Prop) (log : Log) : Prop :=
  ∀ before e, before ++ [e] <+: log → Allowed mayswitch before e.1

/-- The forward sequence. -/
def Forward (log : Log) (release : String) : Prop :=
  Vacated log ∧ Drained log ∧ Reported log (.preflightRelease release) "accepted" (.bool true)

/-- The rollback. -/
def Back (log : Log) (_ : String) : Prop := Vacated log

variable {mayswitch : Log → String → Prop}

lemma safe_nil : Safe mayswitch [] := by
  intro before e h
  simp at h

lemma Safe.concat {log : Log} (h : Safe mayswitch log) {op : Op} (ho : Allowed mayswitch log op)
    (outcome : Outcome) : Safe mayswitch (log ++ [(op, outcome)]) := by
  intro before e hprefix
  rcases List.prefix_concat_iff.mp hprefix with heq | hlog
  · obtain ⟨rfl, he⟩ := List.append_inj' heq rfl
    rw [(List.cons.inj he).1]
    exact ho
  · exact h before e hlog

lemma Reported.mono {log log' : Log} {op : Op} {key : String} {value : Value}
    (h : Reported log op key value) (hsub : log ⊆ log') : Reported log' op key value := by
  obtain ⟨facts, hmem, hget⟩ := h
  exact ⟨facts, hsub hmem, hget⟩

/-! ### Steps -/

/-- What holds of the log after an exception has escaped, or of the result. -/
def Ends {α : Type} (onLog : Log → Prop) (onOk : α → Prop) : Except Log α → Prop
  | .ok a => onOk a
  | .error log => onLog log

lemma Ends.bind {α β : Type} {onLog : Log → Prop} {onOk : α → Prop} {onOk' : β → Prop}
    {x : Except Log α} {f : α → Except Log β} (hx : Ends onLog onOk x)
    (hf : ∀ a, onOk a → Ends onLog onOk' (f a)) : Ends onLog onOk' (x >>= f) := by
  cases x with
  | ok a => exact hf a hx
  | error log => exact hx

variable {site : Site}

/-- A step that leaves no failure was answered. -/
lemma opsStep_ends (label : String) (op : Op) {p : Progress} (hsafe : Safe mayswitch p.log)
    (hop : Allowed mayswitch p.log op) :
    Ends (Safe mayswitch) (fun r : Facts × Progress => Safe mayswitch r.2.log ∧
      (∃ outcome, r.2.log = p.log ++ [(op, outcome)] ∧ site.answer p.log op = outcome ∧
        (r.2.failures = [] → p.failures = [] ∧ outcome = .facts r.1)))
      (opsStep site label op p) := by
  rw [opsStep]
  cases h : site.answer p.log op with
  | facts facts => exact ⟨hsafe.concat hop _, _, rfl, rfl, fun hnil => ⟨hnil, rfl⟩⟩
  | raised kind message =>
    exact ⟨hsafe.concat hop _, _, rfl, rfl, fun hnil => absurd hnil (by simp)⟩
  | escaped => exact hsafe.concat hop _

@[simp] lemma Progress.require_log (p : Progress) (met : Bool) (message : String) :
    (p.require met message).log = p.log := by
  rw [require]
  split_ifs
  · rfl
  · rfl

lemma Progress.require_failures {p : Progress} {met : Bool} {message : String} :
    (p.require met message).failures = [] ↔ met = true ∧ p.failures = [] := by
  rw [require]
  split_ifs with h
  · simp [h]
  · simp [h]

@[simp] lemma Progress.requireDrained_log (site : Site) (p : Progress) (drained : Facts) :
    (p.requireDrained site drained).log = p.log := by
  simp [requireDrained]

lemma Progress.requireDrained_failures {site : Site} {p : Progress} {drained : Facts} :
    (p.requireDrained site drained).failures = [] ↔
      ((drained.get "sessions").isZero ∧ (drained.get "leases").isZero ∧
        (drained.get "queue_depth").isZero) ∧ p.failures = [] := by
  simp only [requireDrained, List.foldl_cons, List.foldl_nil, require_failures, and_assoc]

/-! ### The two sequences before the switch -/

lemma vacate_ends (release : String) :
    Ends (Safe Forward) (fun p => Safe Forward p.log ∧ (p.failures = [] → Forward p.log release))
      (vacate site release) := by
  rw [vacate]
  refine (opsStep_ends _ .closeAdmission safe_nil trivial).bind ?_
  rintro ⟨admission, p₁⟩ ⟨hsafe₁, outcome₁, hlog₁, -, hok₁⟩
  refine (opsStep_ends _ .drain (by simpa using hsafe₁) trivial).bind ?_
  rintro ⟨drained, p₂⟩ ⟨hsafe₂, outcome₂, hlog₂, -, hok₂⟩
  refine (opsStep_ends _ .proveInstancesStopped (by simpa using hsafe₂) trivial).bind ?_
  rintro ⟨stopped, p₃⟩ ⟨hsafe₃, outcome₃, hlog₃, -, hok₃⟩
  refine (opsStep_ends _ (.preflightRelease release) (by simpa using hsafe₃) trivial).bind ?_
  rintro ⟨preflight, p₄⟩ ⟨hsafe₄, outcome₄, hlog₄, -, hok₄⟩
  refine ⟨by simpa using hsafe₄, fun hnil => ?_⟩
  obtain ⟨haccepted, hnil⟩ := Progress.require_failures.mp hnil
  obtain ⟨hnil, rfl⟩ := hok₄ hnil
  obtain ⟨hstopped, hnil⟩ := Progress.require_failures.mp hnil
  obtain ⟨hnil, rfl⟩ := hok₃ hnil
  obtain ⟨⟨hsessions, hleases, hqueue⟩, hnil⟩ := Progress.requireDrained_failures.mp hnil
  obtain ⟨hnil, rfl⟩ := hok₂ hnil
  obtain ⟨hclosed, hnil⟩ := Progress.require_failures.mp hnil
  obtain ⟨-, rfl⟩ := hok₁ hnil
  simp only [Progress.require_log, Progress.requireDrained_log] at hlog₁ hlog₂ hlog₃ hlog₄ ⊢
  rw [hlog₄, hlog₃, hlog₂, hlog₁]
  simp only [decide_eq_true_eq] at haccepted hstopped hclosed
  exact ⟨⟨⟨admission, by simp, hclosed⟩, stopped, by simp, hstopped⟩,
    ⟨drained, by simp, hqueue, hleases, hsessions⟩, preflight, by simp, haccepted⟩

lemma cutOver_ends {release : String} (texts : Texts) {p : Progress}
    (hsafe : Safe mayswitch p.log) (hmay : mayswitch p.log release) :
    Ends (Safe mayswitch)
      (fun q => Safe mayswitch q.log ∧ (q.failures = [] → Succeeded q.log release))
      (cutOver site release texts p) := by
  rw [cutOver]
  refine (opsStep_ends _ (.switchCurrent release) hsafe hmay).bind ?_
  rintro ⟨switched, p₁⟩ ⟨hsafe₁, outcome₁, hlog₁, -, hok₁⟩
  have hstart : Allowed mayswitch p₁.log .start := by
    refine ⟨release, outcome₁, ?_⟩
    rw [hlog₁]
    simp
  refine (opsStep_ends _ .start hsafe₁ hstart).bind ?_
  rintro ⟨started, p₂⟩ ⟨hsafe₂, outcome₂, hlog₂, -, hok₂⟩
  refine (opsStep_ends _ .smoke hsafe₂ trivial).bind ?_
  rintro ⟨smoke, p₃⟩ ⟨hsafe₃, outcome₃, hlog₃, -, hok₃⟩
  refine ⟨by simpa using hsafe₃, fun hnil => ?_⟩
  obtain ⟨hsmoke, hnil⟩ := Progress.require_failures.mp hnil
  obtain ⟨hrunning, hnil⟩ := Progress.require_failures.mp hnil
  obtain ⟨hcurrent, hnil⟩ := Progress.require_failures.mp hnil
  obtain ⟨hnil, rfl⟩ := hok₃ hnil
  obtain ⟨hnil, rfl⟩ := hok₂ hnil
  obtain ⟨-, rfl⟩ := hok₁ hnil
  simp only [decide_eq_true_eq] at hsmoke hrunning hcurrent
  simp only [Progress.require_log]
  rw [hlog₃, hlog₂, hlog₁]
  exact ⟨⟨switched, by simp, hcurrent⟩, ⟨started, by simp, hrunning⟩, smoke, by simp, hsmoke⟩

lemma reopen_ends {p : Progress} (hsafe : Safe mayswitch p.log) :
    Ends (Safe mayswitch) (fun q => Safe mayswitch q.log ∧ p.log ⊆ q.log) (reopen site p) := by
  rw [reopen]
  refine (opsStep_ends _ .reopenAdmission hsafe trivial).bind ?_
  rintro ⟨facts, q⟩ ⟨hq, outcome, hlog, -⟩
  refine ⟨hq, ?_⟩
  simp only
  rw [hlog]
  exact List.subset_append_left ..

/-- The metadata is compatible, or has been restored. -/
def Restores (site : Site) (log : Log) (metadataBackup : Option String)
    (downgradeCompatible : Bool) : Prop :=
  downgradeCompatible = true ∨ ∃ backup facts, metadataBackup = some backup ∧
    site.answer log (.restoreBlobMetadata backup) = .facts facts ∧
      facts.get "restored" = .bool true

/-- If nothing that the rollback asks for before the switch is refused, then admission is closed and
the instances are stopped. -/
def Site.Stops (site : Site) (metadataBackup : Option String) (downgradeCompatible : Bool) : Prop :=
  ∀ admission stopped : Facts, site.answer [] .closeAdmission = .facts admission →
    site.answer [(.closeAdmission, .facts admission)] .proveInstancesStopped = .facts stopped →
      Restores site
        [(.closeAdmission, .facts admission), (.proveInstancesStopped, .facts stopped)]
        metadataBackup downgradeCompatible →
          admission.get "closed" = .bool true ∧ stopped.get "stopped" = .bool true

lemma retreat_ends (hstops : site.Stops metadataBackup downgradeCompatible) :
    Ends (Safe Back)
      (fun p => Safe Back p.log ∧ (p.failures = [] → Vacated p.log))
      (retreat site metadataBackup downgradeCompatible) := by
  rw [retreat]
  refine (opsStep_ends _ .closeAdmission safe_nil trivial).bind ?_
  rintro ⟨admission, p₁⟩ ⟨hsafe₁, outcome₁, hlog₁, hanswer₁, hok₁⟩
  refine (opsStep_ends _ .proveInstancesStopped hsafe₁ trivial).bind ?_
  rintro ⟨stopped, p₂⟩ ⟨hsafe₂, outcome₂, hlog₂, hanswer₂, hok₂⟩
  simp only at hlog₁ hlog₂ hanswer₁ hanswer₂ hsafe₂
  have hvacated : ∀ log, p₂.log ⊆ log → p₂.failures = [] →
      Restores site p₂.log metadataBackup downgradeCompatible → Vacated log := by
    intro log hsub hnil hrestores
    obtain ⟨hnil, rfl⟩ := hok₂ hnil
    obtain ⟨-, rfl⟩ := hok₁ hnil
    rw [hlog₁] at hanswer₂
    rw [hlog₂, hlog₁] at hrestores hsub
    obtain ⟨hclosed, hstopped⟩ := hstops admission stopped hanswer₁ hanswer₂ hrestores
    exact ⟨⟨admission, hsub (by simp), hclosed⟩, stopped, hsub (by simp), hstopped⟩
  by_cases hcompatible : downgradeCompatible = true
  · simp only [if_pos hcompatible]
    exact ⟨hsafe₂, fun hnil => hvacated _ (List.Subset.refl _) hnil (.inl hcompatible)⟩
  · simp only [if_neg hcompatible]
    cases metadataBackup with
    | none => exact ⟨by simpa using hsafe₂, fun hnil => absurd hnil (by simp [Progress.require])⟩
    | some backup =>
      refine (opsStep_ends _ (.restoreBlobMetadata backup) hsafe₂ trivial).bind ?_
      rintro ⟨restored, p₃⟩ ⟨hsafe₃, outcome₃, hlog₃, hanswer₃, hok₃⟩
      refine ⟨by simpa using hsafe₃, fun hnil => ?_⟩
      obtain ⟨hrestored, hnil⟩ := Progress.require_failures.mp hnil
      obtain ⟨hnil, rfl⟩ := hok₃ hnil
      refine hvacated _ ?_ hnil (.inr ⟨backup, restored, rfl, hanswer₃, ?_⟩)
      · rw [Progress.require_log, hlog₃]
        exact List.subset_append_left ..
      · simpa using hrestored

/-- The rollback gets to the switch when nothing before it is refused. -/
lemma retreat_eq {admission stopped : Facts}
    (hadmission : site.answer [] .closeAdmission = .facts admission)
    (hstopped : site.answer [(.closeAdmission, .facts admission)] .proveInstancesStopped =
      .facts stopped)
    (hrestores : Restores site
      [(.closeAdmission, .facts admission), (.proveInstancesStopped, .facts stopped)]
      metadataBackup downgradeCompatible) :
    ∃ p rest, retreat site metadataBackup downgradeCompatible = .ok p ∧ p.failures = [] ∧
      p.log = [(.closeAdmission, .facts admission), (.proveInstancesStopped, .facts stopped)] ++
        rest ∧ ∀ e ∈ rest, e.1 ≠ .closeAdmission ∧ e.1 ≠ .proveInstancesStopped := by
  simp only [retreat, opsStep, hadmission, bind, Except.bind, List.nil_append, hstopped,
    List.singleton_append]
  rcases hrestores with hcompatible | ⟨backup, restored, rfl, hrestored, htrue⟩
  · exact ⟨_, [], if_pos hcompatible, rfl, by simp, nofun⟩
  · by_cases hcompatible : downgradeCompatible = true
    · exact ⟨_, [], if_pos hcompatible, rfl, by simp, nofun⟩
    · rw [if_neg hcompatible]
      simp only [List.cons_append, List.nil_append, hrestored, htrue, decide_true]
      exact ⟨_, [(.restoreBlobMetadata backup, .facts restored)], rfl, rfl, rfl, by simp⟩

/-- Whatever comes of the switch, it has been asked for. -/
lemma cutOver_prefix (site : Site) (release : String) (texts : Texts) (p : Progress) :
    ∃ outcome, Ends (p.log ++ [(.switchCurrent release, outcome)] <+: ·)
      (fun q => p.log ++ [(.switchCurrent release, outcome)] <+: q.log)
      (cutOver site release texts p) := by
  refine ⟨site.answer p.log (.switchCurrent release), ?_⟩
  have hstep : ∀ label op (q : Progress) (pre : Log), pre <+: q.log →
      Ends (pre <+: ·) (fun r : Facts × Progress => pre <+: r.2.log) (opsStep site label op q) := by
    intro label op q pre hpre
    rw [opsStep]
    cases site.answer q.log op with
    | facts facts | raised kind message | escaped => exact hpre.trans (List.prefix_append ..)
  have hswitch :
      Ends (p.log ++ [(.switchCurrent release, site.answer p.log (.switchCurrent release))]
      <+: ·) (fun r : Facts × Progress =>
        p.log ++ [(.switchCurrent release, site.answer p.log (.switchCurrent release))] <+: r.2.log)
      (opsStep site "switch_current" (.switchCurrent release) p) := by
    rw [opsStep]
    cases site.answer p.log (.switchCurrent release) with
    | facts facts | raised kind message | escaped => exact List.prefix_refl _
  rw [cutOver]
  refine hswitch.bind ?_
  rintro ⟨switched, p₁⟩ h₁
  refine (hstep _ .start _ _ h₁).bind ?_
  rintro ⟨started, p₂⟩ h₂
  refine (hstep _ .smoke _ _ h₂).bind ?_
  rintro ⟨smoke, p₃⟩ h₃
  simpa [Ends, pure, Except.pure] using h₃

/-! ### Whole sequences -/

/-- Nothing was asked before it was allowed, and the result is good only if all has succeeded. -/
structure Proper (mayswitch : Log → String → Prop) (log : Log) (ok : Bool)
    (release : Option String) : Prop where
  safe : Safe mayswitch log
  succeeded : ok = true → ∃ r, release = some r ∧ Succeeded log r

lemma ended_of_ends {ρ : Type} (onLog : Log → Prop) (onOk : Log × ρ → Prop)
    {P : Ended ρ → Prop} {x : Except Log (Log × ρ)} (hx : Ends onLog onOk x)
    (herror : ∀ log, onLog log → P (log, none))
    (hok : ∀ r : Log × ρ, onOk r → P (r.1, some r.2)) : P (ended x) := by
  cases x with
  | ok r => exact hok r hx
  | error log => exact herror log hx

lemma Succeeded.mono {log log' : Log} {release : String} (h : Succeeded log release)
    (hsub : log ⊆ log') : Succeeded log' release :=
  ⟨h.1.mono hsub, h.2.1.mono hsub, h.2.2.mono hsub⟩

lemma switchRelease_proper (site : Site) (release : String) (metadataBackup : Option String) :
    Proper Forward (switchRelease site release metadataBackup).1
      ((switchRelease site release metadataBackup).2.any (·.ok)) (some release) := by
  rw [switchRelease]
  cases site.currentRelease with
  | none => exact ⟨safe_nil, nofun⟩
  | some previous =>
    refine ended_of_ends
      (P := fun e : Ended SwitchResult => Proper Forward e.1 (e.2.any (·.ok)) (some release))
      (Safe Forward) (fun r => Safe Forward r.1 ∧ (r.2.ok = true → Succeeded r.1 release)) ?_
      (fun log hlog => ⟨hlog, nofun⟩) (fun r hr => ⟨hr.1, fun hok => ⟨release, rfl, hr.2 hok⟩⟩)
    refine (vacate_ends release).bind ?_
    rintro p ⟨hsafe, hvacated⟩
    by_cases hnil : p.failures = []
    · rw [if_neg (not_not.mpr hnil)]
      refine (cutOver_ends _ hsafe (hvacated hnil)).bind ?_
      rintro q ⟨hsafe', hsucceeded⟩
      by_cases hnil' : q.failures = []
      · rw [if_neg (not_not.mpr hnil')]
        refine (reopen_ends hsafe').bind ?_
        rintro r ⟨hsafe'', hsub⟩
        exact ⟨hsafe'', fun _ => (hsucceeded hnil').mono hsub⟩
      · rw [if_pos hnil']
        exact ⟨hsafe', nofun⟩
    · rw [if_pos hnil]
      refine (reopen_ends hsafe).bind ?_
      rintro r ⟨hsafe', -⟩
      exact ⟨hsafe', nofun⟩

lemma rollbackRelease_proper {site : Site} {acceptedRelease metadataBackup : Option String}
    {downgradeCompatible : Bool}
    (hstops : acceptedRelease ≠ none → site.Stops metadataBackup downgradeCompatible) :
    Proper Back (rollbackRelease site acceptedRelease metadataBackup downgradeCompatible).1
      ((rollbackRelease site acceptedRelease metadataBackup downgradeCompatible).2.any (·.ok))
      acceptedRelease := by
  cases acceptedRelease with
  | none =>
    rw [rollbackRelease]
    refine ended_of_ends
      (P := fun e : Ended RollbackResult => Proper Back e.1 (e.2.any (·.ok)) none)
      (Safe Back) (fun r => Safe Back r.1 ∧ r.2.ok = false) ?_
      (fun log hlog => ⟨hlog, nofun⟩) (fun r hr => ⟨hr.1, fun hok => absurd hok (by simp [hr.2])⟩)
    refine (opsStep_ends _ .closeAdmission safe_nil trivial).bind ?_
    rintro ⟨facts, p⟩ ⟨hsafe, -⟩
    exact ⟨hsafe, rfl⟩
  | some release =>
    rw [rollbackRelease]
    refine ended_of_ends
      (P := fun e : Ended RollbackResult => Proper Back e.1 (e.2.any (·.ok)) (some release))
      (Safe Back) (fun r => Safe Back r.1 ∧ (r.2.ok = true → Succeeded r.1 release)) ?_
      (fun log hlog => ⟨hlog, nofun⟩) (fun r hr => ⟨hr.1, fun hok => ⟨release, rfl, hr.2 hok⟩⟩)
    refine (retreat_ends (hstops nofun)).bind ?_
    rintro p ⟨hsafe, hvacated⟩
    by_cases hnil : p.failures = []
    · rw [if_neg (not_not.mpr hnil)]
      refine (cutOver_ends _ hsafe (hvacated hnil)).bind ?_
      rintro q ⟨hsafe', hsucceeded⟩
      exact ⟨hsafe', fun hok => hsucceeded (by simpa using hok)⟩
    · rw [if_pos hnil]
      exact ⟨hsafe, nofun⟩

/-- A rollback that was proper was one of a site that stops. -/
lemma stops_of_safe {site : Site} {release : String} {metadataBackup : Option String}
    {downgradeCompatible : Bool}
    (hsafe : Safe Back
      (rollbackRelease site (some release) metadataBackup downgradeCompatible).1) :
    site.Stops metadataBackup downgradeCompatible := by
  intro admission stopped hadmission hstopped hrestores
  obtain ⟨p, rest, hretreat, hnil, hlog, hrest⟩ := retreat_eq hadmission hstopped hrestores
  have hprefix : ∃ outcome, p.log ++ [(.switchCurrent release, outcome)] <+:
      (rollbackRelease site (some release) metadataBackup downgradeCompatible).1 := by
    obtain ⟨outcome, hcut⟩ := cutOver_prefix site release
      ⟨"current does not point at the accepted release", "the restored scheduler did not start",
        "the smoke check after the rollback failed"⟩ p
    refine ⟨outcome, ?_⟩
    simp only [rollbackRelease, hretreat, bind, Except.bind, hnil, ne_eq, not_true_eq_false,
      if_false]
    cases hq : cutOver site release _ p with
    | ok q | error log =>
      rw [hq] at hcut
      exact hcut
  obtain ⟨outcome, hprefix⟩ := hprefix
  obtain ⟨⟨facts, hmem, hclosed⟩, facts', hmem', hstopped'⟩ := hsafe _ _ hprefix
  rw [hlog] at hmem hmem'
  have hfacts : facts = admission := by
    simp only [List.cons_append, List.nil_append, List.mem_cons, Prod.mk.injEq, reduceCtorEq,
      false_and, false_or, true_and, Outcome.facts.injEq] at hmem
    exact hmem.resolve_right fun hin => (hrest _ hin).1 rfl
  have hfacts' : facts' = stopped := by
    simp only [List.cons_append, List.nil_append, List.mem_cons, Prod.mk.injEq, reduceCtorEq,
      false_and, false_or, true_and, Outcome.facts.injEq] at hmem'
    exact hmem'.resolve_right fun hin => (hrest _ hin).2 rfl
  exact ⟨hfacts ▸ hclosed, hfacts' ▸ hstopped'⟩

/-- The forward sequence is proper on every site; a rollback is so exactly on a site that, unless it
refuses something before the switch, has closed admission and stopped the instances. -/
theorem release_switched_on_stopped_site (site : Site) :
    (∀ (release : String) (metadataBackup : Option String),
      Proper Forward (switchRelease site release metadataBackup).1
        ((switchRelease site release metadataBackup).2.any (·.ok)) (some release)) ∧
    ∀ (acceptedRelease metadataBackup : Option String) (downgradeCompatible : Bool),
      Proper Back (rollbackRelease site acceptedRelease metadataBackup downgradeCompatible).1
        ((rollbackRelease site acceptedRelease metadataBackup downgradeCompatible).2.any (·.ok))
        acceptedRelease ↔
      (acceptedRelease ≠ none → site.Stops metadataBackup downgradeCompatible) := by
  refine ⟨switchRelease_proper site, fun acceptedRelease metadataBackup downgradeCompatible => ?_⟩
  refine ⟨fun hproper hsome => ?_, rollbackRelease_proper⟩
  obtain ⟨release, rfl⟩ := Option.ne_none_iff_exists'.mp hsome
  exact stops_of_safe hproper.safe

/-- A site that answers everything and stops nothing. -/
def heedless : Site where
  currentRelease := some (some "r2")
  answer := fun _ op =>
    match op with
    | .closeAdmission => .facts [("closed", .bool false)]
    | .proveInstancesStopped => .facts [("stopped", .bool false)]
    | .switchCurrent release => .facts [("current", .str release)]
    | .start => .facts [("running", .bool true)]
    | .smoke => .facts [("ok", .bool true)]
    | _ => .facts []
  repr := id

theorem rollback_switches_running_site :
    ¬ ∀ (site : Site) (acceptedRelease metadataBackup : Option String) (downgradeCompatible : Bool),
      Proper Back (rollbackRelease site acceptedRelease metadataBackup downgradeCompatible).1
        ((rollbackRelease site acceptedRelease metadataBackup downgradeCompatible).2.any (·.ok))
        acceptedRelease := by
  intro h
  have hstops := stops_of_safe (h heedless (some "r1") none true).safe
  exact absurd (hstops [("closed", .bool false)] [("stopped", .bool false)] rfl rfl (.inl rfl)).1
    (by decide)

end ModelSwitch.Release

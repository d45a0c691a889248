import ModelSwitch.Program.Observer

/-!
# What a stop verdict of the observer proves

`STOPPED` speaks for the container the target is bound to. Without an explicit container id that is
every container of the model; with one, a sibling may still run.
-/

namespace ModelSwitch.Docker

/-- The single computation behind `STOPPED`. -/
lemma stoppedIsProven_iff {gone terminal exited : Bool} {listening : Option Bool} :
    stoppedIsProven gone terminal exited listening = true ↔
      gone = true ∧ terminal = true ∧ exited = true ∧ listening = some false := by
  simp only [stoppedIsProven, Bool.and_eq_true, decide_eq_true_eq, and_assoc]

namespace Observer

variable {o : Observer} {w : World} {target : ObservationTarget} {facts : List ContainerFact}
  {f : ContainerFact} {id : String} {obs : Observation} {deadline : Time}

/-! ### The bound container -/

/-- Without an explicit id nothing is bound only if nothing runs. -/
lemma not_running_of_nothing (hid : target.containerId = none)
    (h : matchTarget target facts = .nothing) : ∀ f ∈ facts, f.running = false := by
  intro f hf
  simp only [matchTarget, hid] at h
  split at h
  · rename_i hnil
    exact Bool.not_eq_true _ ▸ List.filter_eq_nil_iff.mp hnil f hf
  · cases h
  · cases h

/-- Without an explicit id a bound container runs. -/
lemma running_of_fact (hid : target.containerId = none) (h : matchTarget target facts = .fact f) :
    f.running = true := by
  simp only [matchTarget, hid] at h
  split at h
  · cases h
  · rename_i g hg
    obtain rfl : g = f := Match.fact.inj h
    have hmem : g ∈ facts.filter (·.running) := by rw [hg]; exact List.mem_singleton_self g
    exact (List.mem_filter.mp hmem).2
  · cases h

/-- With an explicit id the containers of that id are the one that is bound, or there is none. -/
lemma eq_of_matchTarget (hid : target.containerId = some id) {g : ContainerFact} (hg : g ∈ facts)
    (hgid : g.containerId = id) : matchTarget target facts = .fact g ∨
      matchTarget target facts = .ambiguous := by
  have hmem : g ∈ facts.filter (·.containerId = id) :=
    List.mem_filter.mpr ⟨hg, decide_eq_true hgid⟩
  simp only [matchTarget, hid]
  split
  · rename_i hnil
    rw [hnil] at hmem
    cases hmem
  · rename_i f hf
    rw [hf, List.mem_singleton] at hmem
    exact .inl (by rw [hmem])
  · exact .inr rfl

/-! ### The verdict -/

/-- The facts behind `STOPPED`, apart from the containers. -/
structure Quiet (o : Observer) (w : World) (target : ObservationTarget) : Prop where
  launch : ∀ launch, w.launch = some launch → launch.isTerminal = true
  process : ∀ pid, launcherPid w target = some pid →
    w.processState pid = .exited ∨ w.processState pid = .absent
  port : w.portState o.port = .closed

lemma quiet_of_verdict {matched : Option ContainerFact}
    (h : (o.verdict w target matched).state = .stopped) : o.Quiet w target := by
  simp only [verdict] at h
  split_ifs at h with hproven
  · obtain ⟨-, hterminal, hexited, hport⟩ := stoppedIsProven_iff.mp hproven
    refine ⟨?_, ?_, ?_⟩
    · intro launch hlaunch
      simpa [hlaunch] using hterminal
    · intro pid hpid
      simpa [subprocessState, hpid] using hexited
    · cases hp : w.portState o.port <;> simp [hp, portListening] at hport ⊢
  · cases h

/-- A stop is reported from a successful listing in which the bound container does not run. -/
lemma observe_stopped (h : o.observe w target deadline = .ok obs) (hs : obs.state = .stopped) :
    o.Quiet w target ∧ ∃ facts, Observer.facts w = .ok facts ∧
      (matchTarget target facts = .nothing ∨
        ∃ f, matchTarget target facts = .fact f ∧ f.running = false) := by
  simp only [observe] at h
  split_ifs at h with hforeign hlate
  · cases h
    cases hs
  · split at h
    · cases h
      cases hs
    · rename_i facts hfacts
      split at h
      · cases h
        cases hs
      · rename_i hmatch
        cases h
        exact ⟨quiet_of_verdict hs, facts, hfacts, .inl hmatch⟩
      · rename_i f hmatch
        split_ifs at h with hrunning
        · cases h
          exact ⟨quiet_of_verdict hs, facts, hfacts, .inr ⟨f, hmatch, hrunning⟩⟩
        · split at h <;> cases h <;> cases hs

/-- What `STOPPED` means: the launch operation is terminal, the launcher has exited and the port is
closed; and no container of the deployment and model runs exactly when the target names no container
or no container besides the named one runs. -/
theorem stopped_iff_no_sibling (h : o.observe w target deadline = .ok obs)
    (hs : obs.state = .stopped) :
    ∃ facts, Observer.facts w = .ok facts ∧
      (∀ launch, w.launch = some launch → launch.isTerminal = true) ∧
      (∀ pid, launcherPid w target = some pid →
        w.processState pid = .exited ∨ w.processState pid = .absent) ∧
      w.portState o.port = .closed ∧
      ((∀ f ∈ facts, o.owns f = true → f.running = false) ↔
        target.containerId = none ∨
          ∀ f ∈ facts, o.owns f = true → target.containerId ≠ some f.containerId →
            f.running = false) := by
  obtain ⟨hquiet, facts, hfacts, hbound⟩ := observe_stopped h hs
  refine ⟨facts, hfacts, hquiet.launch, hquiet.process, hquiet.port, ?_, ?_⟩
  · exact fun hall => .inr fun f hf howns _ => hall f hf howns
  · intro hcond f hf howns
    cases hid : target.containerId with
    | none =>
      rcases hbound with hnothing | ⟨g, hfact, hrunning⟩
      · exact not_running_of_nothing hid hnothing f hf
      · rw [running_of_fact hid hfact] at hrunning
        cases hrunning
    | some id =>
      rw [hid] at hcond
      obtain hnone | hothers := hcond
      · cases hnone
      · by_cases hother : some id = some f.containerId
        · -- the named container is the bound one
          have hbound' := eq_of_matchTarget hid hf (Option.some.inj hother).symm
          rcases hbound with hnothing | ⟨g, hfact, hrunning⟩
          · rw [hnothing] at hbound'
            simp at hbound'
          · rw [hfact] at hbound'
            simp only [Match.fact.injEq, reduceCtorEq, or_false] at hbound'
            rwa [← hbound']
        · exact hothers f hf howns hother

/-! A container that has exited and one of the same model that is starting up. -/

def sampleObserver : Observer where
  deploymentId := "d"
  modelId := "chat"
  port := 8080
  deployment_ne := by decide
  model_ne := by decide
  port_range := by decide

def sampleItem (id : String) (running : Bool) : Py.Json :=
  .obj [("Id", .str id),
    ("Config", .obj [("Image", .str "image"), ("Labels", .obj [
      ("io.self-model-switch.deployment", .str "d"),
      ("io.self-model-switch.model", .str "chat")])]),
    ("State", .obj [("Running", .bool running),
      ("Status", .str (if running then "running" else "exited")),
      ("ExitCode", .int 0), ("StartedAt", .str "2026-01-01T00:00:00Z")])]

def sampleWorld (items : List Py.Json) : World where
  monotonic := 0
  utcNow := "2026-01-01T00:00:00Z"
  portState _ := .closed
  ps := .ok { exitCode := 0, lines := ["a", "b"] }
  inspect _ := .ok { exitCode := 0, payload := .ok (.arr items), stderr := "" }
  processState _ := .absent
  canonicalUtc s := some s

theorem stopped_with_exited_containers :
    ∃ facts, Observer.facts (sampleWorld [sampleItem "a" false, sampleItem "b" false]) = .ok facts ∧
      ∀ f ∈ facts, sampleObserver.owns f = true → f.running = false := by
  obtain ⟨obs, hobs, hs⟩ : ∃ obs, sampleObserver.observe
      (sampleWorld [sampleItem "a" false, sampleItem "b" false]) { deploymentId := "d" } 1 =
      .ok obs ∧ obs.state = .stopped := ⟨_, rfl, rfl⟩
  obtain ⟨facts, hfacts, -, -, -, hiff⟩ := stopped_iff_no_sibling hobs hs
  exact ⟨facts, hfacts, hiff.mpr (.inl rfl)⟩

/-- The target names the container that has exited, the other one runs. -/
theorem stopped_beside_running_container :
    ∃ facts f,
      Observer.facts (sampleWorld [sampleItem "a" false, sampleItem "b" true]) = .ok facts ∧
      f ∈ facts ∧ sampleObserver.owns f = true ∧ f.running = true ∧
      ∃ obs, sampleObserver.observe (sampleWorld [sampleItem "a" false, sampleItem "b" true])
        { deploymentId := "d", containerId := some "a" } 1 = .ok obs ∧ obs.state = .stopped :=
  ⟨_, _, rfl, .tail _ (.head _), rfl, rfl, _, rfl, rfl⟩

end Observer

end ModelSwitch.Docker

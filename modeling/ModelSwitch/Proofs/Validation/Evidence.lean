import ModelSwitch.Proofs.Validation.Registration

/-!
# The cases of a candidate

Model ids may be a single character and may contain dots; a case id names a model with at least two
characters, and a material directory has no dots. `required_cases_storable_iff` says that these are
the only ids for which the required cases cannot be reported. No two cases share a directory.
-/

namespace ModelSwitch.Registration.Evidence

open Py

/-! ### Ids and case ids -/

lemma isId_char {id : OpaqueId} {c : Char} (h : c ∈ id.1.toList) :
    isAlnum c = true ∨ c ∈ ['.', '_', '-'] := by
  have hid := id.2
  simp only [isId, decide_eq_true_eq, List.all_eq_true] at hid
  exact hid.2.2.2 c h

lemma isId_forall {id : OpaqueId} {P : Char → Prop} (h : ∀ c, isAlnum c = true → P c)
    (hmarks : ∀ c ∈ ['.', '_', '-'], P c) : ∀ c ∈ id.1.toList, P c := by
  intro c hc
  rcases isId_char hc with hc | hc
  · exact h c hc
  · exact hmarks c hc

lemma toLower_of_isAlnum {c : Char} (h : isAlnum c = true) : c.toLower = c := by
  simp only [isAlnum, inRange, decide_eq_true_eq, Char.toNat] at h
  refine dif_neg ?_
  rw [ge_iff_le, UInt32.le_iff_toNat_le, UInt32.le_iff_toNat_le]
  have hA : 'A'.val.toNat = 65 := rfl
  have hZ : 'Z'.val.toNat = 90 := rfl
  have ha : 'a'.val.toNat = 97 := rfl
  have h9 : '9'.val.toNat = 57 := rfl
  omega

lemma id_toLower (id : OpaqueId) : id.1.toList.map Char.toLower = id.1.toList := by
  have hmarks : ∀ c ∈ ['.', '_', '-'], c.toLower = c := by
    intro c hc
    fin_cases hc <;> rfl
  have h : ∀ c ∈ id.1.toList, c.toLower = c := isId_forall (fun _ => toLower_of_isAlnum) hmarks
  rw [List.map_congr_left h, List.map_id']

lemma colon_notMem (id : OpaqueId) : ':' ∉ id.1.toList := by
  intro h
  rcases isId_char h with h | h <;> exact absurd h (by decide)

lemma nul_notMem (id : OpaqueId) : Char.ofNat 0 ∉ id.1.toList := by
  intro h
  rcases isId_char h with h | h <;> exact absurd h (by decide)

/-- The parts behind the last separator are the same, and so are those before it. -/
lemma append_separator_inj {α : Type} {s : α} {a b x y : List α} (hx : s ∉ x) (hy : s ∉ y)
    (h : a ++ s :: x = b ++ s :: y) : a = b ∧ x = y := by
  rcases List.append_eq_append_iff.mp h with ⟨t, rfl, ht⟩ | ⟨t, rfl, ht⟩
  · cases t with
    | nil => simp_all
    | cons c t =>
      rw [List.cons_append, List.cons.injEq] at ht
      exact absurd (ht.2 ▸ by simp) hx
  · cases t with
    | nil => simp_all
    | cons c t =>
      rw [List.cons_append, List.cons.injEq] at ht
      exact absurd (ht.2 ▸ by simp) hy

def kindCase (id : OpaqueId) (kind : String) : String := "B:" ++ id.1 ++ ":" ++ kind

def capabilityCase (id : OpaqueId) (capability : Capability) : String :=
  "B:" ++ id.1 ++ ":cap:" ++ capability.name

/-- The spellings of a required case. -/
inductive Spelled : String → Prop
  | fixed {id : String} (h : id ∈ softwareCases ++ operationalCases) : Spelled id
  | kind (id : OpaqueId) {kind : String} (h : kind ∈ backendModelCaseKinds) :
      Spelled (kindCase id kind)
  | capability (id : OpaqueId) (capability : Capability) : Spelled (capabilityCase id capability)

lemma mem_requiredCaseIds {candidate : CandidateV3} {id : String} :
    id ∈ requiredCaseIds candidate ↔ id ∈ softwareCases ++ operationalCases ∨
      ∃ model ∈ candidate.models,
        (∃ kind ∈ backendModelCaseKinds, kindCase model.modelId kind = id) ∨
        ∃ capability ∈ model.capabilities, capabilityCase model.modelId capability = id := by
  simp only [requiredCaseIds, List.mem_append, List.mem_flatMap, List.mem_map, kindCase,
    capabilityCase]

lemma spelled_of_required {candidate : CandidateV3} {id : String}
    (h : id ∈ requiredCaseIds candidate) : Spelled id := by
  rcases mem_requiredCaseIds.mp h with h | ⟨model, -, ⟨kind, hk, rfl⟩ | ⟨capability, -, rfl⟩⟩
  · exact .fixed h
  · exact .kind _ hk
  · exact .capability _ _

/-! ### Case ids that are read back -/

lemma kindCase_toList (id : OpaqueId) (kind : String) :
    (kindCase id kind).toList = [':'].intercalate [['B'], id.1.toList, kind.toList] := by
  simp [kindCase, List.intercalate]

lemma capabilityCase_toList (id : OpaqueId) (capability : Capability) :
    (capabilityCase id capability).toList =
      [':'].intercalate [['B'], id.1.toList, "cap".toList, capability.name.toList] := by
  simp [capabilityCase, List.intercalate]

lemma kindCase_split (id : OpaqueId) {kind : String} (h : kind ∈ backendModelCaseKinds) :
    (kindCase id kind).toList.splitOn ':' = [['B'], id.1.toList, kind.toList] := by
  rw [kindCase_toList]
  refine List.splitOn_intercalate _ ?_ (by simp)
  have hkind : ∀ kind ∈ backendModelCaseKinds, ':' ∉ kind.toList := by decide
  simpa using ⟨colon_notMem id, hkind kind h⟩

lemma capabilityCase_split (id : OpaqueId) (capability : Capability) :
    (capabilityCase id capability).toList.splitOn ':' =
      [['B'], id.1.toList, "cap".toList, capability.name.toList] := by
  rw [capabilityCase_toList]
  refine List.splitOn_intercalate _ ?_ (by simp)
  have hname : ':' ∉ capability.name.toList := by cases capability <;> decide
  simpa using ⟨colon_notMem id, hname⟩

lemma isBackendId_toList (id : OpaqueId) :
    isBackendId id.1.toList = decide (2 ≤ id.1.toList.length) := by
  simp [isBackendId, id.2]

lemma parseCaseId_eq_ok {caseId : String} (hne : caseId ≠ "")
    (hnul : Char.ofNat 0 ∉ caseId.toList) :
    parseCaseId (.str caseId) = .ok caseId ↔ caseId ∈ softwareCases ∨ caseId ∈ operationalCases ∨
      isBackendCase (caseId.toList.splitOn ':') = true := by
  have htext : text "case_id" (.str caseId) = .ok caseId := by
    simp [text, hne, hnul, require, bind, Except.bind, pure, Except.pure]
  simp [parseCaseId, bind_eq_ok, htext, pure, Except.pure]

/-- A backend case is read back if its model's id has two characters. -/
lemma parseCaseId_backend {caseId : String} {id : OpaqueId} (hcolon : ':' ∈ caseId.toList)
    (hnul : Char.ofNat 0 ∉ caseId.toList)
    (hcase : isBackendCase (caseId.toList.splitOn ':') = isBackendId id.1.toList) :
    parseCaseId (.str caseId) = .ok caseId ↔ 2 ≤ id.1.toList.length := by
  have hfixed : ∀ fixed ∈ softwareCases ++ operationalCases, ':' ∉ fixed.toList := by decide
  have hno : caseId ∉ softwareCases ++ operationalCases := fun hmem => hfixed caseId hmem hcolon
  rw [List.mem_append, not_or] at hno
  rw [parseCaseId_eq_ok (by rintro rfl; simp at hcolon) hnul, hcase, isBackendId_toList]
  simp [hno.1, hno.2]

lemma parseCaseId_kind (id : OpaqueId) {kind : String} (h : kind ∈ backendModelCaseKinds) :
    parseCaseId (.str (kindCase id kind)) = .ok (kindCase id kind) ↔ 2 ≤ id.1.toList.length := by
  have hkind : ∀ kind ∈ backendModelCaseKinds, Char.ofNat 0 ∉ kind.toList := by decide
  refine parseCaseId_backend (by simp [kindCase]) ?_ ?_
  · simpa [kindCase] using ⟨nul_notMem id, hkind kind h⟩
  · rw [kindCase_split id h]
    simp [isBackendCase, h]

lemma parseCaseId_capability (id : OpaqueId) (capability : Capability) :
    parseCaseId (.str (capabilityCase id capability)) = .ok (capabilityCase id capability) ↔
      2 ≤ id.1.toList.length := by
  have hname : Char.ofNat 0 ∉ capability.name.toList := by cases capability <;> decide
  have hall : capability.name ∈ Capability.all.map Prod.fst := by cases capability <;> decide
  refine parseCaseId_backend (by simp [capabilityCase]) ?_ ?_
  · simpa [capabilityCase] using ⟨nul_notMem id, hname⟩
  · rw [capabilityCase_split]
    simpa [isBackendCase] using fun _ => hall

/-! ### Directories -/

lemma underscored_part {part : List Char} (h : ':' ∉ part) :
    part.map (fun c => if c = ':' then '_' else c) = part := by
  have hc : ∀ c ∈ part, (if c = ':' then '_' else c) = c := by
    intro c hc
    rw [if_neg]
    rintro rfl
    exact h hc
  rw [List.map_congr_left hc, List.map_id']

lemma underscored_kindCase (id : OpaqueId) {kind : String} (h : kind ∈ backendModelCaseKinds) :
    underscored (kindCase id kind) = ('B' :: '_' :: id.1.toList) ++ '_' :: kind.toList := by
  have hkind : ∀ kind ∈ backendModelCaseKinds, ':' ∉ kind.toList := by decide
  simp [underscored, kindCase, underscored_part (colon_notMem id), underscored_part (hkind kind h)]

lemma underscored_capabilityCase (id : OpaqueId) (capability : Capability) :
    underscored (capabilityCase id capability) =
      ('B' :: '_' :: id.1.toList ++ "_cap".toList) ++ '_' :: capability.name.toList := by
  have hname : ':' ∉ capability.name.toList := by cases capability <;> decide
  simp [underscored, capabilityCase, underscored_part (colon_notMem id), underscored_part hname]

/-- Only the first character of a case is a capital. -/
lemma underscored_lower {caseId : String} (h : Spelled caseId) :
    ∃ first rest, underscored caseId = first :: rest ∧ first ∈ ['S', 'O', 'B'] ∧
      rest.map Char.toLower = rest := by
  cases h with
  | fixed h =>
    have hfixed : ∀ id ∈ softwareCases ++ operationalCases,
        (underscored id).head? ∈ [some 'S', some 'O', some 'B'] ∧
          (underscored id).tail.map Char.toLower = (underscored id).tail := by decide
    obtain ⟨hfirst, hrest⟩ := hfixed _ h
    cases hu : underscored caseId with
    | nil => simp [hu] at hfirst
    | cons first rest =>
      rw [hu] at hfirst hrest
      exact ⟨first, rest, rfl, by simpa using hfirst, hrest⟩
  | kind id h =>
    have hkind : ∀ kind ∈ backendModelCaseKinds, kind.toList.map Char.toLower = kind.toList := by
      decide
    exact ⟨_, _, underscored_kindCase id h, by simp, by simp [id_toLower, hkind _ h]⟩
  | capability id capability =>
    have hname : capability.name.toList.map Char.toLower = capability.name.toList := by
      cases capability <;> decide
    exact ⟨_, _, underscored_capabilityCase id capability, by simp, by simp [id_toLower, hname]⟩

/-- Different cases have different names, with colons replaced. -/
lemma underscored_inj {a b : String} (ha : Spelled a) (hb : Spelled b)
    (h : underscored a = underscored b) : a = b := by
  have hfixed : ∀ id ∈ softwareCases ++ operationalCases,
      underscored id = id.toList ∧ '_' ∉ underscored id := by decide
  have hkind : ∀ kind ∈ backendModelCaseKinds, '_' ∉ kind.toList := by decide
  have hname : ∀ capability : Capability, '_' ∉ capability.name.toList := by
    intro capability
    cases capability <;> decide
  have hdisjoint : ∀ kind ∈ backendModelCaseKinds, ∀ capability : Capability,
      kind.toList ≠ capability.name.toList := by
    intro kind hk capability
    cases capability <;> revert kind <;> decide
  cases ha with
  | fixed ha =>
    cases hb with
    | fixed hb => exact String.toList_injective ((hfixed a ha).1 ▸ (hfixed b hb).1 ▸ h)
    | kind id hk => exact absurd (by simp [h, underscored_kindCase id hk]) (hfixed a ha).2
    | capability id c =>
      exact absurd (by simp [h, underscored_capabilityCase]) (hfixed a ha).2
  | kind id hk =>
    cases hb with
    | fixed hb => exact absurd (by simp [← h, underscored_kindCase id hk]) (hfixed b hb).2
    | kind id' hk' =>
      rw [underscored_kindCase id hk, underscored_kindCase id' hk'] at h
      obtain ⟨hid, hsame⟩ := append_separator_inj (hkind _ hk) (hkind _ hk') h
      simp only [List.cons.injEq, true_and] at hid
      rw [kindCase, kindCase, String.toList_injective hid, String.toList_injective hsame]
    | capability id' c =>
      rw [underscored_kindCase id hk, underscored_capabilityCase] at h
      exact absurd (append_separator_inj (hkind _ hk) (hname c) h).2 (hdisjoint _ hk c)
  | capability id c =>
    cases hb with
    | fixed hb => exact absurd (by simp [← h, underscored_capabilityCase]) (hfixed b hb).2
    | kind id' hk =>
      rw [underscored_kindCase id' hk, underscored_capabilityCase] at h
      exact absurd (append_separator_inj (hname c) (hkind _ hk) h).2.symm (hdisjoint _ hk c)
    | capability id' c' =>
      rw [underscored_capabilityCase, underscored_capabilityCase] at h
      obtain ⟨hid, hsame⟩ := append_separator_inj (hname c) (hname c') h
      have hid := List.append_cancel_right hid
      simp only [List.cons.injEq, true_and] at hid
      rw [capabilityCase, capabilityCase, String.toList_injective hid,
        String.toList_injective hsame]

lemma slug_inj {a b : String} (ha : Spelled a) (hb : Spelled b) {dir : List Char}
    (hda : slug a = some dir) (hdb : slug b = some dir) : a = b := by
  obtain ⟨first, rest, hua, hfirst, hrest⟩ := underscored_lower ha
  obtain ⟨first', rest', hub, hfirst', hrest'⟩ := underscored_lower hb
  simp only [slug, hua, hub, List.map_cons, hrest, hrest', Option.ite_none_right_eq_some,
    Option.some.injEq] at hda hdb
  have hlower : ∀ c ∈ ['S', 'O', 'B'], ∀ c' ∈ ['S', 'O', 'B'], c.toLower = c'.toLower → c = c' := by
    intro c hc c' hc'
    fin_cases hc <;> fin_cases hc' <;> decide
  obtain ⟨hsame, hparts⟩ := List.cons.inj (hda.2.trans hdb.2.symm)
  refine underscored_inj ha hb ?_
  rw [hua, hub, hlower _ hfirst _ hfirst' hsame, hparts]

/-- A name without a dot is one of a directory. -/
lemma exists_slug_iff {caseId : String} (h : Spelled caseId) :
    (∃ dir, slug caseId = some dir) ↔
      ∀ c ∈ (underscored caseId).tail, isAlnum c = true ∨ c = '_' ∨ c = '-' := by
  obtain ⟨first, rest, hu, hfirst, hrest⟩ := underscored_lower h
  have hlower : ∀ c ∈ ['S', 'O', 'B'], isAlnum c.toLower = true := by
    intro c hc
    fin_cases hc <;> rfl
  simp [slug, hu, hrest, hlower first hfirst]

lemma slug_chars_iff (id : OpaqueId) :
    (∀ c ∈ id.1.toList, isAlnum c = true ∨ c = '_' ∨ c = '-') ↔ '.' ∉ id.1.toList := by
  constructor
  · intro h hdot
    exact absurd (h '.' hdot) (by decide)
  · intro hdot c hc
    rcases isId_char hc with h | h
    · exact .inl h
    · rcases List.mem_cons.mp h with rfl | h
      · exact absurd hc hdot
      · exact .inr (by simpa using h)

lemma exists_slug_kind (id : OpaqueId) {kind : String} (h : kind ∈ backendModelCaseKinds) :
    (∃ dir, slug (kindCase id kind) = some dir) ↔ '.' ∉ id.1.toList := by
  have hkind : ∀ kind ∈ backendModelCaseKinds, kind.toList.all isAlnum = true := by decide
  rw [exists_slug_iff (.kind id h), underscored_kindCase id h, ← slug_chars_iff]
  simp only [List.cons_append, List.tail_cons, List.mem_cons, List.mem_append]
  constructor
  · exact fun hall c hc => hall c (.inr (.inl hc))
  · rintro hall c (rfl | hc | rfl | hc)
    · simp
    · exact hall c hc
    · simp
    · exact .inl (List.all_eq_true.mp (hkind _ h) c hc)

lemma exists_slug_capability (id : OpaqueId) (capability : Capability) :
    (∃ dir, slug (capabilityCase id capability) = some dir) ↔ '.' ∉ id.1.toList := by
  have hname : capability.name.toList.all isAlnum = true := by cases capability <;> decide
  have hcap : "_cap".toList.all (fun c => isAlnum c ∨ c = '_' ∨ c = '-') = true := by decide
  rw [exists_slug_iff (.capability id capability), underscored_capabilityCase, ← slug_chars_iff]
  simp only [List.cons_append, List.append_assoc, List.tail_cons, List.mem_cons, List.mem_append]
  constructor
  · exact fun hall c hc => hall c (.inr (.inl hc))
  · rintro hall c (rfl | hc | hc | rfl | hc)
    · simp
    · exact hall c hc
    · exact of_decide_eq_true (List.all_eq_true.mp hcap c hc)
    · simp
    · exact .inl (List.all_eq_true.mp hname c hc)

/-! ### The required set -/

/-- The required cases of a candidate can be reported, each with a directory of its own. -/
structure Storable (candidate : CandidateV3) : Prop where
  parsed : ∀ id ∈ requiredCaseIds candidate, parseCaseId (.str id) = .ok id
  stored : ∀ id ∈ requiredCaseIds candidate, ∀ attempt, 1 ≤ attempt →
    ∃ dir, caseDirectory id attempt = some dir
  separate : ∀ id ∈ requiredCaseIds candidate, ∀ id' ∈ requiredCaseIds candidate, id ≠ id' →
    ∀ attempt attempt' dir, caseDirectory id attempt = some dir →
      caseDirectory id' attempt' ≠ some dir
  merged : ∀ id ∈ requiredCaseIds candidate, ∀ id' ∈ requiredCaseIds candidate, id ≠ id' →
    ∀ runId runId' attempt attempt', mergeDirectory id runId attempt ≠
      mergeDirectory id' runId' attempt'

lemma caseDirectory_eq_some {caseId : String} {attempt : ℕ} {dir : List String} :
    caseDirectory caseId attempt = some dir ↔ attempt ≠ 0 ∧ ∃ name, slug caseId = some name ∧
      ["cases", String.ofList name, "attempt-" ++ toString attempt] = dir := by
  unfold caseDirectory
  split_ifs with h <;> simp [h]

/-- **When an accepted candidate can be accepted**: exactly if its models' ids have at least two
characters and no dot. -/
theorem required_cases_storable_iff (candidate : CandidateV3) :
    Storable candidate ↔ ∀ model ∈ candidate.models,
      2 ≤ model.modelId.1.toList.length ∧ '.' ∉ model.modelId.1.toList := by
  have hload : "load" ∈ backendModelCaseKinds := by decide
  constructor
  · intro h model hmodel
    have hmem : kindCase model.modelId "load" ∈ requiredCaseIds candidate :=
      mem_requiredCaseIds.mpr (.inr ⟨model, hmodel, .inl ⟨"load", hload, rfl⟩⟩)
    obtain ⟨_, hdir⟩ := h.stored _ hmem 1 le_rfl
    obtain ⟨-, name, hname, -⟩ := caseDirectory_eq_some.mp hdir
    exact ⟨(parseCaseId_kind model.modelId hload).mp (h.parsed _ hmem),
      (exists_slug_kind model.modelId hload).mp ⟨name, hname⟩⟩
  · intro h
    refine ⟨fun id hid => ?_, fun id hid attempt hattempt => ?_, ?_, ?_⟩
    · rcases mem_requiredCaseIds.mp hid with hid | ⟨model, hm, ⟨kind, hk, rfl⟩ | ⟨c, -, rfl⟩⟩
      · have hfixed : ∀ id ∈ softwareCases ++ operationalCases,
            parseCaseId (.str id) = .ok id := by decide
        exact hfixed id hid
      · exact (parseCaseId_kind _ hk).mpr (h model hm).1
      · exact (parseCaseId_capability _ c).mpr (h model hm).1
    · have hslug : ∃ dir, slug id = some dir := by
        rcases mem_requiredCaseIds.mp hid with hid | ⟨model, hm, ⟨kind, hk, rfl⟩ | ⟨c, -, rfl⟩⟩
        · have hfixed : ∀ id ∈ softwareCases ++ operationalCases, (slug id).isSome = true := by
            decide
          exact Option.isSome_iff_exists.mp (hfixed id hid)
        · exact (exists_slug_kind _ hk).mpr (h model hm).2
        · exact (exists_slug_capability _ c).mpr (h model hm).2
      obtain ⟨name, hname⟩ := hslug
      exact ⟨_, caseDirectory_eq_some.mpr ⟨by omega, name, hname, rfl⟩⟩
    · intro id hid id' hid' hne attempt attempt' dir hdir hdir'
      obtain ⟨-, name, hname, rfl⟩ := caseDirectory_eq_some.mp hdir
      obtain ⟨-, name', hname', heq⟩ := caseDirectory_eq_some.mp hdir'
      simp only [List.cons.injEq, true_and] at heq
      cases String.ofList_injective heq.1
      exact hne (slug_inj (spelled_of_required hid) (spelled_of_required hid') hname hname')
    · intro id hid id' hid' hne runId runId' attempt attempt' heq
      simp only [mergeDirectory, List.cons.injEq, true_and] at heq
      exact hne (underscored_inj (spelled_of_required hid) (spelled_of_required hid')
        (String.ofList_injective heq.1))

/-- A model named by one character has no valid case, and one with a dot no directory. -/
theorem required_cases_not_storable :
    (parseCandidate (sampleCandidate [("a", 10001)])).toOption.any (fun candidate =>
      "B:a:load" ∈ requiredCaseIds candidate) = true ∧
    parseCaseId (.str "B:a:load") = .error ⟨[], .invalid "case_id" (some "B:a:load")⟩ ∧
    (parseCandidate (sampleCandidate [("qwen-2.5", 10001)])).toOption.any (fun candidate =>
      "B:qwen-2.5:load" ∈ requiredCaseIds candidate) = true ∧
    caseDirectory "B:qwen-2.5:load" 1 = none := by
  decide +kernel

end ModelSwitch.Registration.Evidence

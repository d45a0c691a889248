import ModelSwitch.Program.Streaming

/-!
# The verdict on a stream and its chunks

Where a stream is cut into chunks matters in two places. A `\r\n` over a boundary is read as two
line ends, so that its `\n` ends the event early (`Parts`), and a chunk is read to its end before it
counts as forwarded, so that an oversized event after the final line takes the completion back.
`verdict_independent_iff` says for which streams neither makes a difference.
-/

namespace ModelSwitch.Streaming

variable {limit e : ℕ} {lines lines' : List Bytes}

/-! ### Lines -/

/-- Without a line end. -/
def Open (line : Bytes) : Prop := ∀ b ∈ line, b ≠ 10 ∧ b ≠ 13

lemma Open.snoc {line : Bytes} (h : Open line) {b : UInt8} (h₁ : b ≠ 10) (h₂ : b ≠ 13) :
    Open (line ++ [b]) := by
  intro c hc
  rcases List.mem_append.mp hc with hc | hc
  · exact h c hc
  · cases List.mem_singleton.mp hc
    exact ⟨h₁, h₂⟩

lemma lineSplit_open (line : Bytes) {front : Bytes} (h : Open front) (data : Bytes) :
    lineSplit line (front ++ data) = lineSplit (line ++ front) data := by
  induction front generalizing line with
  | nil => simp
  | cons b front ih =>
    obtain ⟨h₁, h₂⟩ := h b List.mem_cons_self
    rw [List.cons_append, lineSplit.eq_def]
    simp only [h₁, h₂, if_false]
    rw [ih _ fun c hc => h c (List.mem_cons_of_mem _ hc), List.append_assoc, List.singleton_append]

/-- The lines end, the rest does not. -/
lemma lineSplit_ends {line : Bytes} (h : Open line) (data : Bytes) :
    (∀ l ∈ (lineSplit line data).1, isEnded l = true) ∧ Open (lineSplit line data).2 := by
  fun_induction lineSplit line data with
  | case1 line => exact ⟨by simp, h⟩
  | case2 line data lines rest heq ih | case3 line data lines rest heq _ ih
  | case4 line data hne lines rest heq _ ih =>
    obtain ⟨hl, hr⟩ := ih (by simp [Open])
    exact ⟨by simpa [isEnded, heq] using hl, by simpa [heq] using hr⟩
  | case5 line b data h₁ h₂ ih => exact ih (h.snoc h₁ h₂)

/-- What `stream_body` reads of a chunk and keeps of it. -/
lemma popPending_splitlines {pending : Bytes} (h : Open pending) (chunk : Bytes) :
    popPending (splitlines (pending ++ chunk)) = lineSplit pending chunk := by
  have hsplit := lineSplit_open [] h chunk
  obtain ⟨hlines, hrest⟩ := lineSplit_ends h chunk
  rw [List.nil_append] at hsplit
  rw [splitlines, hsplit]
  rcases heq : lineSplit pending chunk with ⟨lines, rest⟩
  rw [heq] at hlines hrest
  cases rest with
  | nil =>
    dsimp only [popPending]
    cases hlast : lines.getLast? with
    | none => rfl
    | some last => simp [hlines last (List.mem_of_getLast? hlast)]
  | cons b rest =>
    have hended : isEnded (b :: rest) = false := by
      simp only [isEnded, decide_eq_false_iff_not]
      rintro (hl | hl)
      · exact (hrest _ (List.mem_of_getLast? hl)).1 rfl
      · exact (hrest _ (List.mem_of_getLast? hl)).2 rfl
    simp [popPending, hended]

/-- Every `\r` and every `\n` a line end. -/
def byteSplit (line : Bytes) : Bytes → List Bytes × Bytes
  | [] => ([], line)
  | b :: data =>
    if b = 10 ∨ b = 13 then ((line ++ [b]) :: (byteSplit [] data).1, (byteSplit [] data).2)
    else byteSplit (line ++ [b]) data

lemma byteSplit_append (line x y : Bytes) :
    byteSplit line (x ++ y) = ((byteSplit line x).1 ++ (byteSplit (byteSplit line x).2 y).1,
      (byteSplit (byteSplit line x).2 y).2) := by
  induction x generalizing line with
  | nil => simp [byteSplit]
  | cons b x ih =>
    rw [List.cons_append, byteSplit, byteSplit]
    by_cases hb : b = 10 ∨ b = 13
    · simp only [if_pos hb, ih [], List.cons_append]
    · simp only [if_neg hb, ih]

/-- The second list has some of the lines that end with `\r\n` in two parts. -/
inductive Parts : List Bytes → List Bytes → Prop
  | refl (lines : List Bytes) : Parts lines lines
  | cons (line : Bytes) {lines lines' : List Bytes} (h : Parts lines lines') :
      Parts (line :: lines) (line :: lines')
  | split (line : Bytes) (lines : List Bytes) :
      Parts ((line ++ [13, 10]) :: lines) ((line ++ [13]) :: [10] :: lines)
  | trans {lines lines' lines'' : List Bytes} (h : Parts lines lines')
      (h' : Parts lines' lines'') : Parts lines lines''

lemma Parts.append (front : List Bytes) (h : Parts lines lines') :
    Parts (front ++ lines) (front ++ lines') := by
  induction front with
  | nil => exact h
  | cons line front ih => exact .cons line ih

lemma Parts.append_right (h : Parts lines lines') (more : List Bytes) :
    Parts (lines ++ more) (lines' ++ more) := by
  induction h with
  | refl lines => exact .refl _
  | cons line _ ih => exact .cons line ih
  | split line lines => exact .split line _
  | trans _ _ ih ih' => exact .trans ih ih'

/-- A boundary takes at most a `\r\n` apart. -/
lemma parts_append (line x y : Bytes) :
    Parts (lineSplit line (x ++ y)).1
      ((lineSplit line x).1 ++ (lineSplit (lineSplit line x).2 y).1) ∧
    (lineSplit line (x ++ y)).2 = (lineSplit (lineSplit line x).2 y).2 := by
  fun_induction lineSplit line x with
  | case1 line => exact ⟨.refl _, rfl⟩
  | case2 line x lines rest heq ih =>
    rw [heq] at ih
    rw [List.cons_append, lineSplit.eq_def]
    exact ⟨.cons _ ih.1, ih.2⟩
  | case3 line x lines rest heq _ ih =>
    rw [heq] at ih
    rw [List.cons_append, List.cons_append, lineSplit.eq_def]
    exact ⟨.cons _ ih.1, ih.2⟩
  | case4 line x hne lines rest heq _ ih =>
    rw [heq] at ih
    cases x with
    | nil =>
      cases heq
      cases y with
      | nil => exact ⟨.refl _, rfl⟩
      | cons c y =>
        by_cases hc : c = 10
        · subst hc
          have hcrlf : lineSplit line (13 :: 10 :: y) =
              ((line ++ [13, 10]) :: (lineSplit [] y).1, (lineSplit [] y).2) := by
            rw [lineSplit.eq_def]
            rfl
          have hlf : lineSplit [] (10 :: y) = ([10] :: (lineSplit [] y).1, (lineSplit [] y).2) := by
            rw [lineSplit.eq_def]
            rfl
          rw [List.singleton_append, hcrlf, hlf]
          exact ⟨.split line _, rfl⟩
        · have hcr : lineSplit line (13 :: c :: y) =
              ((line ++ [13]) :: (lineSplit [] (c :: y)).1, (lineSplit [] (c :: y)).2) := by
            rw [lineSplit.eq_def]
            simp [hc]
          rw [List.singleton_append, hcr]
          exact ⟨.refl _, rfl⟩
    | cons c x =>
      have hc : c ≠ 10 := by
        rintro rfl
        exact hne x rfl
      have hcr : lineSplit line (13 :: (c :: x ++ y)) =
          ((line ++ [13]) :: (lineSplit [] (c :: x ++ y)).1, (lineSplit [] (c :: x ++ y)).2) := by
        rw [lineSplit.eq_def]
        simp [hc]
      rw [List.cons_append, hcr]
      exact ⟨.cons _ ih.1, ih.2⟩
  | case5 line b x h₁ h₂ ih =>
    rw [List.cons_append, lineSplit.eq_def]
    simp only [h₁, h₂, if_false]
    exact ih

lemma parts_byteSplit (line data : Bytes) :
    Parts (lineSplit line data).1 (byteSplit line data).1 ∧
      (lineSplit line data).2 = (byteSplit line data).2 := by
  fun_induction lineSplit line data with
  | case1 line => exact ⟨.refl _, rfl⟩
  | case2 line data lines rest heq ih | case4 line data hne lines rest heq _ ih =>
    rw [heq] at ih
    simpa [byteSplit] using ⟨Parts.cons _ ih.1, ih.2⟩
  | case3 line data lines rest heq _ ih =>
    rw [heq] at ih
    simp only [byteSplit, or_true, true_or, if_true, List.nil_append]
    exact ⟨.trans (.split line lines) (.cons _ (.cons _ ih.1)), ih.2⟩
  | case5 line b data h₁ h₂ ih => simpa [byteSplit, h₁, h₂] using ih

/-! ### Events that are too large -/

def isDone (line : Bytes) : Bool := content line = doneMark

/-- `event_bytes` after a line. -/
def next (eventBytes : ℕ) (line : Bytes) : ℕ :=
  if content line = [] then 0 else eventBytes + line.length

/-- Some event grows over the limit, at a line up to the first final line if `stop` is set. -/
def exceeds (stop : Bool) (limit eventBytes : ℕ) : List Bytes → Bool
  | [] => false
  | line :: lines => eventBytes + line.length > limit ||
      !(stop && isDone line) && exceeds stop limit (next eventBytes line) lines

@[simp] lemma content_crlf (line : Bytes) : content (line ++ [13, 10]) = content line := by
  rw [content, List.append_cons, List.rdropWhile_concat_pos _ _ _ (by decide),
    List.rdropWhile_concat_pos _ _ _ (by decide), content]

@[simp] lemma content_cr (line : Bytes) : content (line ++ [13]) = content line :=
  List.rdropWhile_concat_pos _ _ _ (by decide)

lemma next_le {e e' : ℕ} (h : e' ≤ e) (line : Bytes) : next e' line ≤ next e line := by
  unfold next
  split_ifs <;> omega

lemma exceeds_mono {stop : Bool} {limit e e' : ℕ} (h : e' ≤ e) {lines : List Bytes}
    (hx : exceeds stop limit e' lines = true) : exceeds stop limit e lines = true := by
  induction lines generalizing e e' with
  | nil => exact hx
  | cons line lines ih =>
    simp only [exceeds, Bool.or_eq_true, Bool.and_eq_true, decide_eq_true_eq] at hx ⊢
    rcases hx with hx | ⟨hs, hx⟩
    · exact .inl (by omega)
    · exact .inr ⟨hs, ih (next_le h line) hx⟩

/-- Parts of a line make no event larger. -/
lemma Parts.exceeds {stop : Bool} (h : Parts lines lines')
    (hx : exceeds stop limit e lines' = true) : exceeds stop limit e lines = true := by
  induction h generalizing e with
  | refl => exact hx
  | cons line _ ih =>
    simp only [Streaming.exceeds, Bool.or_eq_true, Bool.and_eq_true] at hx ⊢
    exact hx.imp_right fun hx => ⟨hx.1, ih hx.2⟩
  | split line lines =>
    have hlf : next (next e (line ++ [13])) [10] = 0 := if_pos (by decide)
    simp only [Streaming.exceeds, Bool.or_eq_true, Bool.and_eq_true, decide_eq_true_eq, hlf,
      isDone, content_cr, content_crlf, List.length_append, List.length_cons,
      List.length_nil] at hx ⊢
    rcases hx with hx | ⟨hs, hx | ⟨-, hx⟩⟩
    · exact .inl (by omega)
    · refine .inl ?_
      unfold next at hx
      simp only [List.length_append, List.length_cons, List.length_nil] at hx
      split_ifs at hx <;> omega
    · exact .inr ⟨hs, exceeds_mono (Nat.zero_le _) hx⟩
  | trans _ _ ih ih' => exact ih (ih' hx)

lemma Parts.any_isDone (h : Parts lines lines') : lines'.any isDone = lines.any isDone := by
  induction h with
  | refl => rfl
  | cons line _ ih => simp only [List.any_cons, ih]
  | split line lines =>
    have hlf : isDone [10] = false := by decide
    simp only [List.any_cons, isDone, content_cr, content_crlf]
    rw [show decide (content [10] = doneMark) = false from hlf, Bool.false_or]
  | trans _ _ ih ih' => exact ih'.trans ih

lemma exceeds_append (stop : Bool) (limit e : ℕ) (lines lines' : List Bytes) :
    exceeds stop limit e (lines ++ lines') = (exceeds stop limit e lines ||
      !(stop && lines.any isDone) && exceeds stop limit (lines.foldl next e) lines') := by
  induction lines generalizing e with
  | nil => simp [exceeds]
  | cons line lines ih =>
    simp only [List.cons_append, exceeds, ih, List.any_cons, List.foldl_cons]
    cases stop <;> cases isDone line <;> simp [Bool.or_assoc]

/-- Without a final line it does not matter where one would stop. -/
lemma exceeds_stop {lines : List Bytes} (h : lines.any isDone = false) :
    exceeds true limit e lines = exceeds false limit e lines := by
  induction lines generalizing e with
  | nil => rfl
  | cons line lines ih =>
    simp only [List.any_cons, Bool.or_eq_false_iff] at h
    simp [exceeds, h.1, ih h.2]

lemma exceeds_of_stop {lines : List Bytes} (h : exceeds true limit e lines = true) :
    exceeds false limit e lines = true := by
  induction lines generalizing e with
  | nil => exact h
  | cons line lines ih =>
    simp only [exceeds, Bool.or_eq_true, Bool.and_eq_true] at h ⊢
    exact h.imp_right fun h => ⟨rfl, ih h.2⟩

lemma readLines_eq (limit e : ℕ) (done : Bool) (lines : List Bytes) :
    readLines limit e done lines = if exceeds false limit e lines then none
      else some (lines.foldl next e, done || lines.any isDone) := by
  induction lines generalizing e done with
  | nil => simp [readLines, exceeds]
  | cons line lines ih =>
    rw [readLines]
    by_cases hx : e + line.length > limit
    · simp [exceeds, hx]
    · rw [if_neg hx, ih]
      simp [exceeds, hx, next, isDone, Bool.or_assoc]

/-! ### Chunks -/

/-- The lines that are read of a stream in chunks, and what is pending at its end. -/
def cutLines (pending : Bytes) : List Bytes → List Bytes × Bytes
  | [] => ([], pending)
  | chunk :: chunks =>
    let cut := lineSplit pending chunk
    (cut.1 ++ (cutLines cut.2 chunks).1, (cutLines cut.2 chunks).2)

lemma parts_cutLines (pending : Bytes) (chunks : List Bytes) :
    Parts (lineSplit pending chunks.flatten).1 (cutLines pending chunks).1 ∧
      (lineSplit pending chunks.flatten).2 = (cutLines pending chunks).2 := by
  induction chunks generalizing pending with
  | nil => exact ⟨.refl _, rfl⟩
  | cons chunk chunks ih =>
    obtain ⟨hp, hr⟩ := parts_append pending chunk chunks.flatten
    obtain ⟨hp', hr'⟩ := ih (lineSplit pending chunk).2
    exact ⟨hp.trans (hp'.append _), hr.trans hr'⟩

lemma cutLines_parts (pending : Bytes) (chunks : List Bytes) :
    Parts (cutLines pending chunks).1 (byteSplit pending chunks.flatten).1 ∧
      (cutLines pending chunks).2 = (byteSplit pending chunks.flatten).2 := by
  induction chunks generalizing pending with
  | nil => exact ⟨.refl _, rfl⟩
  | cons chunk chunks ih =>
    obtain ⟨hp, hr⟩ := parts_byteSplit pending chunk
    obtain ⟨hp', hr'⟩ := ih (lineSplit pending chunk).2
    rw [List.flatten_cons, byteSplit_append, ← hr]
    exact ⟨.trans (hp.append_right _) (hp'.append _), hr'⟩

lemma length_le_lineSplit (line data : Bytes) :
    line.length ≤ ((lineSplit line data).1.headD (lineSplit line data).2).length := by
  fun_induction lineSplit line data with
  | case1 line => exact le_refl _
  | case2 | case3 | case4 => simp
  | case5 line b data h₁ h₂ ih =>
    rw [List.length_append] at ih
    omega

lemma length_le_byteSplit (line data : Bytes) :
    line.length ≤ ((byteSplit line data).1.headD (byteSplit line data).2).length := by
  induction data generalizing line with
  | nil => exact le_refl _
  | cons b data ih =>
    rw [byteSplit]
    split_ifs
    · simp
    · have := ih (line ++ [b])
      rw [List.length_append] at this
      omega

/-- What is pending is the beginning of the next line. -/
lemma length_le_cutLines (pending : Bytes) (chunks : List Bytes) :
    pending.length ≤ ((cutLines pending chunks).1.headD (cutLines pending chunks).2).length := by
  induction chunks generalizing pending with
  | nil => exact le_refl _
  | cons chunk chunks ih =>
    have hsplit := length_le_lineSplit pending chunk
    simp only [cutLines]
    cases hl : (lineSplit pending chunk).1 with
    | nil =>
      rw [hl, List.headD_nil] at hsplit
      exact hsplit.trans (ih _)
    | cons line lines =>
      rw [hl] at hsplit
      exact hsplit

lemma headD_length_le {stop : Bool} {lines : List Bytes} {rest : Bytes}
    (h : exceeds stop limit e lines = false) (hrest : lines = [] → rest.length ≤ limit) :
    (lines.headD rest).length ≤ limit := by
  cases lines with
  | nil => exact hrest rfl
  | cons line lines =>
    simp only [exceeds, Bool.or_eq_false_iff, decide_eq_false_iff_not] at h
    simp only [List.headD_cons]
    omega

lemma streamBody_cons {pending : Bytes} (h : Open pending) (chunk : Bytes)
    (chunks : List Bytes) : streamBody limit pending e (chunk :: chunks) =
      if exceeds false limit e (lineSplit pending chunk).1 then .oversized
      else if (lineSplit pending chunk).2.length > limit then .oversized
      else if (lineSplit pending chunk).1.any isDone then .completed
      else streamBody limit (lineSplit pending chunk).2
        ((lineSplit pending chunk).1.foldl next e) chunks := by
  rw [streamBody, popPending_splitlines h]
  dsimp only
  rw [readLines_eq]
  by_cases hx : exceeds false limit e (lineSplit pending chunk).1 = true
  · simp only [if_pos hx]
  · simp only [if_neg hx, Bool.false_or]

/-- A stream in which no event is too large is completed by its final line. -/
lemma streamBody_within {pending : Bytes} {chunks : List Bytes} (h : Open pending)
    (hx : exceeds false limit e (cutLines pending chunks).1 = false)
    (hrest : (cutLines pending chunks).2.length ≤ limit) : streamBody limit pending e chunks =
      if (cutLines pending chunks).1.any isDone then .completed else .ended := by
  induction chunks generalizing pending e with
  | nil => rfl
  | cons chunk chunks ih =>
    simp only [cutLines, exceeds_append, Bool.false_and, Bool.not_false, Bool.true_and,
      Bool.or_eq_false_iff] at hx
    have hpending : (lineSplit pending chunk).2.length ≤ limit :=
      (length_le_cutLines _ chunks).trans (headD_length_le hx.2 fun _ => hrest)
    rw [streamBody_cons h, if_neg (by simp [hx.1]), if_neg (by omega)]
    simp only [cutLines, List.any_append]
    by_cases hdone : (lineSplit pending chunk).1.any isDone = true
    · rw [if_pos hdone, hdone, Bool.true_or, if_pos rfl]
    · rw [if_neg hdone, ih (lineSplit_ends h chunk).2 hx.2 hrest]
      simp [hdone]

/-- A stream with an event that is too large before it is completed is cut off. -/
lemma streamBody_oversized {pending : Bytes} {chunks : List Bytes} (h : Open pending)
    (hp : pending.length ≤ limit)
    (hx : exceeds true limit e (cutLines pending chunks).1 = true ∨
      (cutLines pending chunks).1.any isDone = false ∧ limit < (cutLines pending chunks).2.length) :
    streamBody limit pending e chunks = .oversized := by
  induction chunks generalizing pending e with
  | nil =>
    rcases hx with hx | hx
    · cases hx
    · exact absurd hx.2 (not_lt.mpr hp)
  | cons chunk chunks ih =>
    rw [streamBody_cons h]
    split_ifs with hover hlong hdone
    · rfl
    · rfl
    · -- the final line is in this chunk, and nothing up to it is too large
      simp only [cutLines, exceeds_append, hdone, Bool.and_self, Bool.not_true, Bool.false_and,
        Bool.or_false, List.any_append, Bool.true_or, Bool.true_eq_false, false_and, or_false] at hx
      exact absurd (exceeds_of_stop hx) hover
    · rw [Bool.not_eq_true] at hdone
      refine ih (lineSplit_ends h chunk).2 (not_lt.mp hlong) ?_
      simpa [cutLines, exceeds_append, hdone, exceeds_stop hdone, hover] using hx

/-- Byte by byte, a stream is read only up to its final line. -/
lemma streamBody_bytes {pending data : Bytes} (h : Open pending)
    (hx : exceeds true limit e (byteSplit pending data).1 = false)
    (hrest : (byteSplit pending data).1.any isDone = false →
      (byteSplit pending data).2.length ≤ limit) :
    streamBody limit pending e (data.map fun b => [b]) ≠ .oversized := by
  induction data generalizing pending e with
  | nil => nofun
  | cons b data ih =>
    rw [List.map_cons, streamBody_cons h]
    by_cases hb : b = 10 ∨ b = 13
    · have hline : lineSplit pending [b] = ([pending ++ [b]], []) := by
        rcases hb with rfl | rfl <;> rfl
      rw [byteSplit, if_pos hb] at hx hrest
      simp only [exceeds, Bool.or_eq_false_iff, decide_eq_false_iff_not] at hx
      rw [hline]
      simp only [exceeds, hx.1, List.any_cons, List.any_nil, Bool.or_false, List.foldl_cons,
        List.foldl_nil, decide_false, Bool.and_false, Bool.false_eq_true, if_false,
        List.length_nil, Nat.not_lt_zero, gt_iff_lt]
      by_cases hdone : isDone (pending ++ [b]) = true
      · simp [hdone]
      · rw [if_neg hdone]
        rw [Bool.not_eq_true] at hdone
        refine ih (by simp [Open]) ?_ fun hany => hrest ?_
        · simpa [hdone] using hx.2
        · simp [hdone, hany]
    · obtain ⟨h₁, h₂⟩ := not_or.mp hb
      have hline : lineSplit pending [b] = ([], pending ++ [b]) := by
        rw [lineSplit.eq_def]
        simp [h₁, h₂, lineSplit]
      rw [byteSplit, if_neg hb] at hx hrest
      have hlong : ¬ limit < (pending ++ [b]).length :=
        not_lt.mpr ((length_le_byteSplit _ data).trans
          (headD_length_le hx fun hnil => hrest (by simp [hnil])))
      rw [hline]
      simp only [exceeds, Bool.false_eq_true, if_false, List.any_nil, List.foldl_nil, gt_iff_lt,
        if_neg hlong]
      exact ih (h.snoc h₁ h₂) hx hrest

/-! ### The verdict -/

/-- Read as a whole, the stream has an event that is too large. -/
def hasOversized (limit : ℕ) (data : Bytes) : Bool :=
  exceeds false limit 0 (lineSplit [] data).1 || limit < (lineSplit [] data).2.length

/-- Even with every line end for itself, an event is too large before the stream is completed. -/
def oversizedEarly (limit : ℕ) (data : Bytes) : Bool :=
  exceeds true limit 0 (byteSplit [] data).1 ||
    !(byteSplit [] data).1.any isDone && limit < (byteSplit [] data).2.length

/-- The verdict where no event is too large. -/
lemma judge_within {limit : ℕ} {chunks : List Bytes}
    (h : hasOversized limit chunks.flatten = false) : judge limit chunks =
      if (lineSplit [] chunks.flatten).1.any isDone then .completed else .ended := by
  obtain ⟨hp, hr⟩ := parts_cutLines [] chunks
  simp only [hasOversized, Bool.or_eq_false_iff, decide_eq_false_iff_not, not_lt] at h
  have hx : exceeds false limit 0 (cutLines [] chunks).1 = false := by
    rw [← Bool.not_eq_true]
    exact fun hx => Bool.false_ne_true (h.1.symm.trans (hp.exceeds hx))
  rw [judge, streamBody_within (by simp [Open]) hx (hr ▸ h.2), hp.any_isDone]

lemma judge_oversized {limit : ℕ} {chunks : List Bytes}
    (h : oversizedEarly limit chunks.flatten = true) : judge limit chunks = .oversized := by
  obtain ⟨hp, hr⟩ := cutLines_parts [] chunks
  simp only [oversizedEarly, Bool.or_eq_true, Bool.and_eq_true, Bool.not_eq_true',
    decide_eq_true_eq] at h
  refine streamBody_oversized (by simp [Open]) (Nat.zero_le _) ?_
  rw [← hp.any_isDone, hr]
  exact h.imp_left hp.exceeds

/-- In one chunk the stream is read to its end. -/
lemma judge_whole {limit : ℕ} {data : Bytes} (h : hasOversized limit data = true) :
    judge limit [data] = .oversized := by
  simp only [hasOversized, Bool.or_eq_true, decide_eq_true_eq] at h
  rw [judge, streamBody_cons (by simp [Open])]
  split_ifs with hx hlong
  · rfl
  · rfl
  · rcases h with h | h
    · exact absurd h hx
    · exact absurd h hlong
  · rcases h with h | h
    · exact absurd h hx
    · exact absurd h hlong

lemma judge_bytes {limit : ℕ} {data : Bytes} (h : oversizedEarly limit data = false) :
    judge limit (data.map fun b => [b]) ≠ .oversized := by
  simp only [oversizedEarly, Bool.or_eq_false_iff, Bool.and_eq_false_iff, Bool.not_eq_false',
    decide_eq_false_iff_not, not_lt] at h
  refine streamBody_bytes (by simp [Open]) h.1 fun hany => ?_
  rcases h.2 with h | h
  · exact absurd (hany.symm.trans h) (by decide)
  · exact h

/-- **When the verdict does not depend on the chunks**: exactly for the streams in which no event is
too large, and for those that are cut off before their final line however they are read. -/
theorem verdict_independent_iff (limit : ℕ) (data : Bytes) :
    (∀ chunks chunks' : List Bytes, chunks.flatten = data → chunks'.flatten = data →
      ((judge limit chunks).outcome = .success ↔ (judge limit chunks').outcome = .success) ∧
      (judge limit chunks = .oversized ↔ judge limit chunks' = .oversized)) ↔
    (hasOversized limit data = true → oversizedEarly limit data = true) := by
  constructor
  · intro h hover
    by_contra hearly
    rw [Bool.not_eq_true] at hearly
    have hflat : (data.map fun b => [b]).flatten = data := by
      rw [← List.flatMap_def]
      exact List.flatMap_singleton' data
    have hiff := (h [data] (data.map fun b => [b]) (by simp) hflat).2
    exact judge_bytes hearly (hiff.mp (judge_whole hover))
  · rintro h chunks chunks' rfl hflat
    by_cases hover : hasOversized limit chunks.flatten = true
    · have hearly := h hover
      rw [judge_oversized hearly, judge_oversized (hflat ▸ hearly)]
      exact ⟨.rfl, .rfl⟩
    · rw [Bool.not_eq_true] at hover
      rw [judge_within hover, judge_within (hflat ▸ hover), hflat]
      exact ⟨.rfl, .rfl⟩

/-- The final line, then a line of ten bytes. -/
def finalThenMore : Bytes := doneMark ++ [10] ++ [58, 58, 58, 58, 58, 58, 58, 58, 58, 10]

/-- With a limit of 16 bytes the stream is completed if the final line is a chunk of its own, and
cut off if it comes in one chunk. -/
theorem verdict_depends_on_chunks :
    judge 16 [doneMark ++ [10], [58, 58, 58, 58, 58, 58, 58, 58, 58, 10]] = .completed ∧
      judge 16 [finalThenMore] = .oversized ∧
      [doneMark ++ [10], [58, 58, 58, 58, 58, 58, 58, 58, 58, 10]].flatten =
        [finalThenMore].flatten := by
  decide

end ModelSwitch.Streaming

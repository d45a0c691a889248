import ModelSwitch.Program.StartTime

/-!
# Start times compare as instants

The identity of a container rests on the text of its start time, so two spellings have to be equal
texts exactly when they mean the same instant. An offset is a whole number of minutes, so the
fraction of a second passes through the conversion as it is, however long it is.
-/

namespace ModelSwitch.StartTime

open Calendar Fraction

/-! ### What a text denotes -/

/-- The instant that the groups denote, in seconds. -/
def Match.instant (m : Match) : Option ℚ :=
  (Date.make m.year m.month m.day).map fun date =>
    date.ordinal * 86400 + m.seconds - m.offset * 60 + value m.fraction

def instant (text : String) : Option ℚ := (isoInstant (Py.strip text)).bind Match.instant

/-- The whole seconds of a moment. -/
def Moment.seconds (t : Moment) : ℤ := t.date.ordinal * 86400 + (t.micros / micro : ℕ)

/-! ### Conversion -/

lemma momentAt_eq_some {date : Date} {micros : ℕ} {t : Moment} (h : momentAt date micros = some t) :
    t.date = date ∧ t.micros = micros := by
  simp only [momentAt, Option.dite_none_right_eq_some, Option.some.injEq] at h
  obtain ⟨-, rfl⟩ := h
  exact ⟨rfl, rfl⟩

/-- A shift by whole minutes moves the whole seconds and nothing else. -/
lemma Moment.seconds_toUtc {t utc : Moment} {offset : ℤ} (hoffset : offset < 1440)
    (h : t.toUtc offset = some utc) : utc.seconds = t.seconds - offset * 60 := by
  have hlt := t.micros_lt
  simp only [toUtc, Option.bind_eq_bind] at h
  split_ifs at h with hneg hday
  · obtain ⟨date, hdate, h⟩ := Option.bind_eq_some_iff.mp h
    obtain ⟨rfl, hmicros⟩ := momentAt_eq_some h
    have hordinal := Date.ordinal_previous hdate
    simp only [seconds, dayMicros, micro] at *
    omega
  · obtain ⟨hdate, hmicros⟩ := momentAt_eq_some h
    simp only [seconds, dayMicros, micro, hdate] at *
    omega
  · obtain ⟨date, hdate, h⟩ := Option.bind_eq_some_iff.mp h
    obtain ⟨rfl, hmicros⟩ := momentAt_eq_some h
    have hordinal := Date.ordinal_next hdate
    simp only [seconds, dayMicros, micro] at *
    omega

lemma microsOf_lt (ds : List Digit) : microsOf ds < micro := by
  have h₀ := (ds.getD 0 0).isLt
  have h₁ := (ds.getD 1 0).isLt
  have h₂ := (ds.getD 2 0).isLt
  have h₃ := (ds.getD 3 0).isLt
  have h₄ := (ds.getD 4 0).isLt
  have h₅ := (ds.getD 5 0).isLt
  simp only [microsOf, micro, List.range, List.range.loop, List.foldl]
  omega

lemma Match.instant_moment {m : Match} {ds : List Digit} {t : Moment} (h : m.moment ds = some t) :
    m.instant = some (t.seconds - m.offset * 60 + value m.fraction) ∧ m.offset < 1440 := by
  simp only [moment, Option.bind_eq_bind, Option.bind_eq_some_iff] at h
  obtain ⟨date, hdate, h⟩ := h
  split_ifs at h with hrange
  simp only [inRange, decide_eq_true_eq] at hrange
  obtain ⟨rfl, hmicros⟩ := momentAt_eq_some h
  have hsecond : t.micros / micro = m.seconds := by
    have := microsOf_lt ds
    rw [hmicros]
    simp only [micro] at this ⊢
    omega
  refine ⟨?_, hrange.2.2.2.2⟩
  rw [instant, hdate, Option.map_some, Moment.seconds, hsecond]
  push_cast
  rfl

/-- The moment and the fraction that an accepted text is printed from. -/
lemma canonicalUtc_ok {text out : String} (h : canonicalUtc text = .ok out) :
    ∃ (utc : Moment) (ds : List Digit),
      out = String.ofList (utc.text ++ fractionText (trim ds) ++ ['Z']) ∧
        instant text = some (utc.seconds + value ds) := by
  simp only [canonicalUtc] at h
  split at h
  · cases h
  · next m hm =>
    split at h
    · cases h
    · next parsed hparsed =>
      split at h
      · cases h
      · next utc hutc =>
        refine ⟨utc, m.fraction, (Except.ok.inj h).symm, ?_⟩
        obtain ⟨hinstant, hoffset⟩ := Match.instant_moment hparsed
        rw [instant, hm, Option.bind_some, hinstant, Moment.seconds_toUtc hoffset hutc]
        push_cast
        rfl

/-! ### Texts -/

lemma digitChar_inj {m n : ℕ} (hm : m < 10) (hn : n < 10) (h : m.digitChar = n.digitChar) :
    m = n := by
  interval_cases m <;> interval_cases n <;> first | rfl | exact absurd h (by decide)

/-- Two digits determine a number. -/
lemma eq_of_digits {m n : ℕ} (hm : m < 100) (hn : n < 100)
    (htens : (m / 10).digitChar = (n / 10).digitChar)
    (hones : (m % 10).digitChar = (n % 10).digitChar) : m = n := by
  have htens := digitChar_inj (by omega) (by omega) htens
  have hones := digitChar_inj (by omega) (by omega) hones
  omega

lemma yearText_inj {y y' : ℕ} (hy : y ≤ 9999) (hy' : y' ≤ 9999) (h : yearText y = yearText y') :
    y = y' := by
  simp only [yearText, two] at h
  split_ifs at h <;> simp only [List.cons_append, List.nil_append, List.cons.injEq, and_true,
    reduceCtorEq, and_false] at h
  · exact digitChar_inj (by omega) (by omega) h
  · exact eq_of_digits (by omega) (by omega) h.1 h.2
  · have hhundreds := digitChar_inj (by omega) (by omega) h.1
    have hrest := eq_of_digits (by omega) (by omega) h.2.1 h.2.2
    omega
  · have hhundreds := eq_of_digits (by omega) (by omega) h.1 h.2.1
    have hrest := eq_of_digits (by omega) (by omega) h.2.2.1 h.2.2.2
    omega

lemma digitChar_ne {n : ℕ} (hn : n < 10) : '-' ≠ n.digitChar := by
  interval_cases n <;> decide

lemma dash_notMem_yearText {y : ℕ} (hy : y ≤ 9999) : '-' ∉ yearText y := by
  simp only [yearText, two]
  split_ifs <;> simp only [List.cons_append, List.nil_append, List.mem_cons, List.not_mem_nil,
    or_false, not_or]
  · exact digitChar_ne (by omega)
  · exact ⟨digitChar_ne (by omega), digitChar_ne (by omega)⟩
  · exact ⟨digitChar_ne (by omega), digitChar_ne (by omega), digitChar_ne (by omega)⟩
  · exact ⟨digitChar_ne (by omega), digitChar_ne (by omega), digitChar_ne (by omega),
      digitChar_ne (by omega)⟩

/-- What stands before the first dash. -/
lemma append_dash_inj {u v r s : List Char} (hu : '-' ∉ u) (hv : '-' ∉ v)
    (h : u ++ '-' :: r = v ++ '-' :: s) : u = v ∧ r = s := by
  induction u generalizing v with
  | nil =>
    cases v with
    | nil => exact ⟨rfl, (List.cons.inj h).2⟩
    | cons c v => exact absurd (List.cons.inj h).1 (List.ne_of_not_mem_cons hv)
  | cons c u ih =>
    cases v with
    | nil => exact absurd (List.cons.inj h).1.symm (List.ne_of_not_mem_cons hu)
    | cons c' v =>
      obtain ⟨rfl, htail⟩ := List.cons.inj h
      obtain ⟨rfl, hrest⟩ := ih (List.not_mem_of_not_mem_cons hu) (List.not_mem_of_not_mem_cons hv)
        htail
      exact ⟨rfl, hrest⟩

lemma daysInMonth_le (y m : ℕ) : daysInMonth y m ≤ 31 := by
  unfold daysInMonth
  split_ifs <;> decide

/-- The printed time, with anything behind it, determines the second. -/
lemma Moment.text_inj {t t' : Moment} {rest rest' : List Char}
    (h : t.text ++ rest = t'.text ++ rest') : t.seconds = t'.seconds ∧ rest = rest' := by
  have hlt := t.micros_lt
  have hlt' := t'.micros_lt
  have hmonth := t.date.month_range
  have hmonth' := t'.date.month_range
  have hday := t.date.day_range.2.trans (daysInMonth_le _ _)
  have hday' := t'.date.day_range.2.trans (daysInMonth_le _ _)
  simp only [text, two, List.append_assoc, List.cons_append, List.nil_append] at h
  obtain ⟨hy, h⟩ := append_dash_inj (dash_notMem_yearText t.date.year_range.2)
    (dash_notMem_yearText t'.date.year_range.2) h
  simp only [List.cons.injEq, true_and] at h
  obtain ⟨hm, hm', hd, hd', hh, hh', hmin, hmin', hs, hs', hrest⟩ := h
  have hy := yearText_inj t.date.year_range.2 t'.date.year_range.2 hy
  have hm := eq_of_digits (by omega) (by omega) hm hm'
  have hd := eq_of_digits (by omega) (by omega) hd hd'
  simp only [dayMicros, micro] at *
  have hh := eq_of_digits (by omega) (by omega) hh hh'
  have hmin := eq_of_digits (by omega) (by omega) hmin hmin'
  have hs := eq_of_digits (by omega) (by omega) hs hs'
  refine ⟨?_, hrest⟩
  simp only [seconds, Date.ordinal, hy, hm, hd, micro]
  omega

lemma fractionText_inj {ds es : List Digit} (h : fractionText ds = fractionText es) : ds = es := by
  have hinj : Function.Injective fun d : Digit => d.val.digitChar :=
    fun d e hde => Fin.ext (digitChar_inj d.isLt e.isLt hde)
  simp only [fractionText] at h
  split_ifs at h with hds hes hes
  · rw [hds, hes]
  · exact List.map_injective_iff.mpr hinj (List.cons.inj h).2

/-- Equal instants have the same whole seconds. -/
lemma seconds_eq {s s' : ℤ} {ds es : List Digit} (h : (s : ℚ) + value ds = s' + value es) :
    s = s' ∧ value ds = value es := by
  have h₁ : (s : ℚ) < s' + 1 := by linarith [value_nonneg ds, value_lt_one es]
  have h₂ : (s' : ℚ) < s + 1 := by linarith [value_nonneg es, value_lt_one ds]
  have h₁ : s < s' + 1 := by exact_mod_cast h₁
  have h₂ : s' < s + 1 := by exact_mod_cast h₂
  obtain rfl : s = s' := by omega
  exact ⟨rfl, add_left_cancel h⟩

/-- Moments of the same second are printed alike. -/
lemma Moment.text_eq {t t' : Moment} (h : t.seconds = t'.seconds) : t.text = t'.text := by
  have hlt := t.micros_lt
  have hlt' := t'.micros_lt
  simp only [seconds, dayMicros, micro] at h hlt hlt'
  have hdate : t.date = t'.date := Date.ordinal_injective (by omega)
  have hsecond : t.micros / micro = t'.micros / micro := by
    simp only [micro]
    omega
  simp only [text, hdate, hsecond]

/-- **Start times compare as instants.** -/
theorem canonicalUtc_eq_iff (a b outA outB : String) (ha : canonicalUtc a = .ok outA)
    (hb : canonicalUtc b = .ok outB) :
    ∃ qa qb, instant a = some qa ∧ instant b = some qb ∧ (outA = outB ↔ qa = qb) := by
  obtain ⟨t, ds, rfl, hqa⟩ := canonicalUtc_ok ha
  obtain ⟨t', es, rfl, hqb⟩ := canonicalUtc_ok hb
  refine ⟨_, _, hqa, hqb, ?_, ?_⟩
  · intro h
    have h := String.ofList_injective h
    rw [List.append_assoc, List.append_assoc] at h
    obtain ⟨hseconds, hrest⟩ := Moment.text_inj h
    have hds := fractionText_inj (List.append_cancel_right hrest)
    rw [hseconds, trim_eq_trim_iff.mp hds]
  · intro h
    obtain ⟨hseconds, hvalue⟩ := seconds_eq h
    rw [Moment.text_eq hseconds, trim_eq_trim_iff.mpr hvalue]

/-- Half past midnight of New Year's Day, one hour ahead, is half past eleven of the year before. -/
theorem canonicalUtc_eq_iff_newYear :
    canonicalUtc "2026-01-01T00:30:00.1200+01:00" = .ok "2025-12-31T23:30:00.12Z" ∧
    canonicalUtc " 2025-12-31T23:30:00.12Z" = .ok "2025-12-31T23:30:00.12Z" ∧
    instant "2026-01-01T00:30:00.1200+01:00" = instant " 2025-12-31T23:30:00.12Z" := by
  have ha : canonicalUtc "2026-01-01T00:30:00.1200+01:00" = .ok "2025-12-31T23:30:00.12Z" := by
    decide +kernel
  have hb : canonicalUtc " 2025-12-31T23:30:00.12Z" = .ok "2025-12-31T23:30:00.12Z" := by
    decide +kernel
  obtain ⟨qa, qb, hqa, hqb, h⟩ := canonicalUtc_eq_iff _ _ _ _ ha hb
  exact ⟨ha, hb, by rw [hqa, hqb, h.mp rfl]⟩

end ModelSwitch.StartTime

import MetricBatch.Proofs.Backend.Parameters
import MetricBatch.Proofs.Number.Whole
import MetricBatch.Proofs.Time.Timestamp

namespace MetricBatch

open Binary64

/-- Both ends have a year of four digits, and the step is a whole number of 53 bits. -/
structure QueryRange.IsExact (r : QueryRange) : Prop where
  start : r.start.WithinYears 0 9999
  finish : r.finish.WithinYears 0 9999
  step_whole : r.step.nanos = 0
  step_lt : r.step.seconds < wholeBound

namespace QueryRange.IsExact

variable {r r' : QueryRange}

theorem step_eq (h : r.IsExact) : r.step = .ofSeconds r.step.seconds := by
  obtain ⟨-, -, hwhole, -⟩ := h
  obtain ⟨start, finish, seconds, nanos, hnanos⟩ := r
  subst hwhole
  rfl

theorem secondsText_step (h : r.IsExact) : r.step.secondsText = toString r.step.seconds := by
  rw [h.step_eq, Span.secondsText_ofSeconds h.step_lt]
  rfl

theorem step_of_secondsText (h : r.IsExact) (h' : r'.IsExact)
    (htext : r.step.secondsText = r'.step.secondsText) : r.step = r'.step := by
  rw [h.secondsText_step, h'.secondsText_step, Nat.toString_eq_ofList_toDigits,
    Nat.toString_eq_ofList_toDigits, String.ofList_inj] at htext
  have hvalue := congrArg digitsValue htext
  rw [digitsValue_toDigits, digitsValue_toDigits] at hvalue
  rw [h.step_eq, h'.step_eq, hvalue]

end QueryRange.IsExact

theorem Moment.isToldBy_text {m : Moment} (h : m.WithinYears 0 9999) : m.IsToldBy m.text.toList := by
  rw [Moment.text, String.toList_ofList]
  exact Moment.isToldBy_chars h

/-- Moments with one text are the same. -/
theorem Moment.text_inj {m m' : Moment} (h : m.WithinYears 0 9999) (h' : m'.WithinYears 0 9999)
    (htext : m.text = m'.text) : m = m' :=
  (Moment.isToldBy_text h).unique (htext ▸ Moment.isToldBy_text h')

theorem Url.parameter?_of_range {u : Url} {text start finish step : String} (h : u.parameters =
    [("query", text), ("start", start), ("end", finish), ("step", step)]) :
    u.parameter? "start" = some start ∧ u.parameter? "end" = some finish ∧
      u.parameter? "step" = some step := by
  rw [parameter?, parameter?, parameter?, h]
  exact ⟨rfl, rfl, rfl⟩

namespace Query

variable {q q' : Query} {r r' : QueryRange}

theorem parameters_range (h : q.range = some r) : q.parameters =
    [("query", q.text), ("start", r.start.text), ("end", r.finish.text),
      ("step", r.step.secondsText)] := by
  rw [parameters, h]

theorem range_of_parameters (h : q.range = some r) (h' : q'.range = some r') (hr : r.IsExact)
    (hr' : r'.IsExact) (hparameters : q.parameters = q'.parameters) : r = r' := by
  rw [parameters_range h, parameters_range h'] at hparameters
  simp only [List.cons.injEq, Prod.mk.injEq, true_and, and_true] at hparameters
  obtain ⟨-, hstart, hfinish, hstep⟩ := hparameters
  have hstart := Moment.text_inj hr.start hr'.start hstart
  have hfinish := Moment.text_inj hr.finish hr'.finish hfinish
  have hstep := hr.step_of_secondsText hr' hstep
  cases r
  cases r'
  simp only at hstart hfinish hstep
  rw [hstart, hfinish, hstep]

end Query

namespace Backend

/-- The parameters of a range, as they are read from the URL of its request. Both ends are timestamps in
universal time that are read as the moments they were, with all of their nanoseconds and the fewest
digits for them, and the step is the numeral of its seconds. So two requests to one backend have the
same URL only if their ranges are equal. -/
theorem range_survives (c : Client) {q : Query} {r : QueryRange} (hrange : q.range = some r)
    (hexact : r.IsExact) :
    let url := (q.request c.url).url
    (∃ text, url.parameter? "start" = some text ∧ r.start.IsToldBy text.toList) ∧
    (∃ text, url.parameter? "end" = some text ∧ r.finish.IsToldBy text.toList) ∧
    (∃ text, url.parameter? "step" = some text ∧ text = toString r.step.seconds ∧
      ∀ ch ∈ text.toList, ch.isDigit = true) ∧
    ∀ (q' : Query) (r' : QueryRange), q'.range = some r' → r'.IsExact →
      (q'.request c.url).url.text = url.text → r' = r := by
  intro url
  have hparameters : url.parameters = q.parameters := Url.parameters_withParameters ..
  rw [Query.parameters_range hrange] at hparameters
  obtain ⟨hstart, hfinish, hstep⟩ := Url.parameter?_of_range hparameters
  have hnumeral := hexact.secondsText_step
  refine ⟨⟨_, hstart, Moment.isToldBy_text hexact.start⟩,
    ⟨_, hfinish, Moment.isToldBy_text hexact.finish⟩, ⟨_, hstep, hnumeral, ?_⟩, ?_⟩
  · rw [hnumeral, Nat.toString_eq_ofList_toDigits, String.toList_ofList]
    exact (Json.digits_toDigits _).all
  · intro q' r' hrange' hexact' htext
    have hpath : q'.path = q.path := by rw [Query.path, Query.path, hrange, hrange']; rfl
    have hurl : url = (c.url q.path).withParameters q.parameters := rfl
    rw [hurl, Query.request, Request.post, hpath] at htext
    exact Query.range_of_parameters hrange' hrange hexact' hexact
      (Url.withParameters_text_inj.mp htext)

/-- A range from a leap second before 1970 to the last second of the year 9999, and one whose end is a
nanosecond later. -/
theorem range_survives_leap :
    let c : Client := ⟨⟨"http", some ⟨"", none, .name "x", none⟩, .segments ["a"], none, none⟩, none⟩
    let start : Moment := ⟨-1, 1500000000, .inr (by decide)⟩
    let early : QueryRange := ⟨start, ⟨253402300799, 1, .inl (by decide)⟩, .ofSeconds 60⟩
    let late : QueryRange := ⟨start, ⟨253402300799, 2, .inl (by decide)⟩, .ofSeconds 60⟩
    early.IsExact ∧ late.IsExact ∧
      (∃ text, ((⟨"up", some early⟩ : Query).request c.url).url.parameter? "start" = some text ∧
        start.IsToldBy text.toList) ∧
      ((⟨"up", some late⟩ : Query).request c.url).url.text ≠
        ((⟨"up", some early⟩ : Query).request c.url).url.text := by
  intro c start early late
  have hearly : early.IsExact := ⟨Moment.withinYears_iff.mpr (by decide),
    Moment.withinYears_iff.mpr (by decide), rfl, by decide⟩
  have hlate : late.IsExact := ⟨Moment.withinYears_iff.mpr (by decide),
    Moment.withinYears_iff.mpr (by decide), rfl, by decide⟩
  obtain ⟨htold, -, -, hinj⟩ := range_survives c (q := ⟨"up", some early⟩) rfl hearly
  exact ⟨hearly, hlate, htold, fun htext => absurd (hinj _ late rfl hlate htext) (by decide)⟩

end Backend

end MetricBatch

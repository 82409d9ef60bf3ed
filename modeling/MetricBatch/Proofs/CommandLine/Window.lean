import MetricBatch.Proofs.CommandLine.Output

namespace MetricBatch

namespace Moment

/-- Nanoseconds since 1970. Those of a leap second are counted on. -/
def instant (m : Moment) : Int := m.seconds * billion + m.nanos

/-- A moment that has a date. -/
def IsDated (m : Moment) : Prop := earliest ≤ m.seconds

instance (m : Moment) : Decidable m.IsDated := inferInstanceAs (Decidable (earliest ≤ m.seconds))

/-- The moment that one goes back from: not within a leap second, but at the same instant. -/
theorem smooth (m : Moment) : ∃ s : Int, s = (if m.nanos < billion then m.seconds else m.seconds + 1) ∧
    s * billion + (m.nanos % billion : Nat) = m.instant := by
  obtain ⟨s, n, hn⟩ := m
  have hbillion : billion = 1000000000 := rfl
  refine ⟨_, rfl, ?_⟩
  unfold instant
  dsimp only
  rw [hbillion] at hn ⊢
  split <;> omega

/-- To go back is to subtract, unless there is nothing so early. -/
theorem before?_cases {m : Moment} (h : m.IsDated) (seconds : Nat) :
    (∃ start, m.before? seconds = some start ∧ start.IsDated ∧
      start.instant + seconds * billion = m.instant) ∨
    m.before? seconds = none ∧ m.instant < (earliest + seconds) * billion := by
  have hbillion : (billion : Int) = 1000000000 := rfl
  by_cases hzero : seconds = 0
  · subst hzero
    refine .inl ⟨m, ?_, h, by simp⟩
    have hlate : ¬m.seconds < earliest := Int.not_lt.mpr h
    simp [before?, of?, hlate, m.nanos_lt]
  · obtain ⟨s, hs, hinstant⟩ := m.smooth
    have hnanos : m.nanos % billion < billion := Nat.mod_lt _ (by decide)
    have hbefore : m.before? seconds =
        if s - seconds < earliest then none else of? (s - seconds) (m.nanos % billion) := by
      simp only [before?, hzero, or_false, if_false, hs]
    rw [hbefore]
    by_cases hearly : s - seconds < earliest
    · refine .inr ⟨if_pos hearly, ?_⟩
      rw [← hinstant, hbillion]
      omega
    · refine .inl ⟨⟨s - seconds, m.nanos % billion, .inl hnanos⟩, ?_, Int.not_lt.mp hearly, ?_⟩
      · rw [if_neg hearly, of?, dif_pos (.inl hnanos)]
      · rw [← hinstant, instant]
        dsimp only
        rw [Int.sub_mul]
        omega

theorem IsDated.earliest_le {m : Moment} (h : m.IsDated) : earliest * billion ≤ m.instant := by
  have hseconds : earliest * (billion : Int) ≤ m.seconds * billion :=
    Int.mul_le_mul_of_nonneg_right h (by decide)
  unfold instant
  omega

end Moment

namespace CommandLine

open Arguments

/-- What becomes of a range in the arguments. -/
inductive Windowed (step seconds : Nat) (now : Moment) : Except WindowError (Option QueryRange) → Prop
  | zeroStep : step = 0 → Windowed step seconds now (.error .zeroStep)
  | tooManySeconds : 0 < step → maxSigned < seconds →
    Windowed step seconds now (.error .tooManySeconds)
  | tooLong : 0 < step → seconds ≤ maxSigned → maxSigned < seconds * 1000 →
    Windowed step seconds now (.error .tooLong)
  | beforeEarliest : 0 < step → seconds * 1000 ≤ maxSigned →
    now.instant < (Moment.earliest + seconds) * billion →
    Windowed step seconds now (.error .beforeEarliest)
  | range (start : Moment) : 0 < step → seconds * 1000 ≤ maxSigned → start.IsDated →
    start.instant + seconds * billion = now.instant →
    Windowed step seconds now (.ok (some ⟨start, now, .ofSeconds step⟩))

theorem windowed {a : Arguments} {now : Moment} (hnow : now.IsDated) {seconds : Nat}
    (hrange : a.range = some seconds) :
    Windowed (a.step.getD defaultStep) seconds now (a.window now) := by
  rw [window, hrange]
  dsimp only
  split
  · rename_i hstep
    exact .zeroStep hstep
  · rename_i hstep
    have hpos := Nat.pos_of_ne_zero hstep
    split
    · rename_i hmany
      exact .tooManySeconds hpos hmany
    · rename_i hfew
      split
      · rename_i hlong
        exact .tooLong hpos (Nat.not_lt.mp hfew) hlong
      · rename_i hshort
        have hfits := Nat.not_lt.mp hshort
        rcases Moment.before?_cases hnow seconds with ⟨start, hstart, hdated, hlength⟩ | ⟨hnone, hearly⟩
        · rw [hstart]
          exact .range start hpos hfits hdated hlength
        · rw [hnone]
          exact .beforeEarliest hpos hfits hearly

/-- The exit status of an abnormal end. -/
def abnormal : Nat := 101

theorem windowReport_abnormal (e : WindowError) :
    (windowReport e).exit = abnormal ↔ e = .beforeEarliest := by
  cases e <;> simp [windowReport, failure, abnormal]

theorem runQueries_normal (w : Surroundings) (a : Arguments) (config : Config) (client : Client)
    (range : Option QueryRange) : (runQueries w a config client range).exit ≠ abnormal := by
  unfold runQueries
  dsimp only
  split <;> decide

theorem runArguments_abnormal (w : Surroundings) (a : Arguments) :
    (runArguments w a).exit = abnormal ↔ ∃ config client,
      Config.load w.files a.config w.defaultConfig w.environment a.settings = .ok config ∧
      config.client = .ok client ∧ a.window w.now = .error .beforeEarliest := by
  unfold runArguments
  cases hload : Config.load w.files a.config w.defaultConfig w.environment a.settings with
  | error e => simp [failure, abnormal]
  | ok config =>
    dsimp only
    cases hclient : config.client with
    | error e => simp [failure, abnormal, hclient]
    | ok client =>
      dsimp only
      cases a.window w.now with
      | error e => simp [windowReport_abnormal, hclient]
      | ok range => simp [runQueries_normal]

/-- The program ends abnormally for one reason only. -/
theorem run_abnormal (w : Surroundings) (args : List String) :
    (run w args).exit = abnormal ↔ ∃ a config client, Arguments.read w.environment args = .ok a ∧
      Config.load w.files a.config w.defaultConfig w.environment a.settings = .ok config ∧
      config.client = .ok client ∧ a.window w.now = .error .beforeEarliest := by
  unfold run
  cases Arguments.read w.environment args with
  | error stop => cases stop <;> simp [abnormal, usageReport]
  | ok a => simp [runArguments_abnormal]

/-- A range is refused for a step of zero, or if it has more milliseconds than 64 bits can count. If it is
not refused and goes back to a date, the window is as long as it says, with its step, and ends now. But
it is not refused for going back too far: then, and for no other reason at all, the program ends
abnormally. -/
theorem range_window {a : Arguments} {now : Moment} (hnow : now.IsDated) {seconds : Nat}
    (hrange : a.range = some seconds) :
    let step := a.step.getD defaultStep
    (a.window now = .error .zeroStep ↔ step = 0) ∧
    ((a.window now = .error .tooManySeconds ∨ a.window now = .error .tooLong) ↔
      0 < step ∧ maxSigned < seconds * 1000) ∧
    (a.window now = .error .beforeEarliest ↔ 0 < step ∧ seconds * 1000 ≤ maxSigned ∧
      now.instant - seconds * billion < Moment.earliest * billion) ∧
    ((∃ start : Moment, start.IsDated ∧ now.instant - start.instant = seconds * billion ∧
        a.window now = .ok (some ⟨start, now, .ofSeconds step⟩)) ↔
      0 < step ∧ seconds * 1000 ≤ maxSigned ∧
        Moment.earliest * billion ≤ now.instant - seconds * billion) ∧
    ∀ (w : Surroundings) (args : List String), (run w args).exit = abnormal ↔
      ∃ b config client, Arguments.read w.environment args = .ok b ∧
        Config.load w.files b.config w.defaultConfig w.environment b.settings = .ok config ∧
        config.client = .ok client ∧ b.window w.now = .error .beforeEarliest := by
  intro step
  have hwindow : Windowed step seconds now (a.window now) := windowed hnow hrange
  generalize a.window now = outcome at hwindow
  have hsplit : (Moment.earliest + seconds) * (billion : Int) =
      Moment.earliest * billion + seconds * billion := Int.add_mul ..
  cases hwindow with
  | zeroStep hstep => exact ⟨by simp [hstep], by simp [hstep], by simp [hstep], by simp [hstep],
      run_abnormal⟩
  | tooManySeconds hstep hmany =>
    exact ⟨by simp; omega, by simp; omega, by simp; omega, by simp; omega, run_abnormal⟩
  | tooLong hstep hfew hlong =>
    exact ⟨by simp; omega, by simp; omega, by simp; omega, by simp; omega, run_abnormal⟩
  | beforeEarliest hstep hfits hearly =>
    exact ⟨by simp; omega, by simp; omega, by simp; omega, by simp; omega, run_abnormal⟩
  | range start hstep hfits hdated hlength =>
    have hlate := hdated.earliest_le
    exact ⟨by simp; omega, by simp; omega, by simp; omega,
      ⟨fun _ => ⟨hstep, hfits, by omega⟩, fun _ => ⟨start, hdated, by omega, rfl⟩⟩, run_abnormal⟩

/-- The beginning of 2026. -/
def newYear : Moment := ⟨1767225600, 0, .inl (by decide)⟩

def hourly : Arguments :=
  { Arguments.none with queries := ["up"], range := some 3600, step := some 30 }

theorem range_window_hourly :
    newYear.IsDated ∧ ∃ start : Moment, newYear.instant - start.instant = 3600 * billion ∧
      hourly.window newYear = .ok (some ⟨start, newYear, .ofSeconds 30⟩) := by
  have hnow : newYear.IsDated := by decide
  obtain ⟨-, -, -, hwindow, -⟩ := range_window (a := hourly) hnow rfl
  obtain ⟨start, -, hlength, hstart⟩ := hwindow.mpr (by decide)
  exact ⟨hnow, start, hlength, hstart⟩

/-- A window of nine trillion seconds is longer than there are dates before now. It is not refused. -/
theorem range_window_aborts :
    let w : Surroundings := { silent with now := newYear }
    let args := ["--endpoint", "http://[::1]", "--range", "9000000000000", "up"]
    newYear.IsDated ∧
      newYear.instant - 9000000000000 * billion < Moment.earliest * billion ∧
      run w args = ⟨abnormal, "", ""⟩ ∧ run w args ≠ failure "--range is too large" [] := by
  refine ⟨by decide, by decide, by decide +kernel, by decide +kernel⟩

end CommandLine

end MetricBatch

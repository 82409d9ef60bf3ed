import MetricBatch.Proofs.Merges
import MetricBatch.Proofs.Session.Runs
import MetricBatch.Reports
import MetricBatch.Session.Interleaving

namespace MetricBatch

namespace Reporter

variable {r : Reporter} {report : Report}

theorem reported_next (h : r.reports[r.made]? = some report) :
    r.next.reported = r.reported ++ report.error?.toList := by
  cases he : report.error? with
  | none => simp [reported, next, List.take_add_one, h, he]
  | some error => simp [reported, next, List.take_add_one, h, he]

theorem warned_next : r.next.warned = r.next.reported := by simp [warned, next]

theorem warned_tell (h : r.reports[r.made]? = some report) :
    ({ r with told := true } : Reporter).warned = r.reported ++ report.error?.toList :=
  reported_next h

end Reporter

/-- Each of these lists begins as the ones before it. -/
def Lengthens (lists : List (List QueryError)) : Prop := lists.Pairwise (· <+: ·)

theorem Lengthens.extend {lists : List (List QueryError)} {l l' : List QueryError}
    (h : Lengthens (lists ++ [l])) (hl : l <+: l') : Lengthens (lists ++ [l']) := by
  obtain ⟨hlists, -, hlast⟩ := List.pairwise_append.mp h
  refine List.pairwise_append.mpr ⟨hlists, List.pairwise_singleton _ _, fun c hc d hd => ?_⟩
  obtain rfl := List.mem_singleton.mp hd
  exact (hlast c hc l (List.mem_singleton_self l)).trans hl

theorem Lengthens.again {lists : List (List QueryError)} {l : List QueryError}
    (h : Lengthens (lists ++ [l])) : Lengthens (lists ++ [l] ++ [l]) := by
  refine List.pairwise_append.mpr ⟨h, List.pairwise_singleton _ _, fun c hc d hd => ?_⟩
  obtain rfl := List.mem_singleton.mp hd
  rcases List.mem_append.mp hc with hm | hm
  · exact (List.pairwise_append.mp h).2.2 c hm d (List.mem_singleton_self d)
  · exact List.mem_singleton.mp hm ▸ List.prefix_rfl

/-- What somebody has seen is so of a log with these entries. -/
def Glance.Shows (entries : List QueryError) : Glance → Prop
  | .errors seen => seen = entries
  | .size n => n = entries.length
  | .isEmpty b => b = true ↔ entries = []

theorem Look.glance_shows (log : ErrorLog) (what : Look) :
    (what.glance log).Shows log.entries := by
  cases what with
  | errors | size => rfl
  | isEmpty => exact List.isEmpty_iff

namespace SharedLog

variable {programs : List (List Report)} {x : SharedLog}

/-- The log is a merge of what has been reported, and so are the warnings of what has been told. -/
structure Faithful (programs : List (List Report)) (x : SharedLog) : Prop where
  programs : x.reporters.map (·.reports) = programs
  made : ∀ r ∈ x.reporters, r.made ≤ r.reports.length
  entries : Merges (x.reporters.map Reporter.reported) x.log.entries
  warnings : Merges (x.reporters.map Reporter.warned) x.warnings

theorem faithful_new (programs : List (List Report)) : (new programs).Faithful programs := by
  refine ⟨?_, ?_, .nil ?_, .nil ?_⟩
  · simp [new, Reporter.new, Function.comp_def]
  all_goals simp [new, Reporter.new, Reporter.reported, Reporter.warned]

/-- A reporter adds these entries and tells of these failures. -/
theorem Faithful.set (h : x.Faithful programs) {i : Nat} {r : Reporter}
    (hi : x.reporters[i]? = some r) (r' : Reporter) (log : ErrorLog)
    (entries warnings : List QueryError) (hreports : r'.reports = r.reports)
    (hmade : r'.made ≤ r'.reports.length)
    (hentries : log.entries = x.log.entries ++ entries)
    (hreported : r'.reported = r.reported ++ entries)
    (hwarned : r'.warned = r.warned ++ warnings) :
    ({ x with log, warnings := x.warnings ++ warnings }.setReporter i r').Faithful programs := by
  refine ⟨?_, ?_, ?_, ?_⟩
  · rw [← h.programs]
    exact Session.map_set_same hi hreports
  · intro q hq
    rcases List.mem_or_eq_of_mem_set hq with hm | rfl
    · exact h.made q hm
    · exact hmade
  · simp only [setReporter, hentries]
    exact h.entries.set hi hreported
  · exact h.warnings.set hi hwarned

theorem Faithful.proceed (h : x.Faithful programs) (i : Nat) : (x.proceed i).Faithful programs := by
  unfold SharedLog.proceed
  split
  · exact h
  rename_i r hi
  split
  · exact h
  rename_i report hreport
  have hlt : r.made < r.reports.length := (List.getElem?_eq_some_iff.mp hreport).1
  have hreported := Reporter.reported_next hreport
  split
  · rename_i hnone
    rw [hnone, Option.toList_none] at hreported
    have hset := h.set hi r.next x.log [] [] rfl hlt (by simp) hreported
      (by rw [Reporter.warned_next]; simp [Reporter.warned, hreported])
    simpa using hset
  · rename_i error hsome
    rw [hsome, Option.toList_some] at hreported
    split
    · rename_i htold
      have hset := h.set hi r.next (x.log.report (some error)) [error] [] rfl hlt rfl hreported
        (by rw [Reporter.warned_next]; simp [Reporter.warned, htold])
      simpa using hset
    · rename_i htold
      have hwarned := Reporter.warned_tell hreport
      rw [hsome, Option.toList_some] at hwarned
      exact h.set hi { r with told := true } x.log [] [error] rfl
        (h.made r (List.mem_of_getElem? hi)) (by simp) (by simp [Reporter.reported])
        (by simpa [Reporter.warned, htold] using hwarned)

theorem Faithful.act (h : x.Faithful programs) (a : Action) : (x.act a).Faithful programs := by
  cases a with
  | proceed i => exact h.proceed i
  | look => exact ⟨h.programs, h.made, h.entries, h.warnings⟩

theorem faithful_after (programs : List (List Report)) (actions : List Action) :
    (after programs actions).Faithful programs := by
  induction actions using List.reverseRecOn with
  | nil => exact faithful_new programs
  | append_singleton rest a ih =>
    rw [after, List.foldl_append]
    exact ih.act a

/-- How far a reporter has come. -/
def progress (r : Reporter) : Nat := 2 * r.made + r.told.toNat

/-- A step brings a reporter that has something to report further. -/
theorem proceed_progress {i : Nat} {r : Reporter} (hi : x.reporters[i]? = some r)
    (hlt : r.made < r.reports.length) :
    ∃ r', (x.proceed i).reporters[i]? = some r' ∧ r'.reports = r.reports ∧
      progress r < progress r' := by
  have hplace : i < x.reporters.length := (List.getElem?_eq_some_iff.mp hi).1
  have hset (y : SharedLog) (r' : Reporter) (hy : y.reporters = x.reporters) :
      (y.setReporter i r').reporters[i]? = some r' := by
    rw [setReporter, hy]
    exact List.getElem?_set_self hplace
  have hnext : progress r < progress r.next := by
    have hone := Bool.toNat_le r.told
    simp only [progress, Reporter.next, Bool.toNat_false]
    omega
  simp only [proceed, hi, List.getElem?_eq_getElem hlt]
  cases he : r.reports[r.made].error? with
  | none => exact ⟨r.next, hset _ _ rfl, rfl, hnext⟩
  | some error =>
    cases ht : r.told with
    | true => exact ⟨r.next, hset _ _ rfl, rfl, hnext⟩
    | false => exact ⟨{ r with told := true }, hset _ _ rfl, rfl, by simp [progress, ht]⟩

/-- A report is made with two steps at most, whatever the others do. -/
theorem proceed_twice {i : Nat} {r : Reporter} (hi : x.reporters[i]? = some r)
    (hlt : r.made < r.reports.length) :
    ∃ r', ((x.proceed i).proceed i).reporters[i]? = some r' ∧ r.made < r'.made := by
  obtain ⟨r₁, hi₁, hreports, hfirst⟩ := proceed_progress hi hlt
  by_cases hmore : r₁.made < r₁.reports.length
  · obtain ⟨r₂, hi₂, _, hsecond⟩ := proceed_progress hi₁ hmore
    have hone := Bool.toNat_le r₂.told
    refine ⟨r₂, hi₂, ?_⟩
    simp only [progress] at hfirst hsecond
    omega
  · have hdone : (x.proceed i).proceed i = x.proceed i := by
      have hnone : r₁.reports[r₁.made]? = none := List.getElem?_eq_none (Nat.le_of_not_lt hmore)
      rw [proceed, hi₁]
      simp only [hnone]
    refine ⟨r₁, by rw [hdone, hi₁], ?_⟩
    rw [hreports] at hmore
    omega

theorem proceed_grows (x : SharedLog) (i : Nat) :
    x.log.entries <+: (x.proceed i).log.entries ∧ (x.proceed i).glances = x.glances := by
  unfold SharedLog.proceed
  split
  · exact ⟨List.prefix_rfl, rfl⟩
  split
  · exact ⟨List.prefix_rfl, rfl⟩
  split
  · exact ⟨List.prefix_rfl, rfl⟩
  split
  · exact ⟨List.prefix_append _ _, rfl⟩
  · exact ⟨List.prefix_rfl, rfl⟩

/-- Entries are only added, and what has been seen stays as it is. -/
theorem act_grows (x : SharedLog) (a : Action) :
    x.log.entries <+: (x.act a).log.entries ∧ x.glances <+: (x.act a).glances := by
  cases a with
  | proceed i =>
    obtain ⟨hentries, hglances⟩ := proceed_grows x i
    exact ⟨hentries, hglances ▸ List.prefix_rfl⟩
  | look => exact ⟨List.prefix_rfl, List.prefix_append _ _⟩

theorem after_grows (programs : List (List Report)) (actions more : List Action) :
    (after programs actions).log.entries <+: (after programs (actions ++ more)).log.entries ∧
      (after programs actions).glances <+: (after programs (actions ++ more)).glances := by
  induction more using List.reverseRecOn with
  | nil => simp
  | append_singleton rest a ih =>
    obtain ⟨hentries, hglances⟩ := act_grows (after programs (actions ++ rest)) a
    rw [← List.append_assoc]
    have hlast : after programs (actions ++ rest ++ [a]) =
        (after programs (actions ++ rest)).act a := List.foldl_append
    rw [hlast]
    exact ⟨ih.1.trans hentries, ih.2.trans hglances⟩

/-- The entries of the log each time that somebody looks. -/
def contents (x : SharedLog) : List Action → List (List QueryError)
  | [] => []
  | .proceed i :: rest => (x.proceed i).contents rest
  | .look what :: rest => x.log.entries :: (x.act (.look what)).contents rest

/-- Everybody sees what is so then, and each time the log begins as it was before. -/
theorem contents_seen (x : SharedLog) (actions : List Action) :
    (∃ seen, (actions.foldl act x).glances = x.glances ++ seen ∧
      List.Forall₂ Glance.Shows (x.contents actions) seen) ∧
    Lengthens (x.log.entries :: x.contents actions ++ [(actions.foldl act x).log.entries]) := by
  induction actions generalizing x with
  | nil => exact ⟨⟨[], by simp, .nil⟩, by simp [Lengthens, contents]⟩
  | cons a rest ih =>
    obtain ⟨⟨seen, hglances, hshows⟩, hgrows⟩ := ih (x.act a)
    have hlater := (act_grows x a).1
    rw [List.cons_append] at hgrows
    obtain ⟨hfirst, hrest⟩ := List.pairwise_cons.mp hgrows
    have hall : ∀ l ∈ (x.act a).contents rest ++ [(rest.foldl act (x.act a)).log.entries],
        x.log.entries <+: l := fun l hl => hlater.trans (hfirst l hl)
    cases a with
    | proceed i =>
      rw [act, (proceed_grows x i).2] at hglances
      exact ⟨⟨seen, hglances, hshows⟩, List.pairwise_cons.mpr ⟨hall, hrest⟩⟩
    | look what =>
      refine ⟨⟨what.glance x.log :: seen, ?_, .cons (what.glance_shows x.log) hshows⟩, ?_⟩
      · rw [List.foldl_cons, hglances]
        simp [act]
      · refine List.pairwise_cons.mpr ⟨?_, List.pairwise_cons.mpr ⟨hall, hrest⟩⟩
        intro l hl
        rcases List.mem_cons.mp hl with rfl | hm
        · exact List.prefix_rfl
        · exact hall l hm

end SharedLog

namespace Session

variable {setup : Setup} {s' : Session} {i : Nat} {w w' : Worker} {errors : List QueryError}

namespace Watched

/-- The entries that readers have got. -/
def snapshots (sights : List Sight) : List (List QueryError) :=
  sights.filterMap fun
    | .errors entries => some entries
    | .results _ _ => none

/-- The log is a merge of what the workers have reported, and begins as readers have seen it. -/
structure LogKept (x : Watched) : Prop where
  merges : Merges (x.session.workers.map (·.reported)) x.session.errors.entries
  grows : Lengthens (snapshots x.sights ++ [x.session.errors.entries])

theorem LogKept.congr {x x' : Watched} (h : x.LogKept)
    (hreported : x'.session.workers.map (·.reported) = x.session.workers.map (·.reported))
    (herrors : x'.session.errors = x.session.errors)
    (hsights : snapshots x'.sights = snapshots x.sights) : x'.LogKept :=
  ⟨by rw [hreported, herrors]; exact h.merges, by rw [hsights, herrors]; exact h.grows⟩

theorem LogKept.changes {x : Watched} (h : x.LogKept) (hc : Changes x.session s' i w w' errors)
    (hreported : w'.reported = w.reported ++ errors) :
    ({ x with session := s' } : Watched).LogKept := by
  constructor
  · simp only [hc.workers, hc.entries]
    exact h.merges.set hc.here hreported
  · simp only [hc.entries]
    exact h.grows.extend (List.prefix_append _ _)

theorem LogKept.act {x : Watched} (h : x.LogKept) (a : Action) : (x.act setup a).LogKept := by
  cases a with
  | submit query =>
    refine ⟨?_, h.grows⟩
    have hjoin := h.merges.join
    simpa [Watched.act, spawn, Worker.new] using hjoin
  | proceed i =>
    simp only [Watched.act]
    rcases proceed_changes setup x.session i with ⟨he, _⟩ | ⟨w, w', errors, hc, hstep⟩
    · rwa [he]
    · exact h.changes hc hstep.reported
  | interrupt i =>
    simp only [Watched.act]
    rcases interrupt_changes x.session i with ⟨he, _⟩ | ⟨w, w', hc, hstep⟩
    · rwa [he]
    · exact h.changes hc (by simp [hstep.reported])
  | startResize target =>
    simp only [Watched.act, Session.startResize]
    split
    · exact h.congr rfl rfl rfl
    · exact h
  | pollResize | dropResize | elapse => exact h.congr rfl rfl rfl
  | discard i => exact h.congr (discard_map (fun _ => rfl) x.session i) rfl rfl
  | read i =>
    have hsights : snapshots (x.act setup (.read i)).sights = snapshots x.sights := by
      cases hr : (x.session.take i).2 <;> simp [Watched.act, snapshots, hr]
    have hsession : (x.act setup (.read i)).session = (x.session.take i).1 := rfl
    rcases take_eq x.session i with he | ⟨events, he⟩
    · rw [he] at hsession
      exact h.congr (by rw [hsession]) (by rw [hsession]) hsights
    · rw [he] at hsession
      refine h.congr ?_ (by rw [hsession]; rfl) hsights
      rw [hsession]
      exact discard_map (fun _ => rfl) x.session i
  | readErrors =>
    refine ⟨h.merges, ?_⟩
    have hsights : snapshots (x.act setup .readErrors).sights =
        snapshots x.sights ++ [x.session.errors.entries] := by
      simp [Watched.act, snapshots]
    rw [hsights]
    exact h.grows.again

theorem logKept_after (setup : Setup) (maxConcurrency : Nat) (actions : List Action) :
    (after setup maxConcurrency actions).LogKept := by
  induction actions using List.reverseRecOn with
  | nil => exact ⟨.nil (by simp [after, Session.new]), by simp [Lengthens, after, snapshots]⟩
  | append_singleton rest a ih =>
    rw [after, List.foldl_append]
    exact ih.act a

end Watched

end Session

/-- At each point a log that many report to is a merge of what each of them has reported so far: no
failure is lost, none comes twice, and those of one reporter keep their order. A failure is told of
before it is added, and with two steps at most a report is made. Everybody who looks sees the log as
it is then, as a list or as its size, and what is seen at one time is the beginning of what is seen
later. The log of a session is such a log, whose reporters are the workers. -/
theorem log_is_merge :
    (∀ programs actions,
      let x := SharedLog.after programs actions
      x.reporters.map (·.reports) = programs ∧
        Merges (x.reporters.map (·.reported)) x.log.entries ∧
        x.log.entries.Perm (x.reporters.map (·.reported)).flatten ∧
        (∀ r ∈ x.reporters, r.made ≤ r.reports.length ∧ r.reported.Sublist x.log.entries) ∧
        Merges (x.reporters.map (·.warned)) x.warnings ∧
        List.Forall₂ Glance.Shows ((SharedLog.new programs).contents actions) x.glances ∧
        Lengthens ((SharedLog.new programs).contents actions ++ [x.log.entries]) ∧
        (∀ i r, x.reporters[i]? = some r → r.made < r.reports.length →
          ∃ r', (SharedLog.after programs (actions ++ [.proceed i, .proceed i])).reporters[i]? =
            some r' ∧ r.made < r'.made) ∧
        ∀ more, let y := SharedLog.after programs (actions ++ more)
          x.log.entries <+: y.log.entries ∧ x.glances <+: y.glances) ∧
    ∀ setup maxConcurrency actions,
      let x := Session.Watched.after setup maxConcurrency actions
      Merges (x.session.workers.map (·.reported)) x.session.errors.entries ∧
        Lengthens (Session.Watched.snapshots x.sights ++ [x.session.errors.entries]) := by
  refine ⟨fun programs actions => ?_, fun setup maxConcurrency actions => ?_⟩
  · have h := SharedLog.faithful_after programs actions
    obtain ⟨⟨seen, hglances, hshows⟩, hgrows⟩ :=
      SharedLog.contents_seen (.new programs) actions
    obtain rfl : (SharedLog.after programs actions).glances = seen := hglances
    refine ⟨h.programs, h.entries, h.entries.perm, fun r hr => ⟨h.made r hr, ?_⟩, h.warnings,
      hshows, hgrows.of_cons, fun i r hi hlt => ?_, SharedLog.after_grows programs actions⟩
    · exact h.entries.sublist (List.mem_map.mpr ⟨r, hr, rfl⟩)
    · rw [SharedLog.after, List.foldl_append]
      exact SharedLog.proceed_twice hi hlt
  · have h := Session.Watched.logKept_after setup maxConcurrency actions
    exact ⟨h.merges, h.grows⟩

/-- Two report the same failure, and one of them has nothing more to report. Both failures are in
the log, and the size of the log is seen to be two. The second makes its report after the first has
told of its own. -/
theorem log_is_merge_twice :
    let e : QueryError := .decode "up" "cut off"
    let programs : List (List Report) := [[.failure e, .optional none], [.optional (some e)]]
    let x := SharedLog.after programs [.proceed 0, .proceed 1, .look .isEmpty, .proceed 1,
      .look .errors, .proceed 0, .proceed 0, .look .size]
    x.reporters.map (·.reported) = [[e], [e]] ∧ Merges [[e], [e]] x.log.entries ∧
      x.log.entries.Perm [e, e] ∧
      (⟨[.optional (some e)], 1, false⟩ : Reporter) ∈ x.reporters ∧ [e].Sublist x.log.entries ∧
      x.glances = [.isEmpty true, .errors [e], .size 2] ∧
      ∃ r', (SharedLog.after programs [.proceed 0, .proceed 1, .proceed 1]).reporters[1]? =
        some r' ∧ 0 < r'.made := by
  intro e programs x
  have hreported : x.reporters.map (·.reported) = [[e], [e]] := by decide
  obtain ⟨-, hmerges, hperm, heach, -⟩ := log_is_merge.1 programs [.proceed 0, .proceed 1,
    .look .isEmpty, .proceed 1, .look .errors, .proceed 0, .proceed 0, .look .size]
  obtain ⟨-, -, -, -, -, -, -, hmakes, -⟩ := log_is_merge.1 programs [.proceed 0]
  rw [hreported] at hmerges hperm
  have hsecond : (⟨[.optional (some e)], 1, false⟩ : Reporter) ∈ x.reporters := by decide
  exact ⟨hreported, hmerges, hperm, hsecond, (heach _ hsecond).2, by decide,
    hmakes 1 ⟨[.optional (some e)], 0, false⟩ (by decide) (by decide)⟩

end MetricBatch

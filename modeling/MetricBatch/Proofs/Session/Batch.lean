import MetricBatch.Proofs.Session.Accounting
import MetricBatch.Proofs.Session.Forewarning
import MetricBatch.Proofs.Session.Progress
import Mathlib.Data.List.Induction

namespace MetricBatch.Session

variable {setup : Setup} {s t : Session} {i : Nat} {w : Worker}

/-- All results can still be read. -/
def Unread (s : Session) : Prop := ∀ w ∈ s.workers, w.wanted = true

theorem Unread.poll (h : s.Unread) (i : Nat) : (s.poll setup i).Unread := by
  apply proceedIn_preserves (P := Unread) _ 7 h
  intro t ht
  rcases proceed_changes setup t i with ⟨he, _⟩ | ⟨w, w', errors, hc, hstep⟩
  · rwa [he]
  · intro x hx
    rw [hc.workers] at hx
    rcases List.mem_or_eq_of_mem_set hx with hold | rfl
    · exact ht x hold
    · rw [hstep.wanted]
      exact ht w (List.mem_of_getElem? hc.here)

theorem Unread.spawn (h : s.Unread) (query : Query) : (s.spawn query).Unread := by
  intro w hw
  rcases List.mem_append.mp hw with hold | hnew
  · exact h w hold
  · rw [List.mem_singleton.mp hnew]
    rfl

theorem Unread.pass (h : s.Unread) (millis : Nat) : (s.pass setup millis).Unread := by
  rw [Unread, (pass_frame setup s millis).1]
  exact h

theorem Unread.settleIn (h : s.Unread) (turns : Nat) : (s.settleIn setup turns).Unread := by
  induction turns generalizing s with
  | zero => exact h
  | succ turns ih =>
    unfold Session.settleIn
    split
    · exact h
    · exact ih (h.poll _)

theorem Unread.pollCalling (h : s.Unread) (calls : List (Worker × Nat)) :
    (s.pollCalling setup calls).Unread := by
  induction calls generalizing s with
  | nil => exact h
  | cons c rest ih =>
    obtain ⟨w, i⟩ := c
    simp only [Session.pollCalling, List.foldl_cons]
    split
    · exact ih (h.poll i)
    · exact ih h

theorem Unread.moveTo (h : s.Unread) (time : Nat) : (s.moveTo setup time).Unread :=
  ((h.pass _).pollCalling _).settleIn _

theorem Unread.waitIn (h : s.Unread) (ready : Session → Bool) (turns : Nat) :
    (s.waitIn setup ready turns).Unread := by
  induction turns generalizing s with
  | zero => exact h
  | succ turns ih =>
    unfold Session.waitIn
    split
    · exact h
    · split
      · exact h
      · exact ih (h.moveTo _)

theorem Unread.wantedIndices (h : s.Unread) :
    s.wantedIndices = List.range s.workers.length := by
  have hall : s.workers.zipIdx.filter (·.1.wanted) = s.workers.zipIdx := by
    rw [List.filter_eq_self]
    intro p hp
    exact h p.1 (List.fst_mem_of_mem_zipIdx hp)
  rw [Session.wantedIndices, hall, List.zipIdx_map_snd, List.range_eq_range']

/-- A session in which all that could run has run, and from which nothing has been taken. -/
structure Loaded (setup : Setup) (s : Session) : Prop where
  steady : s.Steady setup
  quiet : s.isQuiet setup = true
  unread : s.Unread

theorem loaded_new (setup : Setup) (maxConcurrency : Nat) :
    (new setup maxConcurrency).Loaded setup :=
  ⟨⟨coherent_new setup _ maxConcurrency, rested_new setup maxConcurrency,
      admitted_new setup maxConcurrency, attended_new setup maxConcurrency, rfl⟩, rfl,
    fun _ hw => absurd hw List.not_mem_nil⟩

theorem Steady.spawn (h : s.Steady setup) (query : Query) : (s.spawn query).Steady setup :=
  ⟨h.coherent.spawn query, h.rested.spawn query, h.admitted.spawn query, h.attended.spawn query,
    h.fixed⟩

/-- In a quiet session nobody but the new worker can take a step. -/
theorem calm_spawn (hq : s.isQuiet setup = true) (query : Query) :
    ((s.spawn query).poll setup s.workers.length).Calm setup := by
  intro j w hw hready
  rcases poll_ready hw hready with hwaits | ⟨hne, hold, hbefore⟩
  · exact hwaits
  · rcases spawn_lookup hold with hthere | ⟨hlast, _⟩
    · by_contra hp
      have hsame : (s.spawn query).isReady setup j w = s.isReady setup j w := isReady_congr hp rfl
      rw [hsame, isQuiet_iff.mp hq j w hthere] at hbefore
      cases hbefore
    · exact absurd hlast hne

theorem Loaded.submit (h : s.Loaded setup) (query : Query) :
    (s.submit setup query).Loaded setup := by
  have hspawned := h.steady.spawn query
  have hrun : WaitsTo setup (s.spawn query) (s.submit setup query) :=
    (poll_leads _ s.workers.length).trans (settle_leads _)
  exact ⟨(hspawned.waits hrun).1, (calm_spawn h.quiet query).settle (hspawned.admitted.poll _),
    ((h.unread.spawn query).poll _).settleIn _⟩

theorem submitAll_cons (s : Session) (query : Query) (rest : List Query) :
    s.submitAll setup (query :: rest) = (s.submit setup query).submitAll setup rest := by
  rw [Session.submitAll, Session.submitAll, List.foldl_cons]

theorem Loaded.submitAll (h : s.Loaded setup) (queries : List Query) :
    (s.submitAll setup queries).Loaded setup := by
  induction queries generalizing s with
  | nil => exact h
  | cons query rest ih =>
    rw [submitAll_cons]
    exact ih (h.submit query)

theorem WaitsTo.queries (h : WaitsTo setup s t) (hr : s.Rested) :
    t.workers.map (·.query) = s.workers.map (·.query) := by
  obtain ⟨moves, hm, rfl⟩ := h
  have hnone : submitted moves = [] := by
    rw [submitted, List.filterMap_eq_nil_iff]
    intro m hmem
    have hwaits := hm m hmem
    cases m with
    | submit => exact hwaits.elim
    | poll | dropTask | startResize | pollResize | dropResize | pass | take | discard => rfl
  rw [queries_moves setup hr, hnone, List.append_nil]

theorem Loaded.submitAll_queries (h : s.Loaded setup) (queries : List Query) :
    (s.submitAll setup queries).workers.map (·.query) = s.workers.map (·.query) ++ queries := by
  induction queries generalizing s with
  | nil => exact (List.append_nil _).symm
  | cons query rest ih =>
    have hrun : WaitsTo setup (s.spawn query) (s.submit setup query) :=
      (poll_leads _ s.workers.length).trans (settle_leads _)
    have hfirst : (s.submit setup query).workers.map (·.query) =
        s.workers.map (·.query) ++ [query] := by
      rw [hrun.queries (h.steady.spawn query).rested]
      simp [Session.spawn, Worker.new]
    have hrest := ih (h.submit query)
    rwa [hfirst, List.append_assoc, ← submitAll_cons] at hrest

/-- As long as somebody has not finished, some call is under way. -/
theorem Steady.finished (h : s.Steady setup) (hq : s.isQuiet setup = true)
    (hnone : s.nextEnd? setup = none) : s.unfinished = 0 := by
  have hcalls : s.callsInFlight = 0 := by
    rw [nextEnd?, List.min?_eq_none_iff, List.filterMap_eq_nil_iff] at hnone
    rw [callsInFlight, List.countP_eq_zero]
    intro w hw hcalling
    obtain ⟨since, reply, hp⟩ := Worker.isCalling_iff.mp hcalling
    have hends := hnone w hw
    simp [Worker.ends?, hp] at hends
  by_cases hwaits : ∃ w ∈ s.workers, w.phase = .waiting
  · have hfull := (h.no_idle_permit hq hwaits).2.2
    have hpos := h.admitted.gate.capacity_pos
    omega
  · rw [← h.unfinished_eq hq hwaits, hcalls]

/-- Whoever waits for something waits until it holds, or until all workers have finished. -/
theorem Steady.waitIn_ends {turns : Nat} (h : s.Steady setup) (hq : s.isQuiet setup = true)
    (hle : s.unfinished ≤ turns) (ready : Session → Bool) :
    ready (s.waitIn setup ready turns) = true ∨ (s.waitIn setup ready turns).unfinished = 0 := by
  induction turns generalizing s with
  | zero => exact .inr (Nat.le_zero.mp hle)
  | succ turns ih =>
    unfold Session.waitIn
    split
    · rename_i hready
      exact .inl hready
    · split
      · rename_i hnone
        exact .inr (h.finished hq hnone)
      · rename_i next hnext
        have hless := (h.moveTo_next hq hnext).2
        have hsteady := (h.waits (moveTo_leads s next)).1
        exact ih hsteady (h.admitted.moveTo_quiet hq next) (by omega)

theorem Loaded.wait (h : s.Loaded setup) :
    let t := s.wait setup fun t => s.wantedIndices.all t.isReadable
    t.Steady setup ∧ t.Unread ∧ t.workers.map (·.query) = s.workers.map (·.query) ∧
      ∀ w ∈ t.workers, w.results?.isSome = true := by
  intro t
  have hrun : WaitsTo setup s t := wait_leads s _
  have hsteady := (h.steady.waits hrun).1
  have hqueries := hrun.queries h.steady.rested
  refine ⟨hsteady, h.unread.waitIn _ _, hqueries, ?_⟩
  intro w hw
  obtain ⟨i, hi⟩ := List.mem_iff_getElem?.mp hw
  rcases h.steady.waitIn_ends h.quiet (Nat.le_refl _) fun t => s.wantedIndices.all t.isReadable with
    hready | hfinished
  · have hlength := congrArg List.length hqueries
    rw [List.length_map, List.length_map] at hlength
    have hwanted : i ∈ s.wantedIndices := by
      rw [h.unread.wantedIndices, List.mem_range, ← hlength]
      exact (List.getElem?_eq_some_iff.mp hi).1
    have hreadable : t.isReadable i = true := List.all_eq_true.mp hready i hwanted
    rwa [isReadable, hi, Option.any_some] at hreadable
  · have hended := List.countP_eq_zero.mp hfinished w hw
    rw [Bool.not_eq_true, Bool.not_eq_false', Worker.isEnded_iff] at hended
    obtain ⟨_, _, hresults, _⟩ := (hsteady.coherent.sound i w hi).ended hended
    rw [hresults, Option.isSome_some]

/-- Whoever takes the results of a worker takes what it has, and nothing of the others. -/
theorem take_reads (s : Session) (i : Nat) :
    (s.take i).2 = (s.workers[i]?).bind Worker.readable? ∧ (s.take i).1.errors = s.errors ∧
      ∀ j, i ≠ j → (s.take i).1.workers[j]? = s.workers[j]? := by
  unfold Session.take
  cases hw : s.workers[i]? with
  | none => exact ⟨rfl, rfl, fun _ _ => rfl⟩
  | some w =>
    dsimp only [Option.bind_some]
    cases w.readable? with
    | none => exact ⟨rfl, rfl, fun _ _ => rfl⟩
    | some results => exact ⟨rfl, rfl, fun j hne => List.getElem?_modify_ne _ _ hne⟩

theorem takes_read {indices : List Nat} (hn : indices.Nodup) (s : Session)
    (all : List QueryResults) :
    (indices.foldl takeNext (s, all)).2 =
        all ++ indices.filterMap (fun i => (s.workers[i]?).bind Worker.readable?) ∧
      (indices.foldl takeNext (s, all)).1.errors = s.errors := by
  induction indices generalizing s all with
  | nil => exact ⟨(List.append_nil all).symm, rfl⟩
  | cons i rest ih =>
    obtain ⟨hi, hrest⟩ := List.nodup_cons.mp hn
    obtain ⟨hresults, herrors, hothers⟩ := take_reads s i
    have hsame : rest.filterMap (fun j => ((s.take i).1.workers[j]?).bind Worker.readable?) =
        rest.filterMap (fun j => (s.workers[j]?).bind Worker.readable?) := by
      apply List.filterMap_congr
      intro j hj
      rw [hothers j (ne_of_mem_of_not_mem hj hi).symm]
    obtain ⟨hall, hlog⟩ := ih hrest (s.take i).1 (all ++ (s.take i).2.toList)
    rw [List.foldl_cons, takeNext]
    refine ⟨?_, hlog.trans herrors⟩
    rw [hall, hsame, hresults, List.append_assoc, List.filterMap_cons]
    cases (s.workers[i]?).bind Worker.readable? <;> rfl

theorem filterMap_getElem? {α β : Type} (f : α → Option β) (l : List α) :
    (List.range l.length).filterMap (fun i => (l[i]?).bind f) = l.filterMap f := by
  induction l using List.reverseRecOn with
  | nil => rfl
  | append_singleton l a ih =>
    have hfront : (List.range l.length).filterMap (fun i => ((l ++ [a])[i]?).bind f) =
        (List.range l.length).filterMap (fun i => (l[i]?).bind f) := by
      apply List.filterMap_congr
      intro i hi
      rw [List.getElem?_append_left (List.mem_range.mp hi)]
    rw [List.length_append, List.length_singleton, List.range_succ, List.filterMap_append, hfront,
      ih, List.filterMap_append, List.filterMap_cons, List.getElem?_concat_length]
    rfl

/-- What is read of workers that have all come to an end, and what they have reported. -/
theorem results_accounted {workers : List Worker}
    (h : ∀ w ∈ workers, w.Succeeded ∨ w.Failed) :
    (workers.filterMap (·.results?)).map (·.query) = workers.map (·.query.text) ∧
      (workers.flatMap (·.reported)).map (·.query) =
        ((workers.filterMap (·.results?)).filter (·.kind.isNone)).map (·.query) := by
  induction workers with
  | nil => exact ⟨rfl, rfl⟩
  | cons w rest ih =>
    obtain ⟨hqueries, hreported⟩ := ih fun x hx => h x (List.mem_cons_of_mem _ hx)
    rcases h w (by simp) with ⟨results, _, hresults, hquery, hkind, hnone⟩ | ⟨hresults, hone⟩
    · have hsound : results.kind.isNone = false := by
        rw [Option.isNone_eq_false_iff, hkind]
      simp [hresults, hquery, hqueries, hnone, hreported, hsound]
    · simp [hresults, hone, hqueries, hreported, QueryResults.placeholder]

/-- Each query of a batch has one answer, in its place, and each placeholder has one error. -/
theorem batch_reads (setup : Setup) (maxConcurrency : Nat) (queries : List Query) :
    let batch := batch setup maxConcurrency queries
    batch.2.map (·.query) = queries.map (·.text) ∧
      (batch.1.errors.entries.map (·.query)).Perm
        ((batch.2.filter (·.kind.isNone)).map (·.query)) := by
  intro batch
  have hloaded := (loaded_new setup maxConcurrency).submitAll queries
  have hsubmitted := (loaded_new setup maxConcurrency).submitAll_queries queries
  obtain ⟨hsteady, hunread, hqueries, hresults⟩ := hloaded.wait
  have hindices := hloaded.unread.wantedIndices
  set s := (new setup maxConcurrency).submitAll setup queries
  set t := s.wait setup fun t => s.wantedIndices.all t.isReadable
  have hlength : s.workers.length = t.workers.length := by
    rw [← List.length_map (f := (·.query)), ← hqueries, List.length_map]
  have hreadable : ∀ w ∈ t.workers, w.readable? = w.results? := by
    intro w hw
    rw [Worker.readable?, if_pos (hunread w hw)]
  have hended : ∀ w ∈ t.workers, w.Succeeded ∨ w.Failed := by
    intro w hw
    obtain ⟨i, hi⟩ := List.mem_iff_getElem?.mp hw
    rcases (hsteady.coherent.sound i w hi).accounted (hsteady.rested i w hi) with hu | hends
    · have hsome := hresults w hw
      rw [hu.1] at hsome
      cases hsome
    · exact hends
  obtain ⟨hread, herrors⟩ := takes_read (List.nodup_range (n := t.workers.length)) t []
  rw [List.nil_append, filterMap_getElem?, List.filterMap_congr hreadable] at hread
  have hbatch : batch = (List.range t.workers.length).foldl takeNext (t, []) := by
    rw [← hlength, ← hindices]
    rfl
  obtain ⟨htexts, hreported⟩ := results_accounted hended
  rw [hbatch, hread, herrors, htexts, ← hreported]
  refine ⟨?_, hsteady.coherent.entries.map _⟩
  have hall := congrArg (List.map Query.text) (hqueries.trans hsubmitted)
  simpa [Session.new, Function.comp_def] using hall

end MetricBatch.Session

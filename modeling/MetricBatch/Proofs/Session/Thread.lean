import MetricBatch.Proofs.Gate.Turns
import MetricBatch.Proofs.Session.Attendance
import MetricBatch.Proofs.Session.Line
import Mathlib.Data.List.Induction

namespace MetricBatch

namespace Session

open Gate

variable {s s' : Session} {i : Nat}

theorem mem_grantees : i ∈ s.grantees ↔ s.IsGranted i := by
  rw [grantees, List.mem_filterMap, IsGranted, isGranted_iff]
  constructor
  · rintro ⟨x, hx, hi⟩
    refine ⟨x, hx, ?_⟩
    cases hc : x.call with
    | worker k => simpa [hc, Party.worker?] using hi
    | resize id => simp [hc, Party.worker?] at hi
  · rintro ⟨x, hx, hc⟩
    exact ⟨x, hx, by simp [hc, Party.worker?]⟩

theorem grantees_sublist (s : Session) : s.grantees.Sublist (workersAt s.gate) := by
  rw [workersAt, Gate.callers, waiters, List.filterMap_map, List.filterMap_append]
  exact List.sublist_append_left _ _

theorem mem_newlyReady : i ∈ s.newlyReady s' ↔
    s.workers.length ≤ i ∧ i < s'.workers.length ∨ s'.IsGranted i ∧ ¬s.IsGranted i := by
  simp only [newlyReady, List.mem_append, List.mem_range'_1, List.mem_filter, mem_grantees,
    Bool.not_eq_true', IsGranted, Bool.not_eq_true]
  refine or_congr_left ⟨fun h => ⟨h.1, ?_⟩, fun h => ⟨h.1, ?_⟩⟩ <;> omega

end Session

namespace Thread

open Session

variable {setup : Setup} {before before' : Nat → Nat → Prop} {s s' : Session} {t : Thread}
  {rest : List Nat} {out : Option Nat} {i j : Nat}

/-- In the run queue, a worker before another one. -/
structure Ahead (before : Nat → Nat → Prop) (s : Session) (i j : Nat) : Prop where
  ne : i ≠ j
  created : s.IsNew i → s.IsNew j → i < j
  granted : s.IsNew i ∨ s.IsGranted i → s.IsGranted j → i < j ∨ before j i

/-- The run queue holds all who are new or have their permits, in an order that keeps the calls in
line. -/
structure Lined (before : Nat → Nat → Prop) (t : Thread) : Prop where
  line : t.session.InLine before
  ahead : t.ready.Pairwise (Ahead before t.session)
  there : ∀ i ∈ t.ready, i < t.session.workers.length
  woken : ∀ i ∈ t.ready, ¬t.session.IsQueued i
  ready : ∀ i, t.session.IsNew i ∨ t.session.IsGranted i → i ∈ t.ready

theorem Lined.front {i : Nat} (h : Lined before ⟨s, i :: rest⟩) : s.Front before i := by
  obtain ⟨hfirst, _⟩ := List.pairwise_cons.mp h.ahead
  constructor
  · intro hi j hj
    rcases List.mem_cons.mp (h.ready j (.inl hj)) with rfl | hm
    · exact Nat.le_refl _
    · exact Nat.le_of_lt ((hfirst j hm).created hi hj)
  · intro hi j hne hj
    exact (hfirst j ((List.mem_cons.mp (h.ready j (.inr hj))).resolve_left hne)).granted hi hj

/-- The second relation tells all that the first one does, and that whoever has been granted its
permit since was so before all that are still new. -/
structure Records (before before' : Nat → Nat → Prop) (s s' : Session) : Prop where
  old : ∀ i j, before i j → before' i j
  grants : ∀ i j, ¬s.IsGranted i → s'.IsGranted i → s'.IsNew j → before' i j

/-- What a turn does to a session in which a worker runs, or nobody. -/
structure Step (setup : Setup) (before before' : Nat → Nat → Prop) (s s' : Session)
    (out : Option Nat) : Prop extends Records before before' s s' where
  admitted : s.Admitted setup
  admitted' : s'.Admitted setup
  beside : s.Beside s' out
  line : s'.InLine before'
  out : ∀ i, out = some i → ¬s'.IsNew i ∧ ¬s'.IsGranted i

theorem Step.other (h : Step setup before before' s s' out) (hi : s'.IsNew i ∨ s'.IsGranted i) :
    out ≠ some i := fun he => hi.elim (h.out i he).1 (h.out i he).2

/-- Who has just been granted its permit has waited for it. -/
theorem Step.waited (h : Step setup before before' s s' out) (hg : s'.IsGranted i)
    (hn : ¬s.IsGranted i) : s.IsQueued i :=
  (h.beside.granted i (h.other (.inr hg)) hg).resolve_left hn

theorem Step.granted_lt (h : Step setup before before' s s' out) (hg : s'.IsGranted i) :
    i < s.workers.length :=
  (h.beside.granted i (h.other (.inr hg)) hg).elim (fun hi => h.admitted.gate_lt hi.at_gate)
    fun hi => h.admitted.gate_lt hi.1

theorem Step.not_new (h : Step setup before before' s s' out) (hg : s'.IsGranted i) :
    ¬s'.IsNew i := fun hn => h.admitted'.not_at_gate hn hg.at_gate

/-- Those who have got ready are in the order in which they may run. -/
theorem Step.newlyReady_ahead (h : Step setup before before' s s' out) :
    (s.newlyReady s').Pairwise (Ahead before' s') := by
  refine List.pairwise_append.mpr ⟨?_, ?_, ?_⟩
  · refine (List.pairwise_lt_range' ..).imp_of_mem ?_
    intro i j _ hj hij
    refine ⟨Nat.ne_of_lt hij, fun _ _ => hij, fun _ hg => ?_⟩
    exact absurd (h.granted_lt hg) (Nat.not_lt.mpr (List.mem_range'_1.mp hj).1)
  · have hsorted := h.line.gate.sublist ((List.filter_sublist
      (p := fun i => !s.gate.isGranted (.worker i))).trans (grantees_sublist s'))
    exact hsorted.imp fun hij => ⟨Nat.ne_of_lt hij, fun _ _ => hij, fun _ _ => .inl hij⟩
  · intro i hi j hj
    have hle := (List.mem_range'_1.mp hi).1
    obtain ⟨hm, hn⟩ := List.mem_filter.mp hj
    have hg := mem_grantees.mp hm
    have hng : ¬s.IsGranted j := by simpa [IsGranted] using hn
    refine ⟨(Nat.lt_of_lt_of_le (h.granted_lt hg) hle).ne', fun _ hnj => absurd hnj (h.not_new hg),
      fun hfirst _ => .inr (h.grants j i hng hg ?_)⟩
    exact hfirst.resolve_right fun hgi => Nat.not_lt.mpr hle (h.granted_lt hgi)

/-- A worker that stays in the queue. -/
structure Stays (s s' : Session) (out : Option Nat) (i : Nat) : Prop where
  other : out ≠ some i
  there : i < s.workers.length
  woken : ¬s.IsQueued i
  granted : s'.IsGranted i → s.IsGranted i
  created : s'.IsNew i → s.IsNew i

theorem Lined.stays (h : Lined before ⟨s, out.toList ++ rest⟩)
    (hs : Step setup before before' s s' out) (hi : i ∈ rest) : Stays s s' out i := by
  have hm : i ∈ out.toList ++ rest := List.mem_append_right _ hi
  have hlt : i < s.workers.length := h.there i hm
  have hwoken : ¬s.IsQueued i := h.woken i hm
  have hother : out ≠ some i := by
    rintro rfl
    exact ((List.pairwise_cons.mp h.ahead).1 i hi).ne rfl
  exact ⟨hother, hlt, hwoken, fun hg => (hs.beside.granted i hother hg).resolve_right hwoken,
    fun hn => (hs.beside.created i hother hn).resolve_right (Nat.not_le.mpr hlt)⟩

theorem Lined.goOn_ahead (h : Lined before ⟨s, out.toList ++ rest⟩)
    (hs : Step setup before before' s s' out) :
    (rest ++ s.newlyReady s').Pairwise (Ahead before' s') := by
  refine List.pairwise_append.mpr ⟨?_, hs.newlyReady_ahead, ?_⟩
  · refine ((List.pairwise_append.mp h.ahead).2.1).imp_of_mem ?_
    intro i j hi hj hij
    have hstays := h.stays hs hi
    have hstays' := h.stays hs hj
    refine ⟨hij.ne, fun hni hnj => hij.created (hstays.created hni) (hstays'.created hnj), ?_⟩
    intro hfirst hg
    have hbefore := hfirst.imp hstays.created hstays.granted
    exact (hij.granted hbefore (hstays'.granted hg)).imp_right (hs.old j i)
  · intro i hi j hj
    have hstays := h.stays hs hi
    rcases mem_newlyReady.mp hj with ⟨hle, _⟩ | ⟨hg, hng⟩
    · have hlt : i < j := Nat.lt_of_lt_of_le hstays.there hle
      exact ⟨Nat.ne_of_lt hlt, fun _ _ => hlt,
        fun _ hg => absurd (hs.granted_lt hg) (Nat.not_lt.mpr hle)⟩
    · have hq := hs.waited hg hng
      refine ⟨fun he => hstays.woken (he ▸ hq), fun _ hnj => absurd hnj (hs.not_new hg), ?_⟩
      intro hfirst _
      rcases hfirst with hni | hgi
      -- This is how a worker can call too early: it was in the queue when `j` got its permit.
      · exact .inr (hs.grants j i hng hg hni)
      · exact .inl (before_queued h.line.gate (hstays.granted hgi) hq)

/-- Whoever has its permit and whoever is new is in the queue, if it has not just run. -/
theorem Lined.goOn_ready (h : Lined before ⟨s, out.toList ++ rest⟩)
    (hs : Step setup before before' s s' out) (hi : s'.IsNew i ∨ s'.IsGranted i) :
    i ∈ rest ++ s.newlyReady s' := by
  have hne := hs.other hi
  have hmem (hm : s.IsNew i ∨ s.IsGranted i) : i ∈ rest := by
    refine (List.mem_append.mp (h.ready i hm)).resolve_left fun ho => hne ?_
    exact Option.mem_toList.mp ho
  refine List.mem_append.mpr ?_
  rcases hi with hn | hg
  · rcases hs.beside.created i hne hn with hold | hle
    · exact .inl (hmem (.inl hold))
    · exact .inr (mem_newlyReady.mpr (.inl ⟨hle, hn.lt⟩))
  · by_cases hbefore : s.IsGranted i
    · exact .inl (hmem (.inr hbefore))
    · exact .inr (mem_newlyReady.mpr (.inr ⟨hg, hbefore⟩))

theorem Lined.goOn (h : Lined before ⟨s, out.toList ++ rest⟩)
    (hs : Step setup before before' s s' out) :
    Lined before' (Thread.goOn ⟨s, rest⟩ s') := by
  refine ⟨hs.line, h.goOn_ahead hs, ?_, ?_, fun i hi => h.goOn_ready hs hi⟩
  · intro i hi
    rcases List.mem_append.mp hi with hm | hm
    · exact Nat.lt_of_lt_of_le (h.stays hs hm).there hs.beside.length
    · rcases mem_newlyReady.mp hm with ⟨_, hlt⟩ | ⟨hg, _⟩
      · exact hlt
      · exact hs.admitted'.gate_lt hg.at_gate
  · intro i hi hq
    rcases List.mem_append.mp hi with hm | hm
    · have hstays := h.stays hs hm
      exact hstays.woken (hs.beside.queued i hstays.other hq)
    · rcases mem_newlyReady.mp hm with ⟨hle, _⟩ | ⟨hg, _⟩
      · have hne : out ≠ some i := by
          rintro rfl
          exact absurd (h.there i (List.mem_cons_self ..)) (Nat.not_lt.mpr hle)
        have hlt := hs.admitted.gate_lt (hs.beside.queued i hne hq).1
        exact absurd hlt (Nat.not_lt.mpr hle)
      · exact hq.2 hg

/-- What holds of a thread after each turn. -/
structure Orderly (setup : Setup) (before : Nat → Nat → Prop) (t : Thread) : Prop where
  admitted : t.session.Admitted setup
  rested : t.session.Rested
  attended : t.session.Attended
  lined : Lined before t

/-- The owner's moves let nobody run. -/
theorem Orderly.recedes (h : t.Orderly setup before) (hs : t.session.Recedes s')
    (ha : s'.Admitted setup) (hr : Records before before' t.session s') :
    Lined before' (t.goOn s') := by
  have hline := (h.lined.line.recede h.admitted hs).weaken hr.old
  have hlined : Lined before ⟨t.session, (none : Option Nat).toList ++ t.ready⟩ := h.lined
  exact hlined.goOn ⟨hr, h.admitted, ha, hs.beside none, hline, by simp⟩

theorem Orderly.weaken (h : t.Orderly setup before) (hold : ∀ i j, before i j → before' i j) :
    t.Orderly setup before' := by
  refine ⟨h.admitted, h.rested, h.attended, h.lined.line.weaken hold, ?_, h.lined.there,
    h.lined.woken, h.lined.ready⟩
  exact h.lined.ahead.imp fun hij =>
    ⟨hij.ne, hij.created, fun hi hj => (hij.granted hi hj).imp_right (hold _ _)⟩

theorem passed_of_calling {w : Worker} (h : w.isCalling = true) : w.HasPassed := by
  unfold Worker.isCalling at h
  constructor <;> intro hp <;> simp [hp] at h

theorem Orderly.wake (h : t.Orderly setup before) (i : Nat) :
    (t.turn setup (.wake i)).Orderly setup before := by
  simp only [turn]
  split
  · rename_i hcond
    obtain ⟨hcalling, hout⟩ := Bool.and_eq_true_iff.mp hcond
    obtain ⟨w, hw, hc⟩ := (Option.any_eq_true _ _).mp hcalling
    have hpassed (x : Worker) (hx : t.session.workers[i]? = some x) : x.HasPassed := by
      rw [hw, Option.some.injEq] at hx
      exact hx ▸ passed_of_calling hc
    obtain ⟨hnew, hgate⟩ := h.admitted.passed_away hpassed
    refine ⟨h.admitted, h.rested, h.attended, h.lined.line, ?_, ?_, ?_,
      fun j hj => List.mem_append_left _ (h.lined.ready j hj)⟩
    · refine List.pairwise_append.mpr ⟨h.lined.ahead, List.pairwise_singleton _ _, ?_⟩
      intro j hj k hk
      rw [List.mem_singleton.mp hk]
      refine ⟨?_, fun _ hn => absurd hn hnew, fun _ hg => absurd hg.at_gate hgate⟩
      rintro rfl
      simp [hj] at hout
    · intro j hj
      rcases List.mem_append.mp hj with hm | hm
      · exact h.lined.there j hm
      · rw [List.mem_singleton.mp hm]
        exact (List.getElem?_eq_some_iff.mp hw).1
    · intro j hj hq
      rcases List.mem_append.mp hj with hm | hm
      · exact h.lined.woken j hm hq
      · exact hgate (List.mem_singleton.mp hm ▸ hq.1)
  · exact h

@[simp]
theorem goOn_session (t : Thread) (s : Session) : (t.goOn s).session = s := rfl

theorem Lined.orderly (h : Lined before (t.goOn s')) (ha : s'.Admitted setup) (hr : s'.Rested)
    (ht : s'.Attended) : (t.goOn s').Orderly setup before := ⟨ha, hr, ht, h⟩

theorem turn_run (s : Session) (i : Nat) (rest : List Nat) :
    Thread.turn setup ⟨s, i :: rest⟩ .run = Thread.goOn ⟨s, rest⟩ (s.poll setup i) := rfl

theorem Orderly.run (h : t.Orderly setup before)
    (hr : Records before before' t.session (t.turn setup .run).session) :
    (t.turn setup .run).Orderly setup before' := by
  obtain ⟨s, ready⟩ := t
  cases ready with
  | nil => exact h.weaken hr.old
  | cons i rest =>
    simp only [turn_run, goOn_session] at hr ⊢
    have ha : s.Admitted setup := h.admitted
    have hlined : Lined before ⟨s, (some i).toList ++ rest⟩ := h.lined
    have hline := (hlined.line.poll ha h.lined.front).weaken hr.old
    have hgone (j : Nat) (hj : some i = some j) :
        ¬(s.poll setup i).IsNew j ∧ ¬(s.poll setup i).IsGranted j := by
      rw [← Option.some.inj hj]
      exact ha.poll_settles i
    have hnext := hlined.goOn ⟨hr, ha, ha.poll i, ha.poll_beside i, hline, hgone⟩
    exact hnext.orderly (ha.poll i) (h.rested.poll i) (h.attended.move ha h.rested (.poll i))

theorem turn_act {m : Move} (hm : ∀ i, m ≠ .poll i) (t : Thread) :
    t.turn setup (.act m) = t.goOn (t.session.move setup m) := by
  cases m with
  | poll i => exact absurd rfl (hm i)
  | submit | dropTask | startResize | pollResize | dropResize | pass | take | discard => rfl

theorem Orderly.turn (h : t.Orderly setup before) (x : Turn)
    (hr : Records before before' t.session (t.turn setup x).session) :
    (t.turn setup x).Orderly setup before' := by
  cases x with
  | run => exact h.run hr
  | wake i => exact (h.wake i).weaken hr.old
  | elapse millis =>
    have ha : { t.session with clock := t.session.clock + millis }.Admitted setup :=
      ⟨h.admitted.gate, h.admitted.queued, h.admitted.permits, h.admitted.inFlight,
        h.admitted.total, h.admitted.recorded, h.admitted.peak⟩
    have hs : t.session.Recedes { t.session with clock := t.session.clock + millis } :=
      ⟨rfl, Nat.le_refl _, List.Sublist.refl _, fun _ hi _ => hi, fun _ hi => .inl hi⟩
    exact (h.recedes hs ha hr).orderly ha h.rested (h.attended.congr rfl rfl)
  | act m =>
    by_cases hm : ∀ i, m ≠ .poll i
    · simp only [turn_act hm, goOn_session] at hr ⊢
      have ha := h.admitted.move h.rested m
      have hs := h.admitted.move_recedes h.rested hm
      exact (h.recedes hs ha hr).orderly ha (h.rested.move m)
        (h.attended.move h.admitted h.rested m)
    · obtain ⟨i, rfl⟩ : ∃ i, m = .poll i := by simpa using hm
      exact h.weaken hr.old

/-- In a turn of the run the first worker was granted its permit, and the second had been submitted
and had not run. -/
def GrantedBefore (setup : Setup) (maxConcurrency : Nat) (turns : List Turn) (i j : Nat) : Prop :=
  ∃ earlier turn, earlier ++ [turn] <+: turns ∧
    ¬(after setup maxConcurrency earlier).session.IsGranted i ∧
    (after setup maxConcurrency (earlier ++ [turn])).session.IsGranted i ∧
    (after setup maxConcurrency (earlier ++ [turn])).session.IsNew j

theorem after_concat (setup : Setup) (maxConcurrency : Nat) (turns : List Turn) (x : Turn) :
    after setup maxConcurrency (turns ++ [x]) =
      (after setup maxConcurrency turns).turn setup x := by
  simp [after]

theorem orderly_new (setup : Setup) (maxConcurrency : Nat) :
    Orderly setup before ⟨.new setup maxConcurrency, []⟩ := by
  refine ⟨admitted_new setup maxConcurrency, rested_new setup maxConcurrency,
    attended_new setup maxConcurrency, inLine_new setup maxConcurrency, List.Pairwise.nil, ?_, ?_,
    ?_⟩
  all_goals simp [IsNew, IsGranted, Session.new, Gate.new, Gate.isGranted]

theorem orderly_after (setup : Setup) (maxConcurrency : Nat) (turns : List Turn) :
    (after setup maxConcurrency turns).Orderly setup
      (GrantedBefore setup maxConcurrency turns) := by
  induction turns using List.reverseRecOn with
  | nil => exact orderly_new setup maxConcurrency
  | append_singleton turns x ih =>
    rw [after_concat]
    refine ih.turn x ⟨?_, ?_⟩
    · rintro i j ⟨earlier, turn, hstart, h⟩
      exact ⟨earlier, turn, hstart.trans (List.prefix_append ..), h⟩
    · intro i j hout hg hn
      exact ⟨turns, x, List.prefix_rfl, hout, by rwa [after_concat], by rwa [after_concat]⟩

end Thread

namespace Session

open Gate

/-- Permits are asked for and granted in the order of submission. -/
structure AdmittedInOrder (s : Session) : Prop where
  asked : ∀ i ∈ s.line, ∀ j, s.IsNew j → i < j
  waiting : (workersAt s.gate).Pairwise (· < ·)
  granted : ∀ i, i ∈ s.calls.map (·.1) ∨ s.IsGranted i → ∀ j, s.IsQueued j → i < j

/-- The calls were made in the order of submission, and whoever has not made its call was submitted
after all who have; this may be the other way round for two workers of which `before` holds. -/
structure CallsInOrder (before : Nat → Nat → Prop) (s : Session) : Prop where
  order : (s.calls.map (·.1)).Pairwise fun i j => i < j ∨ before j i
  later : ∀ i ∈ s.calls.map (·.1), ∀ (j : Nat) (w : Worker), s.workers[j]? = some w →
    ¬w.HasPassed → i < j ∨ before j i

theorem InLine.admittedInOrder {before : Nat → Nat → Prop} {s : Session} (h : s.InLine before) :
    s.AdmittedInOrder := by
  refine ⟨h.created, h.gate, ?_⟩
  rintro i (hi | hi) j hj
  · exact h.queued i hi j hj
  · exact before_queued h.gate hi hj

theorem InLine.callsInOrder {before : Nat → Nat → Prop} {s : Session} (h : s.InLine before)
    (ha : s.Attended) : s.CallsInOrder before := by
  refine ⟨h.calls, ?_⟩
  intro i hi j w hw hn
  by_cases hp : w.phase = .created
  · exact .inl (h.created i (List.mem_append_left _ hi) j ⟨w, hw, hp⟩)
  · have hwaits : w.phase = .waiting := by
      by_contra hne
      exact hn ⟨hp, hne⟩
    rcases granted_or_queued (mem_workersAt.mpr (ha.waiting j w hw hwaits)) with hg | hq
    · exact h.granted i hi j hg
    · exact .inl (h.queued i hi j hq)

/-- Permits are granted first come, first served. A call that waits for one has nobody granted
before it who was started later, and it loses its turn only when it is dropped or its time is over.
Nobody gets past a change of the capacity that has queued, and it gets past nobody. On one thread
permits are asked for and granted in the order of submission, and the calls to the backend are made
in it too, but that a worker may make its call before one that was granted its permit while the
first had not run. -/
theorem admitted_in_turn :
    (∀ capacity moves, ∀ p ∈ (Calls.after capacity moves).pending, p.acquires = true →
      (Calls.after capacity moves).gate.isGranted p.id = false →
      Calls.KeepsTurn capacity moves p) ∧
    (∀ capacity moves more, ∀ p ∈ (Calls.after capacity (moves ++ more)).pending,
      p.acquires = false → (Calls.after capacity moves).gate.isQueued p.id = true →
      Calls.ShrinkKeepsTurn capacity moves more p) ∧
    (∀ capacity moves more,
      ∀ p ∈ (Calls.after capacity moves).pending, ∀ q ∈ (Calls.after capacity moves).pending,
      p.acquires = true → q.acquires = false →
      (Calls.after capacity moves).gate.isCollecting q.id = false →
      p ∈ (Calls.after capacity (moves ++ more)).pending →
      (Calls.after capacity (moves ++ more)).gate.isGranted p.id = false →
      ¬Calls.GrantedIn capacity (moves ++ more) q.id ∧
        (q ∈ (Calls.after capacity (moves ++ more)).pending →
          ((Calls.after capacity (moves ++ more)).poll q).2 = some (.resized q.name) →
          ∃ target, q.kind = .resize target ∧
            (Calls.after capacity (moves ++ more)).gate.capacity ≤ target)) ∧
    ∀ setup maxConcurrency turns,
      (Thread.after setup maxConcurrency turns).session.AdmittedInOrder ∧
        (Thread.after setup maxConcurrency turns).session.CallsInOrder
          (Thread.GrantedBefore setup maxConcurrency turns) := by
  refine ⟨?_, ?_, ?_, ?_⟩
  · exact fun capacity moves p hp ha hg => Calls.acquires_keepsTurn capacity moves hp ha hg
  · exact fun capacity moves more p hp ha hq => Calls.shrink_keepsTurn capacity moves more hq ha hp
  · exact fun capacity moves more p hp q hq ha hres hout hp' hg =>
      Calls.shrink_takes_turn capacity moves more hq hres hout hp ha hp' hg
  · intro setup maxConcurrency turns
    have h := Thread.orderly_after setup maxConcurrency turns
    exact ⟨h.lined.line.admittedInOrder, h.lined.line.callsInOrder h.attended⟩

/-- Of two permits both are held when two calls come to wait with a change to one permit between
them; in a session with one permit the second of two queries is submitted and has not run. -/
theorem admitted_in_turn_three :
    let start : List Calls.Move := [.acquire "a", .poll 0, .acquire "b", .poll 1, .acquire "c",
      .resize "d" 1]
    let middle := start ++ [.poll 3]
    let turns : List Thread.Turn := [.act (.submit ⟨"a", none⟩), .run, .act (.submit ⟨"b", none⟩)]
    ¬Calls.GrantedIn 2 (start ++ [.poll 3, .acquire "e"]) 4 ∧
      ¬Calls.GrantedIn 2 (start ++ [.poll 3, .acquire "e"]) 3 ∧
      ¬Calls.GrantedIn 2 (middle ++ [.acquire "e", .release "a"]) 4 ∧
      (Thread.after lateBackend 1 turns).session.AdmittedInOrder ∧
      (Thread.after lateBackend 1 turns).session.CallsInOrder
        (Thread.GrantedBefore lateBackend 1 turns) := by
  obtain ⟨hturn, hshrink, hbehind, hthread⟩ := admitted_in_turn
  refine ⟨?_, ?_, ?_, hthread lateBackend 1 _⟩
  · exact (hturn 2 [.acquire "a", .poll 0, .acquire "b", .poll 1, .acquire "c", .resize "d" 1,
      .poll 3, .acquire "e"] ⟨2, "c", .acquire⟩ (by decide) rfl (by decide)).later 4 (by decide)
  · exact (hbehind 2 [.acquire "a", .poll 0, .acquire "b", .poll 1, .acquire "c", .resize "d" 1]
      [.poll 3, .acquire "e"] ⟨2, "c", .acquire⟩ (by decide) ⟨3, "d", .resize 1⟩ (by decide) rfl rfl
      (by decide) (by decide) (by decide)).1
  · exact (hshrink 2 [.acquire "a", .poll 0, .acquire "b", .poll 1, .acquire "c", .resize "d" 1,
      .poll 3] [.acquire "e", .release "a"] ⟨3, "d", .resize 1⟩ (by decide) rfl
      (by decide)).later (by decide) 4 (by decide)

/-- Of four queries the first has the only permit and two wait. The last is submitted, and before it
has run three more permits are added, so it makes its call before the two that had waited. -/
theorem called_past_two :
    let turns : List Thread.Turn := [.act (.submit ⟨"a", none⟩), .act (.submit ⟨"b", none⟩),
      .act (.submit ⟨"c", none⟩), .run, .run, .run, .act (.submit ⟨"d", none⟩),
      .act (.startResize 4), .act (.pollResize 0), .run, .run, .run]
    (Thread.after lateBackend 1 turns).session.calls.map (·.1) = [0, 3, 1, 2] ∧
      ¬((Thread.after lateBackend 1 turns).session.calls.map (·.1)).Pairwise (· < ·) := by
  decide +kernel

end Session

end MetricBatch

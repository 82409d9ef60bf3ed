import Mathlib.Data.List.Perm.Basic
import MetricBatch.Proofs.Session.Accounting
import MetricBatch.Proofs.Session.Attendance
import MetricBatch.Session.TearDown

namespace MetricBatch

namespace Worker

variable {setup : Setup} {clock : Nat} {torn : Prop} {w : Worker}

/-- What is left of a worker that is taken away, or dies, before its end. -/
def gone (w : Worker) : Worker :=
  { w with phase := .ended, permit := false, sender := false, reported := w.reported ++ [w.loss] }

/-- Taking a worker away changes it only while nothing can be read of it. -/
def dropped (w : Worker) : Worker := if w.results?.isNone then w.gone else w

/-- The errors that taking a worker away adds. -/
def losses (w : Worker) : List QueryError := if w.results?.isNone then [w.loss] else []

theorem dropped_of_none (h : w.results? = none) : w.dropped = w.gone := by simp [dropped, h]

theorem dropped_of_some {results : QueryResults} (h : w.results? = some results) : w.dropped = w := by
  simp [dropped, h]

theorem dropped_results (w : Worker) : ∃ results, w.dropped.results? = some results := by
  cases h : w.results? with
  | some results => exact ⟨results, by rw [dropped_of_some h, h]⟩
  | none =>
    rw [dropped_of_none h]
    unfold results? gone
    dsimp only
    cases w.published <;> exact ⟨_, rfl⟩

theorem dropped_dropped (w : Worker) : w.dropped.dropped = w.dropped := by
  obtain ⟨results, h⟩ := w.dropped_results
  exact dropped_of_some h

theorem dropped_reported (w : Worker) : w.dropped.reported = w.reported ++ w.losses := by
  unfold dropped losses
  split
  · rfl
  · rw [List.append_nil]

theorem Unfinished.gone_failed (h : w.Unfinished) : w.gone.Failed := by
  obtain ⟨_, hpublished, hreported⟩ := h
  constructor
  · simp [Worker.results?, gone, hpublished]
  · simp [gone, hreported, loss, QueryError.query]

/-- Between polls, something can be read of a worker just when it has ended. -/
theorem Sound.results?_none_iff (h : w.Sound setup clock torn) (hr : w.Resting) :
    w.results? = none ↔ w.phase ≠ .ended := by
  constructor
  · intro hnone he
    obtain ⟨_, _, hsome, _⟩ := h.ended he
    simp [hnone] at hsome
  · intro hn
    exact ((h.unfinished_iff hr).mpr hn).1

end Worker

namespace Session

open Gate

variable {setup : Setup} {torn : Nat → Prop} {s t : Session} {i : Nat} {w : Worker}
  {order : List Party}

theorem unwind_frame (s : Session) (i : Nat) :
    (s.unwind i).gate = s.gate ∧ (s.unwind i).calls = s.calls ∧
      (s.unwind i).peakCalls = s.peakCalls := by
  unfold unwind
  split
  · exact ⟨rfl, rfl, rfl⟩
  · split
    · unfold leave
      dsimp only
      split <;> exact ⟨rfl, rfl, rfl⟩
    · exact ⟨rfl, rfl, rfl⟩
    · exact ⟨rfl, rfl, rfl⟩

/-- What stays as it is while somebody is taken away: no call is made, and none is counted. -/
structure Keeping (s t : Session) : Prop where
  capacity : t.gate.capacity = s.gate.capacity
  peak : t.gate.peak = s.gate.peak
  total : t.gate.total = s.gate.total
  calls : t.calls = s.calls
  peakCalls : t.peakCalls = s.peakCalls

theorem Keeping.refl (s : Session) : Keeping s s := ⟨rfl, rfl, rfl, rfl, rfl⟩

theorem Keeping.trans {u : Session} (h : Keeping s t) (h' : Keeping t u) : Keeping s u :=
  ⟨h'.capacity.trans h.capacity, h'.peak.trans h.peak, h'.total.trans h.total,
    h'.calls.trans h.calls, h'.peakCalls.trans h.peakCalls⟩

theorem interrupt_keeping (s : Session) (i : Nat) :
    Keeping s (s.interrupt i) ∧ (s.interrupt i).gate.resizes = s.gate.resizes := by
  rcases interrupt_cases s i with ⟨he, _⟩ | ⟨w, _, hs⟩
  · rw [he]
    exact ⟨.refl s, rfl⟩
  · generalize s.interrupt i = t at hs ⊢
    cases hs <;> exact ⟨⟨rfl, rfl, rfl, rfl, rfl⟩, rfl⟩

theorem dropTask_keeping (s : Session) (i : Nat) :
    Keeping s (s.dropTask i) ∧ (s.dropTask i).gate.resizes = s.gate.resizes := by
  obtain ⟨hkeeping, hresizes⟩ := interrupt_keeping s i
  obtain ⟨hgate, hcalls, hpeak⟩ := unwind_frame (s.interrupt i) i
  obtain ⟨hgate', hcalls', hpeak'⟩ := unwind_frame ((s.interrupt i).unwind i) i
  have hsame : (s.dropTask i).gate = (s.interrupt i).gate := hgate'.trans hgate
  refine ⟨hkeeping.trans ⟨?_, ?_, ?_, hcalls'.trans hcalls, hpeak'.trans hpeak⟩, ?_⟩
  · rw [hsame]
  · rw [hsame]
  · rw [hsame]
  · rw [hsame, hresizes]

theorem dropTask_stays (h : ∀ w, s.workers[i]? = some w → w.phase = .ended) :
    s.dropTask i = s := by
  cases hw : s.workers[i]? with
  | none => simp [dropTask, interrupt, unwind, hw]
  | some w => simp [dropTask, interrupt, unwind, hw, h w hw]

/-- A worker that has not ended is gone when it has been taken away. -/
theorem dropTask_gone (hpermit : w.permit = w.isCalling) (hw : s.workers[i]? = some w)
    (hr : w.Resting) (he : w.phase ≠ .ended) (hu : w.Untouched) :
    Changes s (s.dropTask i) i w w.gone [w.loss] := by
  obtain ⟨x, hint, hc⟩ := dropTask_changes hw hr he hu
  cases hint with
  | created hp | waiting hp =>
    have hfree : w.permit = false := by simp [hpermit, Worker.isCalling, hp]
    have hgone : w.gone = { w with
        phase := .ended, sender := false, reported := w.reported ++ [w.loss] } := by
      rw [Worker.gone, ← hfree]
    rw [hgone]
    exact hc
  | calling hp => exact hc

/-- What taking some away has done to a session. -/
structure TornDown (s t : Session) (order : List Party) : Prop extends Keeping s t where
  workers : ∀ i : Nat, t.workers[i]? =
    (s.workers[i]?).map fun w => if .worker i ∈ order then w.dropped else w
  resizes : ∀ r, r ∈ t.gate.resizes ↔ r ∈ s.gate.resizes ∧ r.call ∉ order
  errors : s.errors.entries <+: t.errors.entries

theorem TornDown.nil (s : Session) : TornDown s s [] :=
  ⟨.refl s, by simp, by simp, List.prefix_refl _⟩

theorem TornDown.append {u : Session} {order' : List Party} (h : TornDown s t order)
    (h' : TornDown t u order') : TornDown s u (order ++ order') := by
  refine ⟨h.toKeeping.trans h'.toKeeping, ?_, ?_, h.errors.trans h'.errors⟩
  · intro i
    rw [h'.workers, h.workers, Option.map_map]
    congr 1
    funext w
    by_cases hm : Party.worker i ∈ order <;> by_cases hm' : Party.worker i ∈ order' <;>
      simp [hm, hm', Worker.dropped_dropped]
  · intro r
    rw [h'.resizes, h.resizes]
    simp [and_assoc]

theorem Coherent.dropTask_tornDown (h : s.Coherent setup torn) (ha : s.Admitted setup)
    (hr : s.Rested) (i : Nat) : TornDown s (s.dropTask i) [.worker i] := by
  obtain ⟨hkeeping, hresizes⟩ := dropTask_keeping s i
  have hothers : ∀ r, r ∈ (s.dropTask i).gate.resizes ↔
      r ∈ s.gate.resizes ∧ r.call ∉ [Party.worker i] := by
    intro r
    rw [hresizes, List.mem_singleton]
    refine (and_iff_left_of_imp fun hm he => ?_).symm
    exact ha.queued.resizers i (List.mem_map.mpr ⟨r, hm, he⟩)
  -- Nothing happens to a worker that has ended, nor to one that does not exist.
  by_cases hends : ∀ w, s.workers[i]? = some w → w.phase = .ended
  · rw [dropTask_stays hends] at hkeeping hothers ⊢
    refine ⟨hkeeping, ?_, hothers, List.prefix_refl _⟩
    intro j
    by_cases hj : j = i
    · subst hj
      cases hw : s.workers[j]? with
      | none => rfl
      | some w =>
        obtain ⟨_, _, hsome, _⟩ := (h.sound j w hw).ended (hends w hw)
        simp [Worker.dropped_of_some hsome]
    · simp [hj]
  · simp only [not_forall] at hends
    obtain ⟨w, hw, he⟩ := hends
    have hu := ((h.sound i w hw).unfinished_iff (hr i w hw)).mpr he
    have hpermit := ha.permits w (List.mem_of_getElem? hw)
    have hc := dropTask_gone hpermit hw (hr i w hw) he hu.untouched
    refine ⟨hkeeping, ?_, hothers, ?_⟩
    · intro j
      by_cases hj : j = i
      · subst hj
        simp [hc.same, hw, Worker.dropped_of_none hu.1]
      · simp [hc.other hj, hj]
    · rw [hc.entries]
      exact List.prefix_append _ _

theorem dropResize_tornDown (s : Session) (id : Nat) :
    TornDown s (s.dropResize id) [.resize id] := by
  refine ⟨⟨rfl, rfl, rfl, rfl, rfl⟩, ?_, ?_, List.prefix_refl _⟩
  · intro i
    simp [Session.dropResize]
  · intro r
    rw [List.mem_singleton]
    exact mem_cancel_resizes

theorem tornDown (h : s.Coherent setup fun _ => True) (ha : s.Admitted setup) (hr : s.Rested)
    (order : List Party) : TornDown s (s.tearDown setup order) order := by
  induction order generalizing s with
  | nil => exact .nil s
  | cons p rest ih =>
    have hfirst : TornDown s (s.move setup p.drop) [p] := by
      cases p with
      | worker i => exact h.dropTask_tornDown ha hr i
      | resize id => exact dropResize_tornDown s id
    have hrest := ih (h.move hr p.drop fun _ _ => trivial) (ha.move hr p.drop) (hr.move p.drop)
    exact hfirst.append hrest

theorem flatMap_losses (workers : List Worker) :
    workers.flatMap Worker.losses =
      (workers.filter (·.results?.isNone)).map Worker.loss := by
  induction workers with
  | nil => rfl
  | cons w rest ih => by_cases hw : w.results?.isNone <;> simp [Worker.losses, hw, ih]

/-- The log gets one error for each worker of which nothing could be read, in some order. -/
theorem TornDown.new_errors (h : TornDown s t order) (hs : s.Coherent setup torn)
    (ht : t.Coherent setup torn) (hw : t.workers = s.workers.map Worker.dropped) :
    ∃ added, t.errors.entries = s.errors.entries ++ added ∧
      added.Perm ((s.workers.filter (·.results?.isNone)).map Worker.loss) := by
  obtain ⟨added, hadded⟩ := h.errors
  refine ⟨added, hadded.symm, ?_⟩
  have hreported : t.workers.flatMap (·.reported) =
      s.workers.flatMap fun w => w.reported ++ w.losses := by
    simp [hw, List.flatMap_map, Worker.dropped_reported]
  have hsplit : (s.workers.flatMap (·.reported) ++ s.workers.flatMap Worker.losses).Perm
      (t.workers.flatMap (·.reported)) := by
    rw [hreported]
    exact List.flatMap_append_perm _ _ _
  -- Before and after, the log has what the workers have reported, and each of them adds its loss.
  rw [← flatMap_losses, ← List.perm_append_left_iff s.errors.entries, hadded]
  exact ht.entries.trans (hsplit.symm.trans (hs.entries.symm.append_right _))

/-- When all workers have ended and no change of the capacity is left, the gate has all its permits
and nobody waits there. -/
theorem Admitted.empty_gate (h : s.Admitted setup) (ha : s.Attended)
    (hended : ∀ w ∈ s.workers, w.phase = .ended) (hres : s.gate.resizes = []) :
    s.gate.available = s.gate.capacity ∧ s.gate.queue = [] ∧ s.gate.granted = [] ∧
      s.gate.inFlight = 0 := by
  have hcallers : s.gate.callers = [] := by
    apply List.eq_nil_iff_forall_not_mem.mpr
    intro c hc
    cases c with
    | worker i =>
      obtain ⟨w, hw, hp⟩ := h.queued.waiting i hc
      rw [hended w (List.mem_of_getElem? hw)] at hp
      cases hp
    | resize id =>
      have hid := ha.changes id hc
      simp [resizers, hres] at hid
  have hwaiters : s.gate.waiters = [] := List.map_eq_nil_iff.mp hcallers
  obtain ⟨hgranted, hqueue⟩ := List.append_eq_nil_iff.mp hwaiters
  have hflight : s.gate.inFlight = 0 := by
    rw [← h.inFlight, callsInFlight, List.countP_eq_zero]
    intro w hw
    simp [Worker.isCalling, hended w hw]
  have hbalance := h.gate.balance
  simp only [assigned, hwaiters, permitsOf_nil, hflight] at hbalance
  exact ⟨by omega, hqueue, hgranted, hflight⟩

theorem gate_eq {g g' : Gate Party} (hcapacity : g.capacity = g'.capacity)
    (havailable : g.available = g'.available) (hqueue : g.queue = g'.queue)
    (hgranted : g.granted = g'.granted) (hflight : g.inFlight = g'.inFlight)
    (hpeak : g.peak = g'.peak) (htotal : g.total = g'.total)
    (hresizes : g.resizes = g'.resizes) : g = g' := by
  cases g
  cases g'
  simp_all

/-- A worker that is launched makes its call as long as a permit is there. -/
theorem Admitted.launch (h : s.Admitted setup) (hg : s.gate.granted = []) (query : Query) :
    (s.launch setup query).Admitted setup ∧ (s.launch setup query).gate.granted = [] ∧
      (s.launch setup query).gate.available = s.gate.available - 1 ∧
      (s.launch setup query).gate.inFlight = s.gate.inFlight + min 1 s.gate.available := by
  refine ⟨proceedIn_preserves (fun _ ht => ht.proceed _) 2 (h.spawn query), ?_⟩
  have hw : (s.spawn query).workers[s.workers.length]? = some (.new query) := by
    simp [Session.spawn]
  have hstart : (s.spawn query).proceed setup s.workers.length =
      (s.spawn query).start s.workers.length (.new query) := by
    simp [Session.proceed, hw, Worker.new]
  have hwaits : ((s.spawn query).start s.workers.length (.new query)).workers[s.workers.length]? =
      some { Worker.new query with phase := .waiting } := by
    simp [Session.start, setWorker, note, Session.spawn]
  simp only [Session.launch, proceedIn, hstart]
  by_cases hpos : 1 ≤ s.gate.available
  · have hgate : ((s.spawn query).start s.workers.length (.new query)).gate =
        { s.gate with
          available := s.gate.available - 1
          granted := [⟨.worker s.workers.length, 1, 1⟩] } := by
      simp [Session.start, setWorker, note, Session.spawn, Gate.request, hpos, hg]
    simp [Session.proceed, hwaits, hgate, isGranted, Session.call, setWorker, note, Gate.take,
      Gate.remove, removeCall, Gate.countHeld]
    omega
  · have hgate : ((s.spawn query).start s.workers.length (.new query)).gate =
        { s.gate with
          available := 0
          queue := s.gate.queue ++ [⟨.worker s.workers.length, 1, s.gate.available⟩] } := by
      simp [Session.start, setWorker, note, Session.spawn, Gate.request, hpos]
    simp [Session.proceed, hwaits, hgate, isGranted, hg]
    omega

/-- However many workers are launched, as many calls are under way as there are permits. -/
theorem Admitted.launches (h : s.Admitted setup) (hg : s.gate.granted = [])
    (queries : List Query) :
    (queries.foldl (Session.launch setup) s).callsInFlight =
      s.callsInFlight + min queries.length s.gate.available := by
  induction queries generalizing s with
  | nil => simp
  | cons query rest ih =>
    obtain ⟨hnext, hgranted, havailable, hflight⟩ := h.launch hg query
    rw [List.foldl_cons, ih hnext hgranted, hnext.inFlight, hflight, havailable, h.inFlight,
      List.length_cons]
    omega

/-- A worker whose call makes it die gives its permit back, tells of its loss and is gone. -/
theorem poll_crashed {since : Nat} {reply : Reply} (hw : s.workers[i]? = some w)
    (hs : w.sender = true) (hp : w.phase = .calling since reply)
    (hr : reply.poll setup.limit (s.clock - since) = some .crashed) :
    Changes s (s.poll setup i) i w w.gone [w.loss] ∧
      (s.poll setup i).gate = s.gate.release ∧ (s.poll setup i).calls = s.calls := by
  let dies : Worker := { w with phase := .digesting .crashed, permit := false }
  let leaves : Worker := { w with phase := .leaving, permit := false }
  let hung := s.hangUp i w .crashed
  let left := hung.digest setup i dies .crashed
  have hdies : Changes s hung i w dies [] := changes_silent hw rfl rfl rfl
  have hleaves : Changes hung left i dies leaves [] := changes_silent hdies.same rfl rfl rfl
  have hlast : Changes left ((left.unwind i).unwind i) i leaves w.gone [w.loss] :=
    unwind_changes hleaves.same rfl hs
  have hpoll : s.poll setup i = (left.unwind i).unwind i := by
    have hhang : s.proceed setup i = hung := by simp [Session.proceed, hw, hp, hr, hung]
    have hdigest : hung.proceed setup i = left := by
      simp [Session.proceed, hdies.same, dies, left]
    have hfirst : left.unwind i = left.proceed setup i := by
      apply unwind_eq
      intro x hx
      rw [hleaves.same, Option.some.injEq] at hx
      simp [← hx, leaves, Phase.remaining]
    have hclosing := unwind_leaving hleaves.same rfl hs
    have hsecond : (left.unwind i).unwind i = (left.unwind i).proceed setup i := by
      apply unwind_eq
      intro x hx
      rw [hclosing.same, Option.some.injEq] at hx
      simp [← hx, Phase.remaining]
    have hends : ((left.unwind i).unwind i).proceed setup i = (left.unwind i).unwind i := by
      simp [Session.proceed, hlast.same, Worker.gone]
    rw [Session.poll, proceedIn, hhang, proceedIn, hdigest, proceedIn, ← hfirst, proceedIn,
      ← hsecond, proceedIn_stuck hends]
  obtain ⟨hgate, hcalls, _⟩ := unwind_frame left i
  obtain ⟨hgate', hcalls', _⟩ := unwind_frame (left.unwind i) i
  rw [hpoll]
  exact ⟨(hdies.trans hleaves).trans hlast, hgate'.trans hgate, hcalls'.trans hcalls⟩

/-- When a permit comes back, the worker at the head of the queue makes its call next. -/
theorem Admitted.release_goes_on (h : s.Admitted setup) (hgate : t.gate = s.gate.release)
    {x : Waiter Party} {rest : List (Waiter Party)} {j : Nat} (hq : s.gate.queue = x :: rest)
    (hx : x.call = .worker j) (hw : t.workers[j]? = some w) (hp : w.phase = .waiting) :
    t.gate.queue = rest ∧ (t.proceed setup j).workers[j]? =
      some { w with phase := .calling t.clock (setup.reply w.query), permit := true } := by
  have hwaiter : x ∈ s.gate.waiters := List.mem_append_right _ (by simp [hq])
  have hwants : x.wants = 1 := by
    rw [h.gate.wants x hwaiter, hx]
    exact share_of_not_resize (h.queued.resizers j)
  obtain ⟨hrest, hgranted⟩ := h.gate.release_next hq hwants
  rw [← hgate] at hrest hgranted
  rw [hx] at hgranted
  have hcall : t.proceed setup j = t.call setup j w := by
    simp [Session.proceed, hw, hp, hgranted]
  have hchanges : Changes t (t.call setup j w) j w
      { w with phase := .calling t.clock (setup.reply w.query), permit := true } [] :=
    changes_silent hw rfl rfl rfl
  rw [hcall]
  exact ⟨hrest, hchanges.same⟩

/-- Whoever runs or waits can be taken away in any order, and always the gate is left with all its
permits and nobody at it, no call is under way, and none has been added to those that were counted.
Each worker of which nothing could be read has left a placeholder and one error, and the others are
as they were. Then as many new calls can be under way as the capacity says. A worker that dies of
its call gives back its permit just so, and the next worker in the queue makes its call with it. -/
theorem torn_down_clean (setup : Setup) (maxConcurrency : Nat) (moves : List Move) :
    let s := after setup maxConcurrency moves
    (∀ order, s.NamedBy order →
      let t := s.tearDown setup order
      t.gate = { s.gate with
        available := s.gate.capacity, queue := [], granted := [], inFlight := 0, resizes := [] } ∧
      t.callsInFlight = 0 ∧ t.calls = s.calls ∧ t.peakCalls = s.peakCalls ∧
      (∃ added, t.errors.entries = s.errors.entries ++ added ∧
        added.Perm ((s.workers.filter (·.results?.isNone)).map fun w =>
          .transport w.query.text none Event.goneText)) ∧
      (∀ (i : Nat) (w : Worker), s.workers[i]? = some w →
        (∀ results, w.results? = some results → t.workers[i]? = some w) ∧
        (w.results? = none → t.workers[i]? = some w.gone ∧ w.gone.Failed)) ∧
      ∀ queries : List Query, (queries.foldl (launch setup) t).callsInFlight =
        min queries.length s.gate.capacity) ∧
    ∀ i w since reply, s.workers[i]? = some w → w.phase = .calling since reply →
      reply.poll setup.limit (s.clock - since) = some .crashed →
      let t := s.poll setup i
      t.gate = s.gate.release ∧ t.callsInFlight + 1 = s.callsInFlight ∧ t.calls = s.calls ∧
      t.errors.entries = s.errors.entries ++ [.transport w.query.text none Event.goneText] ∧
      t.workers = s.workers.set i w.gone ∧ w.gone.Failed ∧
      ∀ x rest j, s.gate.queue = x :: rest → x.call = .worker j →
        t.gate.queue = rest ∧ ∃ y, s.workers[j]? = some y ∧ (t.proceed setup j).workers[j]? =
          some { y with phase := .calling s.clock (setup.reply y.query), permit := true } := by
  intro s
  have hs : s.Coherent setup fun _ => True :=
    coherent_moves (coherent_new setup _ maxConcurrency) (rested_new setup maxConcurrency)
      fun _ _ => trivial
  have ha : s.Admitted setup := admitted_after setup maxConcurrency moves
  have hr : s.Rested := rested_after setup maxConcurrency moves
  have hatt : s.Attended := attended_after setup maxConcurrency moves
  constructor
  · intro order hnamed t
    have h : TornDown s t order := tornDown hs ha hr order
    have ht : t.Coherent setup fun _ => True := coherent_moves hs hr fun _ _ => trivial
    have hta : t.Admitted setup := admitted_moves ha hr _
    have htr : t.Rested := rested_moves setup hr _
    have hworkers : t.workers = s.workers.map Worker.dropped := by
      apply List.ext_getElem?
      intro i
      rw [h.workers, List.getElem?_map]
      cases hw : s.workers[i]? with
      | none => rfl
      | some w =>
        have hi := hnamed.1 i (List.getElem?_eq_some_iff.mp hw).1
        simp [hi]
    have hended : ∀ w ∈ t.workers, w.phase = .ended := by
      intro w hw
      obtain ⟨i, hi⟩ := List.mem_iff_getElem?.mp hw
      rw [hworkers] at hw
      obtain ⟨x, _, rfl⟩ := List.mem_map.mp hw
      obtain ⟨results, hresults⟩ := x.dropped_results
      by_contra he
      have hnone := ((ht.sound i _ hi).results?_none_iff (htr i _ hi)).mpr he
      simp [hresults] at hnone
    have hresizes : t.gate.resizes = [] := by
      apply List.eq_nil_iff_forall_not_mem.mpr
      intro r hm
      obtain ⟨hold, hout⟩ := (h.resizes r).mp hm
      exact hout (hnamed.2 r hold)
    have hempty := hta.empty_gate (attended_moves hatt ha hr _) hended hresizes
    obtain ⟨havailable, hqueue, hgranted, hflight⟩ := hempty
    have hcalls : t.callsInFlight = 0 := hta.inFlight.trans hflight
    refine ⟨?_, hcalls, h.calls, h.peakCalls, h.new_errors hs ht hworkers, ?_, ?_⟩
    · exact gate_eq h.capacity (by rw [havailable, h.capacity]) hqueue hgranted hflight h.peak
        h.total hresizes
    · intro i w hw
      have hi := hnamed.1 i (List.getElem?_eq_some_iff.mp hw).1
      have hafter : t.workers[i]? = some w.dropped := by simp [hworkers, hw]
      constructor
      · intro results hresults
        rw [hafter, Worker.dropped_of_some hresults]
      · intro hnone
        have hsound := hs.sound i w hw
        have hu := (hsound.unfinished_iff (hr i w hw)).mpr
          ((hsound.results?_none_iff (hr i w hw)).mp hnone)
        exact ⟨by rw [hafter, Worker.dropped_of_none hnone], hu.gone_failed⟩
    · intro queries
      rw [hta.launches hgranted, hcalls, havailable, h.capacity, Nat.zero_add]
  · intro i w since reply hw hp hreply t
    have hne : w.phase ≠ .ended := by simp [hp]
    have hu := ((hs.sound i w hw).unfinished_iff (hr i w hw)).mpr hne
    obtain ⟨hc, hgate, hcalls⟩ := poll_crashed hw hu.untouched.1 hp hreply
    have hcount := callsInFlight_set t hw hc.workers
    refine ⟨hgate, ?_, hcalls, hc.entries, hc.workers, hu.gone_failed, ?_⟩
    · simpa [Worker.isCalling, hp, Worker.gone] using hcount
    · intro x rest j hq hx
      have hcaller : .worker j ∈ s.gate.callers :=
        List.mem_map.mpr ⟨x, List.mem_append_right _ (by simp [hq]), hx⟩
      obtain ⟨y, hy, hwaits⟩ := ha.queued.waiting j hcaller
      have hji : j ≠ i := by
        rintro rfl
        rw [hw, Option.some.injEq] at hy
        rw [← hy, hp] at hwaits
        cases hwaits
      have hthere : t.workers[j]? = some y := by rw [hc.other hji, hy]
      obtain ⟨hrest, hgoes⟩ := ha.release_goes_on hgate hq hx hthere hwaits
      exact ⟨hrest, y, hy, by rw [hgoes, hc.clock]⟩

/-- A backend whose calls kill their workers after three milliseconds. -/
def fatalBackend : Setup := { lateBackend with backend := fun _ => .crash 3 }

/-- Two workers, one of them at the gate: both are taken away, or one dies and the other goes on. -/
theorem torn_down_clean_fatal :
    let s := after fatalBackend 1
      [.submit ⟨"a", none⟩, .submit ⟨"b", none⟩, .poll 0, .poll 1, .pass 3]
    let t := s.tearDown fatalBackend [.worker 0, .worker 1]
    t.gate.stats = ⟨1, 0, 1, 0, 1⟩ ∧ t.gate.available = 1 ∧ t.calls = s.calls ∧
      t.errors.size = 2 ∧ (∃ w, t.workers[1]? = some w ∧ w.Failed) ∧
      (s.poll fatalBackend 0).callsInFlight + 1 = s.callsInFlight ∧
      ∃ y, ((s.poll fatalBackend 0).proceed fatalBackend 1).workers[1]? = some y ∧
        y.phase = .calling 3 (.crash 3) := by
  obtain ⟨htear, hcrash⟩ := torn_down_clean fatalBackend 1
    [.submit ⟨"a", none⟩, .submit ⟨"b", none⟩, .poll 0, .poll 1, .pass 3]
  obtain ⟨hgate, _, hcalls, _, ⟨added, hadded, hperm⟩, hworkers, _⟩ :=
    htear [.worker 0, .worker 1] (by decide)
  obtain ⟨_, hflight, _, _, _, _, hnext⟩ := hcrash 0 _ 0 (.crash 3) rfl rfl rfl
  obtain ⟨_, y, _, hgoes⟩ := hnext ⟨.worker 1, 1, 0⟩ [] 1 rfl rfl
  refine ⟨by rw [hgate]; rfl, by rw [hgate]; rfl, hcalls, ?_, ⟨_, (hworkers 1 _ rfl).2 rfl⟩, hflight,
    _, hgoes, rfl⟩
  rw [ErrorLog.size, hadded, List.length_append, hperm.length_eq]
  rfl

end Session

end MetricBatch

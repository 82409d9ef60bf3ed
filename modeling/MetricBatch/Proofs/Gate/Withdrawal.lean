import MetricBatch.Proofs.Gate.Settling

namespace MetricBatch.Gate

variable {ι : Type}

/-- How many permits calls want that they do not have. -/
def missing (ws : List (Waiter ι)) : Nat := tally (fun w => w.wants - w.got) ws

/-- So many permits are handed to a queue from its head. Calls at the front get all they want; the
next one gets what remains, and if there is no next one, that is left over. -/
def HandsOut (n : Nat) (queue served waiting : List (Waiter ι)) (left : Nat) : Prop :=
  ∃ front back, queue = front ++ back ∧ served = front.map (fun w => { w with got := w.wants }) ∧
    (back = [] ∧ waiting = [] ∧ n = missing front + left ∨
      ∃ w rest given, back = w :: rest ∧ waiting = { w with got := w.got + given } :: rest ∧
        w.got + given < w.wants ∧ n = missing front + given ∧ left = 0)

theorem hand_handsOut (n : Nat) {queue : List (Waiter ι)} (h : ∀ w ∈ queue, w.got < w.wants) :
    HandsOut n queue (hand n queue).1 (hand n queue).2.1 (hand n queue).2.2 := by
  induction queue generalizing n with
  | nil => exact ⟨[], [], rfl, rfl, .inl ⟨rfl, rfl, by simp [missing, tally, hand]⟩⟩
  | cons w rest ih =>
    rw [List.forall_mem_cons] at h
    by_cases hw : w.wants ≤ w.got + n
    · have hhand : hand n (w :: rest) =
          ({ w with got := w.wants } :: (hand (w.got + n - w.wants) rest).1,
            (hand (w.got + n - w.wants) rest).2) := by simp [hand, hw]
      obtain ⟨front, back, hqueue, hserved, hcases⟩ := ih (w.got + n - w.wants) h.2
      rw [hhand]
      refine ⟨w :: front, back, by rw [hqueue, List.cons_append], ?_, ?_⟩
      · rw [hserved, List.map_cons]
      · have hmissing : missing (w :: front) = w.wants - w.got + missing front := rfl
        dsimp only
        rw [hmissing]
        rcases hcases with ⟨hback, hwaiting, hn⟩ | ⟨x, tail, given, hback, hwaiting, hlt, hn, hleft⟩
        · exact .inl ⟨hback, hwaiting, by omega⟩
        · exact .inr ⟨x, tail, given, hback, hwaiting, hlt, by omega, hleft⟩
    · refine ⟨[], w :: rest, rfl, by simp [hand, hw], .inr ⟨w, rest, n, rfl, ?_, ?_, ?_, ?_⟩⟩
      · simp [hand, hw]
      · exact Nat.lt_of_not_le hw
      · simp [missing, tally]
      · simp [hand, hw]

theorem Counted.addPermits_zero {g : Gate ι} {n : Nat} (h : g.Counted n) : g.addPermits 0 = g := by
  rw [addPermits_eq, hand_zero h.short, List.append_nil, Nat.add_zero]

variable [DecidableEq ι]

/-- A call that has not come to the line only stops waiting for its turn. -/
theorem Counted.cancel_absent {g : Gate ι} {n : Nat} (h : g.Counted n) {call : ι}
    (hc : call ∉ g.callers) {resizes : List (Resize ι)}
    (hres : resizes.filter (·.call != call) = g.resizes) :
    { g with resizes }.cancel call = g := by
  have hg : { g with resizes := g.resizes } = g := rfl
  rw [Gate.cancel, hres, hg, Gate.withdraw, remove_absent hc, collected_eq_zero hc,
    h.addPermits_zero]

/-- A call that queues, and leaves before anything else happens, leaves the gate as it was, also if
it had swept up what was available. -/
theorem Counted.cancel_request {g : Gate ι} {n : Nat} (h : g.Counted n) {call : ι} {wants : Nat}
    (hc : call ∉ g.callers) (hw : ¬wants ≤ g.available) {resizes : List (Resize ι)}
    (hres : resizes.filter (·.call != call) = g.resizes) :
    ({ g with resizes }.request call wants).cancel call = g := by
  obtain ⟨hgranted, hqueued⟩ := not_mem_callers.mp hc
  have hcollected := waiters_absent hc
  have hsame : ({ g with resizes }.request call wants).cancel call =
      { g with available := 0 }.addPermits g.available := by
    have hnone : removeCall call [⟨call, wants, g.available⟩] = [] := by simp [removeCall]
    simp only [waiters, List.filter_append, List.append_eq_nil_iff] at hcollected
    simp [Gate.request, hw, Gate.cancel, hres, Gate.withdraw, Gate.remove, removeCall_append,
      removeCall_eq_self hgranted, removeCall_eq_self hqueued, hnone, collected, waiters, hcollected]
  rw [hsame]
  by_cases hqueue : g.queue = []
  · have hback : { g with available := 0 }.addPermits g.available = { g with queue := [] } := by
      simp [addPermits_eq, hqueue, hand]
    rw [hback, ← hqueue]
  · have hnone : g.available = 0 := h.idle hqueue
    have hzero : { g with available := 0 } = g := by rw [← hnone]
    rw [hzero, hnone, h.addPermits_zero]

/-- The same for a change of the capacity, which queues only if its turn comes at once. -/
theorem Counted.cancel_resize {g : Gate ι} {n : Nat} (h : g.Counted n) {call : ι} {target : Nat}
    (hc : call ∉ g.callers) (hr : call ∉ g.resizers)
    (hpending : ((g.startResize call target).advanceResize call).2 = .pending) :
    ((g.startResize call target).advanceResize call).1.cancel call = g := by
  rcases advanceResize_silent hpending with hsame | ⟨r, rest, hres, hcall, hg, hbegin⟩
  · rw [hsame]
    refine h.cancel_absent hc ?_
    rw [List.filter_append, filter_resizes hr]
    simp
  · have hfirst : g.resizes = [] := by
      by_contra hne
      obtain ⟨x, tail, hx⟩ := List.exists_cons_of_ne_nil hne
      have hhead : g.resizes ++ [⟨call, target, false⟩] = r :: rest := hres
      rw [hx, List.cons_append, List.cons.injEq] at hhead
      exact hr (List.mem_map.mpr ⟨x, by simp [hx], by rw [hhead.1, hcall]⟩)
    have hthis : [⟨call, target, false⟩] = r :: rest := by simpa [startResize, hfirst] using hres
    obtain ⟨rfl, rfl⟩ := List.cons.inj hthis
    have hw : ¬g.capacity - target ≤ g.available := by
      intro hle
      simp [beginShrink, Gate.request, startResize, hle, isGranted] at hg
    have hleft : List.filter (·.call != call) [(⟨call, target, true⟩ : Resize ι)] = g.resizes := by
      simp [hfirst]
    rw [hbegin]
    exact h.cancel_request hc hw hleft

theorem cancel_eq (g : Gate ι) (call : ι) :
    g.cancel call =
      { g with
        queue := (hand (g.collected call) (removeCall call g.queue)).2.1
        granted :=
          removeCall call g.granted ++ (hand (g.collected call) (removeCall call g.queue)).1
        available := g.available + (hand (g.collected call) (removeCall call g.queue)).2.2
        resizes := g.resizes.filter (·.call != call) } :=
  rfl

/-- Everybody else waits on as before. -/
theorem cancel_wants (g : Gate ι) (call : ι) :
    (g.cancel call).waiters.map (fun w => (w.call, w.wants)) =
      (removeCall call g.waiters).map (fun w => (w.call, w.wants)) := by
  rw [Gate.cancel, Gate.withdraw, addPermits_wants, remove_waiters]
  rfl

theorem Counted.cancel_waiting {g : Gate ι} {n : Nat} (h : g.Counted n) (call : ι) :
    (g.cancel call).waiting + (if call ∈ g.callers then 1 else 0) = g.waiting := by
  have hlength (g : Gate ι) : g.waiting = g.callers.length := (List.length_map ..).symm
  rw [hlength, hlength, cancel_line, ← h.unique.erase_eq_filter]
  split
  · rename_i hm
    rw [List.length_erase_of_mem hm]
    exact Nat.sub_add_cancel (List.length_pos_of_mem hm)
  · rename_i hm
    rw [List.erase_of_not_mem hm, Nat.add_zero]

/-- What a change of the capacity comes to that begins where this is the capacity and so many
permits are available. -/
def WorksFrom (capacity available : Nat) (r : Resize ι) : Gate ι × ResizeProgress → Prop
  | (g, .changed old) => old = capacity ∧ g.capacity = r.target
  | (g, .pending) => ⟨r.call, capacity - r.target, available⟩ ∈ g.queue
  | (_, .refused) => maxSurplus < capacity - r.target

theorem advanceResize_first {g : Gate ι} {r : Resize ι} {rest : List (Resize ι)}
    (hres : g.resizes = r :: rest) (hn : r.begun = false) :
    WorksFrom g.capacity g.available r (g.advanceResize r.call) := by
  simp only [advanceResize, hres, hn, ne_eq, not_true_eq_false, Bool.false_eq_true, ↓reduceIte]
  by_cases hle : g.capacity ≤ r.target
  · rw [if_pos hle]
    exact ⟨rfl, rfl⟩
  · rw [if_neg hle]
    by_cases hmax : maxSurplus < g.capacity - r.target
    · rw [if_pos hmax]
      exact hmax
    · rw [if_neg hmax]
      by_cases hg : (g.beginShrink r rest).isGranted r.call = true
      · rw [if_pos hg]
        exact ⟨rfl, rfl⟩
      · rw [if_neg hg, beginShrink_queues (by simpa using hg)]
        exact List.mem_append_right _ (List.mem_singleton_self _)

end MetricBatch.Gate

namespace MetricBatch.Gate.Calls

/-- In a settled gate the change of the capacity that has its turn has begun. -/
theorem Sound.settled_begun {s : Calls} (h : s.Sound) (hs : s.IsSettled) {r : Resize Nat}
    {rest : List (Resize Nat)} (hres : s.gate.resizes = r :: rest) : r.begun = true := by
  have hmem : r ∈ s.gate.resizes := by simp [hres]
  obtain ⟨q, hq, hid, hk⟩ := h.resizes r hmem
  obtain ⟨_, hpending, hpoll⟩ := poll_resize hk (by rw [hs q hq])
  by_contra hn
  have hworks := advanceResize_first hres (by simpa using hn)
  have hsame : (s.gate.advanceResize q.id).1 = s.gate :=
    congrArg (·.1.gate) (hpoll.symm.trans (hs q hq))
  have hadvance : s.gate.advanceResize r.call = (s.gate, .pending) := by
    rw [← hid]
    exact Prod.ext hsame hpending
  rw [hadvance] at hworks
  exact hn ((h.gate.begun_iff r hmem).mpr
    (List.mem_map.mpr ⟨_, List.mem_append_right _ hworks, rfl⟩))

/-- A call that waits when it has run once leaves the gate as it was before it was started. -/
theorem Sound.started_cancel {s u : Calls} (h : s.Sound) {name : String} {kind : CallKind}
    (hpoll : (s.start name kind).poll ⟨s.nextId, name, kind⟩ = (u, none)) :
    u.gate.cancel s.nextId = s.gate := by
  have hsilent : ((s.start name kind).poll ⟨s.nextId, name, kind⟩).2 = none := by rw [hpoll]
  have hacquires (hk : ∀ target, kind ≠ .resize target)
      (hgate : (s.start name kind).gate = s.gate.request s.nextId 1) :
      u.gate.cancel s.nextId = s.gate := by
    obtain ⟨hsame, hg⟩ := poll_acquires (acquires_iff.mpr hk) hsilent
    obtain rfl : s.start name kind = u := congrArg Prod.fst (hsame.symm.trans hpoll)
    have hw : ¬1 ≤ s.gate.available := by
      intro hpos
      rw [hgate, (request_take h.fresh_caller hpos).1] at hg
      cases hg
    rw [hgate]
    exact h.gate.cancel_request h.fresh_caller hw (filter_resizes h.fresh_resizer)
  cases hk : kind with
  | acquire | acquireUntil => exact hacquires (by simp [hk]) (by rw [hk]; rfl)
  | resize target =>
    subst hk
    obtain ⟨hv, hpending, hadvance⟩ := poll_resize rfl hsilent
    have hgate : (s.start name (.resize target)).gate = s.gate.startResize s.nextId target := by
      simp [Calls.start, hv]
    obtain rfl := congrArg Prod.fst (hadvance.symm.trans hpoll)
    rw [hgate] at hpending ⊢
    exact h.gate.cancel_resize h.fresh_caller h.fresh_resizer hpending

theorem Sound.started_drop {s u : Calls} (h : s.Sound) {name : String} {kind : CallKind}
    (hpoll : (s.start name kind).poll ⟨s.nextId, name, kind⟩ = (u, none)) :
    u.drop s.nextId = { s with nextId := s.nextId + 1 } := by
  have hgate := h.started_cancel hpoll
  have hpending := poll_pending (s.start name kind) ⟨s.nextId, name, kind⟩
  have hover := h.started_over name kind
  rw [hpoll] at hpending
  have hrest : u.held = s.held ∧ u.clock = s.clock ∧ u.nextId = s.nextId + 1 := by
    rcases poll_silent (by rw [hpoll]) with hsame | ⟨r, rest, _, _, hbegin⟩
    · obtain rfl := congrArg Prod.fst (hsame.symm.trans hpoll)
      exact ⟨rfl, rfl, rfl⟩
    · obtain rfl := congrArg Prod.fst (hbegin.symm.trans hpoll)
      exact ⟨rfl, rfl, rfl⟩
  simp only at hpending
  simp only [Calls.drop, hgate, hpending, hover, hrest]

/-- What dropping a call does. Its entry leaves the queue, and what it has collected is handed to
the others from the head; the next change of the capacity has its turn if this was the one under
way, and works from the capacity that there is. Nothing else changes. -/
structure Withdrawn (s : Calls) (id : Nat) (t : Calls) : Prop where
  gone : id ∉ t.gate.callers ∧ id ∉ t.gate.resizers
  pending : t.pending = s.pending.filter (·.id != id)
  kept : t.held = s.held ∧ t.clock = s.clock ∧ t.nextId = s.nextId
  counted : t.gate.capacity = s.gate.capacity ∧ t.gate.inFlight = s.gate.inFlight ∧
    t.gate.peak = s.gate.peak ∧ t.gate.total = s.gate.total
  waiting : t.gate.waiting + (if id ∈ s.gate.callers then 1 else 0) = s.gate.waiting
  handed : ∃ served left,
    HandsOut (s.gate.collected id) (removeCall id s.gate.queue) served t.gate.queue left ∧
      t.gate.granted = removeCall id s.gate.granted ++ served ∧
      t.gate.available = s.gate.available + left
  others : t.gate.waiters.map (fun w => (w.call, w.wants)) =
    (removeCall id s.gate.waiters).map (fun w => (w.call, w.wants))
  resizes : t.gate.resizes = s.gate.resizes.filter (·.call != id)
  next : ∀ r r' rest, s.gate.resizes = r :: r' :: rest → r.call = id →
    t.gate.resizes = r' :: rest ∧
      WorksFrom s.gate.capacity t.gate.available r' (t.gate.advanceResize r'.call)

theorem Sound.drop_withdrawn {s : Calls} (h : s.Sound) (id : Nat) : Withdrawn s id (s.drop id) := by
  have hshort : ∀ w ∈ removeCall id s.gate.queue, w.got < w.wants :=
    fun w hw => h.gate.short w (mem_removeCall.mp hw).1
  have hcancel := cancel_eq s.gate id
  refine ⟨⟨?_, ?_⟩, rfl, ⟨rfl, rfl, rfl⟩, ⟨rfl, rfl, rfl, rfl⟩, h.gate.cancel_waiting id,
    ⟨_, _, hand_handsOut _ hshort, rfl, rfl⟩, cancel_wants s.gate id, rfl, ?_⟩
  · exact fun hc => (mem_cancel_callers.mp hc).2 rfl
  · intro hm
    obtain ⟨r, hr, he⟩ := List.mem_map.mp hm
    exact (mem_cancel_resizes.mp hr).2 he
  · intro r r' rest hres hcall
    have hunique := h.gate.resizes_unique
    have hturns := h.gate.turns
    rw [resizers_cons hres, List.nodup_cons, hcall] at hunique
    rw [hres] at hturns
    have hpassed : (s.drop id).gate.resizes = r' :: rest := by
      have hleft : (s.drop id).gate.resizes = s.gate.resizes.filter (·.call != id) := rfl
      rw [hleft, hres, List.filter_cons_of_neg (by simp [hcall]), filter_resizes hunique.1]
    exact ⟨hpassed, advanceResize_first hpassed (hturns r' List.mem_cons_self)⟩

/-- A call that is dropped when it has run once and waits leaves no trace. One that is dropped
later, after whatever else has happened, leaves what it has collected to the others, and nothing
else changes for them. -/
theorem drop_is_clean (capacity : Nat) (moves : List Move) :
    let s := after capacity moves
    (∀ name kind u, (s.start name kind).poll ⟨s.nextId, name, kind⟩ = (u, none) →
      u.drop s.nextId = { s with nextId := s.nextId + 1 }) ∧
    ∀ p ∈ s.pending, Withdrawn s p.id (s.drop p.id) :=
  ⟨fun _ _ _ hpoll => (sound_after capacity moves).started_drop hpoll,
    fun p _ => (sound_after capacity moves).drop_withdrawn p.id⟩

/-- Two of three permits are held. A change to one permit sweeps up the third, and gives it back if
it is dropped at once. If it is dropped when another call has queued behind it, that has the permit.
-/
theorem drop_is_clean_swept :
    let s := after 3 [.acquire "a", .poll 0, .acquire "b", .poll 1]
    let u := [.resize "c" 1, .poll 2].foldl move s
    let t := [.acquire "d", .resize "e" 2].foldl move u
    (s.gate.available = 1 ∧ u.gate.available = 0 ∧ u.drop 2 = { s with nextId := 3 }) ∧
      t.gate.queue = [⟨2, 2, 1⟩, ⟨3, 1, 0⟩] ∧ Withdrawn t 2 (t.drop 2) ∧
      (t.drop 2).gate.granted = [⟨3, 1, 1⟩] ∧ (t.drop 2).gate.resizes = [⟨4, 2, false⟩] := by
  have hnow := (drop_is_clean 3 [.acquire "a", .poll 0, .acquire "b", .poll 1]).1 "c" (.resize 1)
    ([.resize "c" 1, .poll 2].foldl move (after 3 [.acquire "a", .poll 0, .acquire "b", .poll 1]))
    (by decide)
  have hlater := (drop_is_clean 3 [.acquire "a", .poll 0, .acquire "b", .poll 1, .resize "c" 1,
    .poll 2, .acquire "d", .resize "e" 2]).2 ⟨2, "c", .resize 1⟩ (by decide)
  exact ⟨⟨by decide, by decide, hnow⟩, by decide, hlater, by decide, by decide⟩

end MetricBatch.Gate.Calls

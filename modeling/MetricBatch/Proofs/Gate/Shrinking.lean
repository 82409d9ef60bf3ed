import MetricBatch.Proofs.Gate.Draining

namespace MetricBatch.Gate

variable {ι : Type} [DecidableEq ι]

/-- A change of the capacity is over, and it was its turn. The permits that are not held have become
more, or fewer, by the difference between its target and the capacity before. -/
structure Changes (g : Gate ι) (call : ι) (target : Nat) (g' : Gate ι) : Prop where
  turn : ∃ r, g.resizes = r :: g'.resizes ∧ r.call = call ∧ r.target = target
  capacity : g'.capacity = target
  held : g'.inFlight = g.inFlight
  permits : g'.available + g'.assigned + g.capacity = g.available + g.assigned + target

theorem Balanced.changes {g g' : Gate ι} (h : g.Balanced 0) (h' : g'.Balanced 0) {r : Resize ι}
    (hres : g.resizes = r :: g'.resizes) (hcapacity : g'.capacity = r.target)
    (hheld : g'.inFlight = g.inFlight) : g.Changes r.call r.target g' := by
  have hbefore := h.balance
  have hafter := h'.balance
  exact ⟨⟨r, hres, rfl, rfl⟩, hcapacity, hheld, by omega⟩

theorem Balanced.advanceResize_changes {g : Gate ι} (h : g.Balanced 0) (call : ι) :
    match g.advanceResize call with
    | (g', .changed _) => ∃ target, g.Changes call target g'
    | (g', _) => g'.capacity = g.capacity := by
  have hafter := h.advanceResize call
  have hheld := (advanceResize_counters g call).1
  have hstep := advanceResize_advances g call
  generalize g.advanceResize call = result at hstep hafter hheld ⊢
  cases hstep with
  | wait | refuse => rfl
  | begin => exact (request_frame _ _ _).2.1
  | grow hres hcall | retire hres hcall | shrink hres hcall =>
    exact ⟨_, hcall ▸ h.changes hafter hres rfl hheld⟩

end MetricBatch.Gate

namespace MetricBatch.Gate.Calls

/-- The call of the change of the capacity that a move finishes, if it finishes one, and its
target. -/
def finished? (s : Calls) : Move → Option (Nat × Nat)
  | .poll id =>
    (s.pending.find? (·.id == id)).bind fun p =>
      match p.kind, (s.poll p).2 with
      | .resize target, some (.resized _) => some (p.id, target)
      | _, _ => none
  | _ => none

/-- The changes of the capacity that a run of moves finishes, in their order. -/
def changes (s : Calls) : List Move → List (Nat × Nat)
  | [] => []
  | m :: rest => (s.finished? m).toList ++ (s.move m).changes rest

theorem Does.capacity {s t : Calls} {m : Move} (hd : Does s m t) (hm : ∀ id, m ≠ .poll id) :
    t.gate.capacity = s.gate.capacity := by
  cases hd with
  | nothing | lineUp | askInvalid | drop | tryAcquire | release | wait => rfl
  | ask => exact (request_frame _ _ _).2.1
  | take | expire | advance | refuse => exact absurd rfl (hm _)

theorem pollOne_capacity {s : Calls} {p : PendingCall} (ha : p.acquires = true) :
    (pollOne (s, []) p).1.gate.capacity = s.gate.capacity := by
  by_cases hg : s.gate.isGranted p.id = true
  · rw [pollOne_granted ha hg]
    rfl
  · cases hk : p.kind with
    | acquire => simp [pollOne, poll, hk, takeIfGranted, hg]
    | acquireUntil deadline timeout =>
      by_cases hd : deadline ≤ s.clock
      · simp only [pollOne, poll, hk, takeIfGranted, hg, hd, ↓reduceIte]
        rfl
      · simp [pollOne, poll, hk, takeIfGranted, hg, hd]
    | resize target => simp [PendingCall.acquires, hk] at ha

/-- What a move does to the capacity. -/
theorem Sound.move_changes {s : Calls} (h : s.Sound) (m : Move) :
    match s.finished? m with
    | some (call, target) => s.gate.Changes call target (s.move m).gate ∧ (s.move m).held = s.held
    | none => (s.move m).gate.capacity = s.gate.capacity := by
  cases m with
  | acquire | acquireWithin | resize | drop | tryAcquire | release | advance =>
    exact (move_does s _).capacity (by simp)
  | poll id =>
    have hmove : s.move (.poll id) = s.pollById id := rfl
    rw [hmove, Calls.pollById, finished?]
    cases hf : s.pending.find? (·.id == id) with
    | none => rfl
    | some p =>
      have hp := List.mem_of_find?_eq_some hf
      rw [Option.bind_some]
      dsimp only
      cases hk : p.kind with
      | acquire | acquireUntil => exact pollOne_capacity (by simp [PendingCall.acquires, hk])
      | resize target =>
        by_cases hv : isValidCapacity target = true
        · have hchanges := h.gate.advanceResize_changes p.id
          rw [pollOne_resize hk hv]
          rcases hadvance : s.gate.advanceResize p.id with ⟨gate, _ | _ | old⟩
          · simpa [poll, hk, hv, hadvance] using hchanges
          · simpa [poll, hk, hv, hadvance] using hchanges
          · rw [hadvance] at hchanges
            obtain ⟨new, hchanges⟩ := hchanges
            obtain ⟨r, hres, hcall, htarget⟩ := hchanges.turn
            have hkind := h.kind_of_resizer hp (r := r) (by simp [hres]) hcall
            rw [hk, CallKind.resize.injEq, htarget] at hkind
            subst hkind
            simpa [poll, hk, hv, hadvance] using hchanges
        · rw [pollOne_invalid hk hv]
          simp [poll, hk, hv]

/-- The capacity is the target of the last change that has finished. -/
theorem Sound.capacity_after {s : Calls} (h : s.Sound) (moves : List Move) :
    (moves.foldl Calls.move s).gate.capacity =
      ((s.changes moves).map Prod.snd).getLastD s.gate.capacity := by
  induction moves generalizing s with
  | nil => rfl
  | cons m rest ih =>
    have hmove := h.move_changes m
    rw [List.foldl_cons, ih (h.move m), changes]
    cases hf : s.finished? m with
    | none =>
      rw [hf] at hmove
      rw [Option.toList_none, List.nil_append, hmove]
    | some change =>
      rw [hf] at hmove
      rw [Option.toList_some, List.singleton_append, List.map_cons, List.getLastD_cons,
        hmove.1.capacity]

/-- Nothing else changes the capacity while a change collects permits. -/
theorem Sound.collecting_capacity {s : Calls} (h : s.Sound) {p : PendingCall} (hp : p ∈ s.pending)
    (ha : p.acquires = false) (hc : p.id ∈ s.gate.callers) (m : Move)
    (hkept : p ∈ (s.move m).pending) : (s.move m).gate.capacity = s.gate.capacity := by
  have hmove := h.move_changes m
  cases hf : s.finished? m with
  | none => rwa [hf] at hmove
  | some change =>
    -- It would be over itself, but then it would not be at the gate any more.
    rw [hf] at hmove
    obtain ⟨x, hturn, _, _⟩ := hmove.1.turn
    obtain ⟨r, rest, hres, hcall, _, _⟩ := h.collector hp ha hc
    have hc' := (h.move_follows m).1.stays p hkept hc
    obtain ⟨r', rest', hres', hcall', _, _⟩ := (h.move m).collector hkept ha hc'
    have hunique := h.gate.resizes_unique
    rw [hres, hres', List.cons.injEq] at hturn
    rw [resizers_cons hres, hturn.2, List.map_cons, hcall, hcall'] at hunique
    simp at hunique

theorem collecting_capacity_after {capacity : Nat} {moves : List Move} {p : PendingCall}
    (ha : p.acquires = false) (hc : p.id ∈ (after capacity moves).gate.callers) {more : List Move}
    (hp : p ∈ (after capacity (moves ++ more)).pending) :
    (after capacity (moves ++ more)).gate.capacity = (after capacity moves).gate.capacity := by
  induction more using List.reverseRecOn with
  | nil => rw [List.append_nil]
  | append_singleton rest m ih =>
    rw [← List.append_assoc] at hp ⊢
    obtain ⟨hp', hc'⟩ := line_between hc hp
    rw [after_append] at hp ⊢
    rw [← ih hp']
    exact (sound_after capacity (moves ++ rest)).collecting_capacity hp' ha hc' m hp

/-- A change to fewer permits that is at the gate. It wants the difference, which is less than there
is. It has that just when there are no more holders than its target, and then it finishes when it
runs; before it does nothing. -/
structure Shrinks (s : Calls) (p : PendingCall) (target : Nat) : Prop where
  below : 1 ≤ target ∧ target < s.gate.capacity
  asks : ∃ w ∈ s.gate.waiters, w.call = p.id ∧ w.wants = s.gate.capacity - target
  full : s.gate.collected p.id = s.gate.capacity - target ↔ s.gate.holders p.id ≤ target
  waits : s.gate.collected p.id ≠ s.gate.capacity - target → s.poll p = (s, none)
  finishes : s.gate.collected p.id = s.gate.capacity - target →
    (s.poll p).2 = some (.resized p.name) ∧
      (s.move (.poll p.id)).gate.capacity = target ∧
      (s.move (.poll p.id)).gate.inFlight + (s.move (.poll p.id)).gate.available +
        (s.move (.poll p.id)).gate.assigned = target
  settled : s.IsSettled → target < s.held.length

theorem Sound.settled_holders {s : Calls} (h : s.Sound) (hs : s.IsSettled) (call : Nat) :
    s.gate.holders call = s.gate.inFlight := by
  simp [Gate.holders, h.settled_granted hs, removeCall]

/-- A change that has its permits keeps them for good when it runs. -/
theorem Sound.poll_retires {s : Calls} (h : s.Sound) {p : PendingCall} (hp : p ∈ s.pending)
    {r : Resize Nat} {rest : List (Resize Nat)} (hres : s.gate.resizes = r :: rest)
    (hcall : r.call = p.id) (hbegun : r.begun = true) (hg : s.gate.isGranted p.id = true) :
    (s.poll p).2 = some (.resized p.name) ∧
      (s.move (.poll p.id)).gate = s.gate.retire r rest := by
  have hmem : r ∈ s.gate.resizes := by simp [hres]
  have hk := h.kind_of_resizer hp hmem hcall
  have hv : isValidCapacity r.target = true := by
    simpa [isValidCapacity] using h.gate.targets r hmem
  have hadvance : s.gate.advanceResize p.id = (s.gate.retire r rest, .changed s.gate.capacity) := by
    simp [advanceResize, hres, hcall, hbegun, hg]
  refine ⟨by simp [poll, hk, hv, hadvance], ?_⟩
  have hmove : s.move (.poll p.id) = s.pollById p.id := rfl
  rw [hmove, h.pollById hp, pollOne_resize hk hv, hadvance]

theorem Sound.shrinks {s : Calls} (h : s.Sound) {p : PendingCall} (hp : p ∈ s.pending)
    {target : Nat} (hk : p.kind = .resize target) (hc : p.id ∈ s.gate.callers) :
    s.Shrinks p target := by
  have ha : p.acquires = false := by simp [PendingCall.acquires, hk]
  obtain ⟨r, rest, hres, hcall, hbegun, hkind⟩ := h.collector hp ha hc
  obtain rfl : target = r.target := CallKind.resize.inj (hk.symm.trans hkind)
  have hmem : r ∈ s.gate.resizes := by simp [hres]
  have hcollected := h.gate.granted_iff_collected hres hbegun
  have hholders := h.gate.granted_iff_holders hres hbegun
  rw [hcall] at hcollected hholders
  refine ⟨⟨(h.gate.targets r hmem).1, h.gate.shrinks r hmem hbegun⟩, ?_,
    hcollected.symm.trans hholders, ?_, ?_, ?_⟩
  · obtain ⟨w, hw, he⟩ := List.mem_map.mp hc
    refine ⟨w, hw, he, ?_⟩
    rw [h.gate.wants w hw, he, ← hcall]
    exact h.gate.share_of_begun hmem hbegun
  · intro hnot
    have hg : s.gate.isGranted p.id = false :=
      Bool.eq_false_iff.mpr fun hg => hnot (hcollected.mp hg)
    exact h.poll_queued hp ha (h.gate.queued_iff.mpr ⟨hc, hg⟩)
  · intro hall
    obtain ⟨hevent, hgate⟩ := h.poll_retires hp hres hcall hbegun (hcollected.mpr hall)
    have hcapacity : (s.gate.retire r rest).capacity = r.target := rfl
    have hbalance := (h.move (.poll p.id)).gate.balance
    rw [hgate] at hbalance ⊢
    exact ⟨hevent, hcapacity, by omega⟩
  · intro hs
    have hnot : ¬s.gate.isGranted p.id = true := by simp [isGranted, h.settled_granted hs]
    rw [hholders, h.settled_holders hs, ← h.held] at hnot
    exact Nat.lt_of_not_le hnot

/-- What a move does while a change to fewer permits is first in the queue, as it was before in the
first state: nobody else is granted a permit and none is available. One more permit is held only when
a call takes the one that it had been granted before, and a settled gate has no such call. -/
structure Starves (s t : Calls) (call : Nat) (m : Move) : Prop where
  drains : s.gate.Drains call (t.move m).gate
  taken : t.gate.inFlight < (t.move m).gate.inFlight →
    ∃ c, m = .poll c ∧ s.gate.isGranted c = true
  settled : s.IsSettled → (t.move m).gate.inFlight ≤ s.gate.inFlight

theorem Sound.starves {s t : Calls} (h : s.Sound) (ht : t.Sound) {p : PendingCall}
    (hp : p ∈ t.pending) (ha : p.acquires = false) (hf : t.gate.isFirst p.id = true)
    (hdrains : s.gate.Drains p.id t.gate) {m : Move} (hkept : p ∈ (t.move m).pending) :
    s.Starves t p.id m := by
  have hnext := hdrains.trans (ht.move_drains hp ha hf m hkept)
  refine ⟨hnext, fun hmore => ?_, fun hs => ?_⟩
  · obtain ⟨c, hm, hg⟩ := (move_does t m).taken hdrains.available hmore
    refine ⟨c, hm, (hdrains.granted c hg).resolve_right ?_⟩
    rintro rfl
    have hnot := (ht.gate.queued_iff.mp (first_queued hf)).2
    exact Bool.noConfusion (hnot.symm.trans hg)
  · rw [← h.settled_holders hs p.id]
    exact Nat.le_trans (Nat.le_add_right _ _) hnext.holders

/-- A change to fewer permits that is queued takes no held permit away, and as long as it is pending
the capacity stays what it was. From when it is first in the queue until it has all its permits
nobody else is granted one and none is available, so that no more are held than before. However many
changes overlap, the capacity is that of the last one that has finished, and each has added or kept
back the difference between its target and the capacity that the one before had left. Scripts are
runs of moves, and leave a settled gate after each step. -/
theorem shrink_drains (capacity : Nat) :
    (∀ script more : List Step, ∃ moves moves',
      script.foldl (fun s a => (s.step a).1) (new capacity) = after capacity moves ∧
        (script ++ more).foldl (fun s a => (s.step a).1) (new capacity) =
          after capacity (moves ++ moves') ∧
        (after capacity moves).IsSettled) ∧
    ∀ moves,
      let s := after capacity moves
      (∀ p target, p ∈ s.pending → p.kind = .resize target → s.gate.isQueued p.id = true → ∀ more,
        let t := after capacity (moves ++ more)
        (∀ name, s.held.count name ≤ t.held.count name + more.count (.release name)) ∧
        (p ∈ t.pending → t.gate.capacity = s.gate.capacity ∧ t.Shrinks p target ∧
          (s.gate.isFirst p.id = true → t.gate.isQueued p.id = true →
            t.gate.isFirst p.id = true ∧ s.gate.Drains p.id t.gate ∧
            ∀ m, p ∈ (t.move m).pending → s.Starves t p.id m))) ∧
      s.gate.capacity =
        (((new capacity).changes moves).map Prod.snd).getLastD (new capacity).gate.capacity ∧
      ∀ m call target, s.finished? m = some (call, target) →
        s.gate.Changes call target (s.move m).gate ∧ (s.move m).held = s.held := by
  refine ⟨?_, ?_⟩
  · intro script more
    obtain ⟨moves, _, hmoves⟩ := (sound_new capacity).steps_lead script
    obtain ⟨moves', _, hmoves'⟩ := (sound_after capacity moves).steps_lead more
    refine ⟨moves, moves', hmoves.symm, ?_, ?_⟩
    · rw [List.foldl_append, after_append, hmoves', after, hmoves]
    · rw [after, hmoves]
      exact script_settled capacity script
  · intro moves s
    have h : s.Sound := sound_after capacity moves
    refine ⟨?_, (sound_new capacity).capacity_after moves, ?_⟩
    · intro p target hp hk hq more t
      have ha : p.acquires = false := by simp [PendingCall.acquires, hk]
      have ht : t.Sound := sound_after capacity (moves ++ more)
      have hc := (h.gate.queued_iff.mp hq).1
      refine ⟨fun name => ?_, fun hp' => ⟨collecting_capacity_after ha hc hp', ?_, ?_⟩⟩
      · have hheld := moves_held s more name
        rwa [← after_append] at hheld
      · exact ht.shrinks hp' hk ((after_follows capacity moves more).stays p hp' hc)
      · intro hf hq'
        obtain ⟨hstill, hdrains⟩ := first_drains ha hf hp' hq'
        exact ⟨hstill, hdrains, fun m hkept => h.starves ht hp' ha hstill hdrains hkept⟩
    · intro m call target hf
      have hmove := h.move_changes m
      rwa [hf] at hmove

/-- Two of three permits are held, and a change to one permit has swept up the third. It has the
next one that is given back, and is over. Then a change to four permits adds three. -/
theorem shrink_drains_overlapping :
    let s := after 3 [.acquire "a", .poll 0, .acquire "b", .poll 1, .resize "c" 1, .poll 2]
    let t := after 3 [.acquire "a", .poll 0, .acquire "b", .poll 1, .resize "c" 1, .poll 2,
      .resize "d" 4, .poll 3]
    let u := t.move (.release "a")
    let v := [.poll 2, .poll 3].foldl move u
    s.gate.isFirst 2 = true ∧ s.gate.Drains 2 u.gate ∧ u.gate.inFlight ≤ s.gate.inFlight ∧
      (u.poll ⟨2, "c", .resize 1⟩).2 = some (.resized "c") ∧
      s.gate.capacity = 3 ∧ u.gate.capacity = 3 ∧ v.gate.capacity = 4 ∧
      ((u.move (.poll 2)).gate.Changes 3 4 v.gate ∧ v.gate.available = 3) := by
  have hqueued := ((shrink_drains 3).2 [.acquire "a", .poll 0, .acquire "b", .poll 1,
    .resize "c" 1, .poll 2]).1 ⟨2, "c", .resize 1⟩ 1 (by decide) rfl (by decide)
  obtain ⟨_, _, hfirst⟩ := (hqueued [.resize "d" 4, .poll 3]).2 (by decide)
  obtain ⟨_, _, hlast⟩ := hfirst (by decide) (by decide)
  have hstarves := hlast (.release "a") (by decide)
  obtain ⟨hkept, hshrinks, _⟩ := (hqueued [.resize "d" 4, .poll 3, .release "a"]).2 (by decide)
  have hgrows := ((shrink_drains 3).2 [.acquire "a", .poll 0, .acquire "b", .poll 1,
    .resize "c" 1, .poll 2, .resize "d" 4, .poll 3, .release "a", .poll 2]).2.2 (.poll 3) 3 4
    (by decide)
  exact ⟨by decide, hstarves.drains, hstarves.settled (by decide),
    (hshrinks.finishes (by decide)).1, by decide, hkept, by decide, hgrows.1, by decide⟩

end MetricBatch.Gate.Calls

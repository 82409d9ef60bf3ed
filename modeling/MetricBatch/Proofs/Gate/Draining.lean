import MetricBatch.Proofs.Gate.Turns

namespace MetricBatch.Gate

variable {ι : Type} [DecidableEq ι]

/-- A call stands first in the queue. -/
def isFirst (g : Gate ι) (call : ι) : Bool := g.queue.head?.any (·.call == call)

/-- The permits that are held, and those that calls other than this one have been granted and not
taken. -/
def holders (g : Gate ι) (call : ι) : Nat := g.inFlight + permitsOf (removeCall call g.granted)

theorem isFirst_iff {g : Gate ι} {call : ι} :
    g.isFirst call = true ↔ ∃ w rest, g.queue = w :: rest ∧ w.call = call := by
  cases hq : g.queue with
  | nil => simp [isFirst, hq]
  | cons w rest => simp [isFirst, hq]

theorem first_queued {g : Gate ι} {call : ι} (h : g.isFirst call = true) :
    g.isQueued call = true := by
  obtain ⟨w, rest, hq, hcall⟩ := isFirst_iff.mp h
  exact isQueued_iff.mpr ⟨w, by simp [hq], hcall⟩

omit [DecidableEq ι] in
theorem permitsOf_eq_zero {ws : List (Waiter ι)} (h : ∀ w ∈ ws, w.got = 0) : permitsOf ws = 0 := by
  induction ws with
  | nil => rfl
  | cons w rest ih =>
    rw [List.forall_mem_cons] at h
    rw [permitsOf_cons, h.1, ih h.2]

/-- Beside the change of the capacity that is under way, everybody wants one permit. -/
theorem Balanced.wants_one {g : Gate ι} {n : Nat} (h : g.Balanced n) {r : Resize ι}
    {rest : List (Resize ι)} (hres : g.resizes = r :: rest) {w : Waiter ι} (hw : w ∈ g.waiters)
    (hne : w.call ≠ r.call) : w.wants = 1 := by
  rw [h.wants w hw]
  apply share_eq_one
  intro x hx
  simp only [hres, List.head?_cons, Option.mem_def, Option.some.injEq] at hx
  rw [← hx]
  exact hne.symm

theorem Balanced.collected_le_one {g : Gate ι} {n : Nat} (h : g.Balanced n) {r : Resize ι}
    {rest : List (Resize ι)} (hres : g.resizes = r :: rest) {call : ι} (hne : call ≠ r.call) :
    g.collected call ≤ 1 := by
  by_cases hc : call ∈ g.callers
  · obtain ⟨w, hw, rfl⟩ := List.mem_map.mp hc
    have hone := h.wants_one hres hw hne
    rw [collected_of_mem h.unique hw]
    rcases List.mem_append.mp hw with hm | hm
    · exact Nat.le_of_eq ((h.full w hm).trans hone)
    · exact hone ▸ Nat.le_of_lt (h.short w hm)
  · rw [collected_eq_zero hc]
    exact Nat.zero_le _

/-- All permits are available, with the change that is under way, or with others who hold them or
have been granted them. -/
theorem Balanced.holders_balance {g : Gate ι} (h : g.Balanced 0) {r : Resize ι}
    {rest : List (Resize ι)} (hres : g.resizes = r :: rest) :
    g.available + g.holders r.call + g.collected r.call = g.capacity := by
  have hqueue : permitsOf (removeCall r.call g.queue) = 0 := by
    refine permitsOf_eq_zero fun w hw => ?_
    obtain ⟨hm, hne⟩ := mem_removeCall.mp hw
    have hone := h.wants_one hres (List.mem_append_right _ hm) hne
    have hshort := h.short w hm
    omega
  have hsplit := permitsOf_removeCall r.call g.waiters
  have hbalance := h.balance
  rw [waiters, removeCall_append, permitsOf_append, hqueue] at hsplit
  simp only [assigned, collected, holders, waiters] at hbalance hsplit ⊢
  omega

theorem Balanced.collected_queued {g : Gate ι} {n : Nat} (h : g.Balanced n) {call : ι}
    (hq : g.isQueued call = true) : g.collected call < g.share call := by
  obtain ⟨w, hw, rfl⟩ := isQueued_iff.mp hq
  have hm : w ∈ g.waiters := List.mem_append_right _ hw
  rw [collected_of_mem h.unique hm, ← h.wants w hm]
  exact h.short w hw

/-- A change has its permits when it has collected the difference. -/
theorem Balanced.granted_iff_collected {g : Gate ι} (h : g.Balanced 0) {r : Resize ι}
    {rest : List (Resize ι)} (hres : g.resizes = r :: rest) (hbegun : r.begun = true) :
    g.isGranted r.call = true ↔ g.collected r.call = g.capacity - r.target := by
  have hmem : r ∈ g.resizes := by simp [hres]
  rw [← h.share_of_begun hmem hbegun]
  refine ⟨fun hg => h.collected_granted hg, fun hall => ?_⟩
  by_contra hg
  have hc := (h.begun_iff r hmem).mp hbegun
  have hshort := h.collected_queued (h.queued_iff.mpr ⟨hc, by simpa using hg⟩)
  omega

/-- That is when there are no more holders than its target. -/
theorem Balanced.granted_iff_holders {g : Gate ι} (h : g.Balanced 0) {r : Resize ι}
    {rest : List (Resize ι)} (hres : g.resizes = r :: rest) (hbegun : r.begun = true) :
    g.isGranted r.call = true ↔ g.holders r.call ≤ r.target := by
  have hmem : r ∈ g.resizes := by simp [hres]
  have hbalance := h.holders_balance hres
  have hlt := h.shrinks r hmem hbegun
  constructor
  · intro hg
    have hall := (h.granted_iff_collected hres hbegun).mp hg
    omega
  · intro hle
    by_contra hg
    have hc := (h.begun_iff r hmem).mp hbegun
    have hq := h.queued_iff.mpr ⟨hc, by simpa using hg⟩
    have hnone := h.queued_none_available hq
    have hshort := h.collected_queued hq
    rw [h.share_of_begun hmem hbegun] at hshort
    omega

/-- What is so of a gate, and what has not become more, since a call was first in the queue. -/
structure Drains (g : Gate ι) (call : ι) (g' : Gate ι) : Prop where
  line : g'.isFirst call = true ∨ g'.isGranted call = true
  available : g'.available = 0
  granted : ∀ c, g'.isGranted c = true → g.isGranted c = true ∨ c = call
  holders : g'.holders call ≤ g.holders call

theorem Counted.drains_refl {g : Gate ι} {n : Nat} (h : g.Counted n) {call : ι}
    (hf : g.isFirst call = true) : g.Drains call g :=
  ⟨.inl hf, h.queued_none_available (first_queued hf), fun _ hc => .inl hc, Nat.le_refl _⟩

theorem Drains.trans {g g₁ g₂ : Gate ι} {call : ι} (h : g.Drains call g₁) (h' : g₁.Drains call g₂) :
    g.Drains call g₂ := by
  refine ⟨h'.line, h'.available, fun c hc => ?_, Nat.le_trans h'.holders h.holders⟩
  rcases h'.granted c hc with hg | he
  · exact h.granted c hg
  · exact .inr he

omit [DecidableEq ι] in
/-- A permit that comes free is for the first in the queue, and for nobody else. -/
theorem addPermits_first {g : Gate ι} {n : Nat} {w : Waiter ι} {rest : List (Waiter ι)}
    (hq : g.queue = w :: rest) (hshort : ∀ x ∈ g.queue, x.got < x.wants) (hn : n ≤ 1) :
    g.addPermits n = { g with queue := { w with got := w.got + n } :: rest } ∨
      g.addPermits n =
        { g with queue := rest, granted := g.granted ++ [{ w with got := w.wants }] } := by
  rw [hq, List.forall_mem_cons] at hshort
  by_cases hw : w.wants ≤ w.got + n
  · have hnone : w.got + n - w.wants = 0 := by omega
    have hhand : hand n g.queue = ([{ w with got := w.wants }], rest, 0) := by
      simp [hq, hand, hw, hnone, hand_zero hshort.2]
    exact .inr (by rw [addPermits_eq, hhand, Nat.add_zero])
  · have hhand : hand n g.queue = ([], { w with got := w.got + n } :: rest, 0) := by
      simp [hq, hand, hw]
    exact .inl (by rw [addPermits_eq, hhand, Nat.add_zero, List.append_nil])

theorem addPermits_drains {g : Gate ι} {n : Nat} {call : ι} (hf : g.isFirst call = true)
    (hnone : g.available = 0) (hshort : ∀ x ∈ g.queue, x.got < x.wants) (hn : n ≤ 1) :
    g.Drains call (g.addPermits n) := by
  obtain ⟨w, rest, hq, rfl⟩ := isFirst_iff.mp hf
  rcases addPermits_first hq hshort hn with heq | heq
  · rw [heq]
    exact ⟨.inl (isFirst_iff.mpr ⟨_, rest, rfl, rfl⟩), hnone, fun _ hc => .inl hc, Nat.le_refl _⟩
  · rw [heq]
    refine ⟨.inr (isGranted_iff.mpr ⟨{ w with got := w.wants }, by simp, rfl⟩), hnone, ?_, ?_⟩
    · intro c hc
      obtain ⟨x, hx, rfl⟩ := isGranted_iff.mp hc
      rcases List.mem_append.mp hx with hm | hm
      · exact .inl (isGranted_iff.mpr ⟨x, hm, rfl⟩)
      · rw [List.mem_singleton.mp hm]
        exact .inr rfl
    · simp [Gate.holders, removeCall]

/-- Whoever else leaves takes no place from the first in the queue. -/
theorem remove_drains {g : Gate ι} {call c : ι} (hf : g.isFirst call = true)
    (hnone : g.available = 0) (hne : c ≠ call) (resizes : List (Resize ι)) :
    g.Drains call ({ g with resizes }.remove c) := by
  obtain ⟨w, rest, hq, rfl⟩ := isFirst_iff.mp hf
  refine ⟨.inl (isFirst_iff.mpr ⟨w, removeCall c rest, ?_, rfl⟩), hnone, ?_, ?_⟩
  · simp [Gate.remove, hq, removeCall, hne.symm]
  · intro x hx
    obtain ⟨v, hv, rfl⟩ := isGranted_iff.mp hx
    exact .inl (isGranted_iff.mpr ⟨v, (mem_removeCall.mp hv).1, rfl⟩)
  · have hswap : removeCall w.call (removeCall c g.granted) =
        removeCall c (removeCall w.call g.granted) := List.filter_comm ..
    have hsplit := permitsOf_removeCall c (removeCall w.call g.granted)
    simp only [Gate.holders, Gate.remove, hswap]
    omega

section

variable {g : Gate ι} {r : Resize ι} {rest : List (Resize ι)}

theorem Balanced.request_drains (h : g.Balanced 0) {call c : ι} (hf : g.isFirst call = true) :
    g.Drains call (g.request c 1) := by
  have hnone := h.queued_none_available (first_queued hf)
  obtain ⟨w, tail, hq, hcall⟩ := isFirst_iff.mp hf
  have hrequest : g.request c 1 = { g with queue := g.queue ++ [⟨c, 1, 0⟩] } := by
    simp [Gate.request, hnone]
  rw [hrequest]
  refine ⟨.inl (isFirst_iff.mpr ⟨w, tail ++ [⟨c, 1, 0⟩], ?_, hcall⟩), hnone, fun _ hc => .inl hc,
    Nat.le_refl _⟩
  rw [hq, List.cons_append]

/-- A call that takes the permit that it has been granted was counted among the holders before. -/
theorem Balanced.take_drains (h : g.Balanced 0) (hres : g.resizes = r :: rest)
    (hf : g.isFirst r.call = true) {c : ι} (hne : c ≠ r.call) (hg : g.isGranted c = true) :
    g.Drains r.call (g.take c) := by
  have hnone := h.queued_none_available (first_queued hf)
  obtain ⟨hline, havailable, hgranted, _⟩ := remove_drains hf hnone hne g.resizes
  refine ⟨hline, havailable, hgranted, ?_⟩
  have hone : permitsOf (g.granted.filter (·.call == c)) = 1 := by
    obtain ⟨w, hw, rfl⟩ := isGranted_iff.mp hg
    have hunique := h.unique
    rw [callers, waiters, List.map_append, List.nodup_append] at hunique
    rw [permitsOf_call hunique.1 hw, h.full w hw]
    exact h.wants_one hres (List.mem_append_left _ hw) hne
  have hswap : removeCall r.call (removeCall c g.granted) =
      removeCall c (removeCall r.call g.granted) := List.filter_comm ..
  have hsplit := permitsOf_removeCall c (removeCall r.call g.granted)
  rw [filter_removeCall hne, hone] at hsplit
  simp only [Gate.holders, Gate.take, Gate.countHeld, Gate.remove, hswap]
  omega

theorem Balanced.cancel_drains (h : g.Balanced 0) (hres : g.resizes = r :: rest)
    (hf : g.isFirst r.call = true) {c : ι} (hne : c ≠ r.call) : g.Drains r.call (g.cancel c) := by
  have hnone := h.queued_none_available (first_queued hf)
  have hleft := remove_drains hf hnone hne (g.resizes.filter (·.call != c))
  have hstill : ({ g with resizes := g.resizes.filter (·.call != c) }.remove c).isFirst r.call =
      true := by
    obtain ⟨w, tail, hq, hcall⟩ := isFirst_iff.mp hf
    refine isFirst_iff.mpr ⟨w, removeCall c tail, ?_, hcall⟩
    simp [Gate.remove, hq, removeCall, hcall, hne.symm]
  refine hleft.trans (addPermits_drains hstill hleft.available ?_ (h.collected_le_one hres hne))
  exact fun x hx => h.short x (mem_removeCall.mp hx).1

theorem Balanced.release_drains (h : g.Balanced 0) {call : ι} (hf : g.isFirst call = true) :
    g.Drains call g.release := by
  have hnone := h.queued_none_available (first_queued hf)
  have hback : g.Drains call { g with inFlight := g.inFlight - 1 } :=
    ⟨.inl hf, hnone, fun _ hc => .inl hc, Nat.add_le_add_right (Nat.sub_le _ _) _⟩
  exact hback.trans (addPermits_drains hf hnone h.short (Nat.le_refl 1))

end

end MetricBatch.Gate

namespace MetricBatch.Gate.Calls

/-- A held permit is gone only when it is given back. -/
theorem Does.held {s t : Calls} {m : Move} (hd : Does s m t) (name : String) :
    s.held.count name ≤ t.held.count name + if m = .release name then 1 else 0 := by
  cases hd with
  | nothing | ask | lineUp | askInvalid | expire | advance | refuse | drop | wait =>
    exact Nat.le_add_right _ _
  | take | tryAcquire =>
    simp only [List.count_append]
    omega
  | @release back hname =>
    by_cases he : back = name
    · subst he
      have hback := List.count_erase_self (a := back) (l := s.held)
      simp only [hback, ↓reduceIte]
      omega
    · simp [List.count_erase_of_ne (Ne.symm he), he]

theorem moves_held (s : Calls) (moves : List Move) (name : String) :
    s.held.count name ≤ (moves.foldl move s).held.count name + moves.count (.release name) := by
  induction moves generalizing s with
  | nil => exact Nat.le_refl _
  | cons m rest ih =>
    have hfirst := (move_does s m).held name
    have hrest := ih (s.move m)
    rw [List.count_cons, List.foldl_cons]
    simp only [beq_iff_eq] at hfirst ⊢
    omega

/-- Where no permit is available, one more is held only when a call takes the one that it has been
granted. -/
theorem Does.taken {s t : Calls} {m : Move} (hd : Does s m t) (hnone : s.gate.available = 0)
    (hmore : s.gate.inFlight < t.gate.inFlight) :
    ∃ call, m = .poll call ∧ s.gate.isGranted call = true := by
  cases hd with
  | nothing | lineUp | askInvalid | expire | refuse | drop | wait =>
    exact absurd hmore (Nat.lt_irrefl _)
  | ask =>
    have hsame := (request_frame s.gate s.nextId 1).2.2.1
    exact absurd hmore (Nat.not_lt_of_le (Nat.le_of_eq hsame))
  | take _ _ hg => exact ⟨_, rfl, hg⟩
  | @advance q =>
    have hsame := (advanceResize_counters s.gate q.id).1
    exact absurd hmore (Nat.not_lt_of_le (Nat.le_of_eq hsame))
  | tryAcquire _ hpos => omega
  | release => exact absurd hmore (Nat.not_lt_of_le (Nat.sub_le _ _))

/-- One move while a change to fewer permits is first in the queue. -/
theorem Sound.move_drains {s : Calls} (h : s.Sound) {p : PendingCall} (hp : p ∈ s.pending)
    (ha : p.acquires = false) (hf : s.gate.isFirst p.id = true) (m : Move)
    (hkept : p ∈ (s.move m).pending) : s.gate.Drains p.id (s.move m).gate := by
  obtain ⟨hc, hg⟩ := h.gate.queued_iff.mp (first_queued hf)
  obtain ⟨r, rest, hres, hcall, hbegun, _⟩ := h.collector hp ha hc
  rw [← hcall] at hf hg ⊢
  have hsame := h.gate.drains_refl hf
  have hd := move_does s m
  generalize s.move m = t at hd hkept ⊢
  cases hd with
  | nothing | askInvalid | refuse | wait => exact hsame
  | lineUp => exact ⟨hsame.line, hsame.available, hsame.granted, hsame.holders⟩
  | ask => exact h.gate.request_drains hf
  | @take q hq haq hgq =>
    have hne : q.id ≠ r.call := fun he => (mem_over hkept).2 (hcall.symm.trans he.symm)
    exact h.gate.take_drains hres hf hne hgq
  | @expire q | @drop q =>
    have hne : q.id ≠ r.call := fun he => (mem_over hkept).2 (hcall.symm.trans he.symm)
    exact h.gate.cancel_drains hres hf hne
  | @advance q =>
    rw [advanceResize_begun hres hbegun hg]
    exact hsame
  | tryAcquire _ hpos =>
    have hnone := hsame.available
    omega
  | release => exact h.gate.release_drains hf

/-- From when a change to fewer permits is first in the queue until it has all its permits. -/
theorem first_drains {capacity : Nat} {moves : List Move} {p : PendingCall}
    (ha : p.acquires = false) (hf : (after capacity moves).gate.isFirst p.id = true)
    {more : List Move} (hp : p ∈ (after capacity (moves ++ more)).pending)
    (hq : (after capacity (moves ++ more)).gate.isQueued p.id = true) :
    (after capacity (moves ++ more)).gate.isFirst p.id = true ∧
      (after capacity moves).gate.Drains p.id (after capacity (moves ++ more)).gate := by
  induction more using List.reverseRecOn with
  | nil =>
    rw [List.append_nil]
    exact ⟨hf, (sound_after capacity moves).gate.drains_refl hf⟩
  | append_singleton rest m ih =>
    have ht := sound_after capacity (moves ++ rest)
    have hu := sound_after capacity (moves ++ rest ++ [m])
    have hlast := after_follows capacity (moves ++ rest) [m]
    have hc := ((sound_after capacity moves).gate.queued_iff.mp (first_queued hf)).1
    rw [← List.append_assoc] at hp hq ⊢
    obtain ⟨hp', hc'⟩ := line_between hc hp
    have hnot := (hu.gate.queued_iff.mp hq).2
    have hq' := ht.gate.queued_iff.mpr ⟨hc', hlast.not_granted hp hnot⟩
    obtain ⟨hstill, hdrains⟩ := ih hp' hq'
    rw [after_append] at hp hnot ⊢
    have hstep := ht.move_drains hp' ha hstill m hp
    refine ⟨hstep.line.resolve_right fun hg => ?_, hdrains.trans hstep⟩
    exact Bool.noConfusion (hnot.symm.trans hg)

end MetricBatch.Gate.Calls

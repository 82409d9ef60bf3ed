import MetricBatch.Proofs.Gate.Shrinking

namespace MetricBatch.Gate

variable {ι : Type} [DecidableEq ι]

/-- A change that has begun has no more to collect than a change can. -/
def Narrow (g : Gate ι) : Prop :=
  ∀ r ∈ g.resizes, r.begun = true → g.capacity - r.target ≤ maxSurplus

omit [DecidableEq ι] in
theorem narrow_of_unbegun {g : Gate ι} (h : ∀ r ∈ g.resizes, r.begun = false) : g.Narrow := by
  intro r hr hbegun
  rw [h r hr] at hbegun
  cases hbegun

theorem Balanced.advanceResize_narrow {g : Gate ι} (h : g.Balanced 0) (hn : g.Narrow) (call : ι) :
    (g.advanceResize call).1.Narrow := by
  have hturns := h.turns
  have hstep := advanceResize_advances g call
  generalize g.advanceResize call = result at hstep ⊢
  cases hstep with
  | wait => exact hn
  | grow hres | refuse hres | retire hres | shrink hres =>
    rw [hres] at hturns
    exact narrow_of_unbegun hturns
  | @begin r rest hres _ _ _ hmax =>
    rw [hres] at hturns
    have hcapacity : (g.beginShrink r rest).capacity = g.capacity := (request_frame _ _ _).2.1
    intro x hx hbegun
    rw [beginShrink_resizes] at hx
    rw [hcapacity]
    rcases List.mem_cons.mp hx with rfl | hm
    · exact hmax
    · rw [hturns x hm] at hbegun
      cases hbegun

/-- A change is refused just if it has its turn and would have too many permits to collect. -/
theorem refused_iff {g : Gate ι} (hn : g.Narrow) {r : Resize ι} {rest : List (Resize ι)}
    (hres : g.resizes = r :: rest) :
    (g.advanceResize r.call).2 = .refused ↔ maxSurplus < g.capacity - r.target := by
  constructor
  · intro hrefused
    have hstep := advanceResize_advances g r.call
    generalize g.advanceResize r.call = result at hstep hrefused
    cases hstep with
    | wait | grow | retire | begin | shrink => cases hrefused
    | refuse hres' _ _ hmax =>
      obtain ⟨rfl, rfl⟩ := List.cons.inj (hres.symm.trans hres')
      exact hmax
  · intro hmax
    have hunbegun : r.begun = false := by
      by_contra hbegun
      have hnarrow := hn r (by simp [hres]) (by simpa using hbegun)
      omega
    have hlt : ¬g.capacity ≤ r.target := by
      intro hle
      rw [Nat.sub_eq_zero_of_le hle] at hmax
      exact absurd hmax (Nat.not_lt_zero _)
    simp [advanceResize, hres, hunbegun, hlt, hmax]

/-- Only the first change finishes. -/
theorem finished_first {g : Gate ι} {call : ι} (h : (g.advanceResize call).2 ≠ .pending) :
    ∃ r rest, g.resizes = r :: rest ∧ r.call = call := by
  have hstep := advanceResize_advances g call
  generalize g.advanceResize call = result at hstep h
  cases hstep with
  | wait | begin => exact absurd rfl h
  | grow hres hcall | refuse hres hcall | retire hres hcall | shrink hres hcall =>
    exact ⟨_, _, hres, hcall⟩

/-- Whoever is refused only leaves the line of changes. -/
theorem Balanced.refused_leaves {g : Gate ι} (h : g.Balanced 0) {call : ι}
    (hrefused : (g.advanceResize call).2 = .refused) :
    (g.advanceResize call).1 = { g with resizes := g.resizes.filter (·.call != call) } := by
  have hunique := h.resizes_unique
  have hstep := advanceResize_advances g call
  generalize g.advanceResize call = result at hstep hrefused ⊢
  cases hstep with
  | wait | grow | retire | begin | shrink => cases hrefused
  | refuse hres hcall =>
    rw [resizers_cons hres, List.nodup_cons, hcall] at hunique
    rw [hres, List.filter_cons_of_neg (by simp [hcall]), filter_resizes hunique.1]

end MetricBatch.Gate

namespace MetricBatch.Gate.Calls

theorem Does.narrow {s t : Calls} {m : Move} (hd : Does s m t) (h : s.Sound)
    (hn : s.gate.Narrow) : t.gate.Narrow := by
  cases hd with
  | nothing | askInvalid | take | refuse | tryAcquire | release | wait => exact hn
  | ask =>
    obtain ⟨hres, hcapacity, _⟩ := request_frame s.gate s.nextId 1
    simpa only [Narrow, hres, hcapacity] using hn
  | lineUp =>
    intro r hr hbegun
    rcases List.mem_append.mp hr with hm | hm
    · exact hn r hm hbegun
    · rw [List.mem_singleton.mp hm] at hbegun
      cases hbegun
  | expire | drop => exact fun r hr => hn r (mem_cancel_resizes.mp hr).1
  | @advance p => exact h.gate.advanceResize_narrow hn p.id

theorem narrow_after (capacity : Nat) (moves : List Move) : (after capacity moves).gate.Narrow := by
  induction moves using List.reverseRecOn with
  | nil => exact nofun
  | append_singleton rest m ih =>
    rw [after_append]
    exact (move_does _ m).narrow (sound_after capacity rest) ih

/-- The state without a call that has nothing at the gate but its place among the changes. -/
def without (s : Calls) (id : Nat) : Calls :=
  { s with
    gate := { s.gate with resizes := s.gate.resizes.filter (·.call != id) }
    pending := s.pending.filter (·.id != id) }

/-- A change of the capacity finishes in one of two ways. -/
theorem poll_finishes {s : Calls} {p : PendingCall} {target : Nat} (hk : p.kind = .resize target)
    {e : Event} (he : (s.poll p).2 = some e) :
    (e = .failed p.name (.invalidCapacity target) ∧
        (¬isValidCapacity target = true ∨
          isValidCapacity target = true ∧ (s.gate.advanceResize p.id).2 = .refused)) ∨
      (e = .resized p.name ∧ isValidCapacity target = true ∧
        ∃ old, (s.gate.advanceResize p.id).2 = .changed old) := by
  by_cases hv : isValidCapacity target = true
  · rcases ha : s.gate.advanceResize p.id with ⟨gate, _ | _ | old⟩
    · simp [poll, hk, hv, ha] at he
    · simp only [poll, hk, hv, ↓reduceIte, ha, Option.some.injEq] at he
      exact .inl ⟨he.symm, .inr ⟨hv, rfl⟩⟩
    · simp only [poll, hk, hv, ↓reduceIte, ha, Option.some.injEq] at he
      exact .inr ⟨he.symm, hv, old, rfl⟩
  · simp only [poll, hk, hv] at he
    exact .inl ⟨(Option.some.inj he).symm, .inl hv⟩

/-- Whoever is at the gate, to collect permits, is not refused any more. -/
theorem Sound.collecting_not_refused {s : Calls} (h : s.Sound) {p : PendingCall}
    (hp : p ∈ s.pending) {target : Nat} (hk : p.kind = .resize target)
    (hc : p.id ∈ s.gate.callers) :
    (s.poll p).2 ≠ some (.failed p.name (.invalidCapacity target)) := by
  intro he
  have ha : p.acquires = false := by simp [PendingCall.acquires, hk]
  obtain ⟨r, rest, hres, hcall, hbegun, hkind⟩ := h.collector hp ha hc
  obtain rfl : target = r.target := CallKind.resize.inj (hk.symm.trans hkind)
  rcases poll_finishes hk he with ⟨_, hinvalid | ⟨_, hrefused⟩⟩ | ⟨hresized, _⟩
  · exact h.invalid_not_resizer hp hk hinvalid (List.mem_map.mpr ⟨r, by simp [hres], hcall⟩)
  · have hstep := advanceResize_advances s.gate p.id
    generalize s.gate.advanceResize p.id = result at hstep hrefused
    cases hstep with
    | wait | grow | retire | begin | shrink => cases hrefused
    | refuse hres' _ hunbegun =>
      obtain ⟨rfl, rfl⟩ := List.cons.inj (hres.symm.trans hres')
      rw [hbegun] at hunbegun
      cases hunbegun
  · cases hresized

theorem Sound.refused_without {s : Calls} (h : s.Sound) {p : PendingCall} (hp : p ∈ s.pending)
    {target : Nat} (hk : p.kind = .resize target)
    (he : (s.poll p).2 = some (.failed p.name (.invalidCapacity target))) :
    s.move (.poll p.id) = s.without p.id := by
  have hmove : s.move (.poll p.id) = (Calls.pollOne (s, []) p).1 := h.pollById hp
  rw [hmove]
  rcases poll_finishes hk he with ⟨_, hinvalid | ⟨hv, hrefused⟩⟩ | ⟨hresized, _⟩
  · rw [pollOne_invalid hk hinvalid, without,
      filter_resizes (h.invalid_not_resizer hp hk hinvalid)]
  · rw [pollOne_resize hk hv, h.gate.refused_leaves hrefused, hrefused]
    rfl
  · cases hresized

/-- A call that is pending after it has run has returned nothing. -/
theorem silent_of_pending {s : Calls} {p : PendingCall}
    (hp : p ∈ (Calls.pollOne (s, []) p).1.pending) : (s.poll p).2 = none := by
  rcases hpoll : s.poll p with ⟨t, _ | e⟩
  · rfl
  · simp [Calls.pollOne, hpoll] at hp

/-- A call that is refused in the end has done nothing in the meantime. -/
theorem refused_idle {capacity : Nat} {before later : List Move} {p : PendingCall} {target : Nat}
    (hk : p.kind = .resize target) (hp : p ∈ (after capacity before).pending)
    (hp' : p ∈ (after capacity (before ++ .poll p.id :: later)).pending)
    (he : ((after capacity (before ++ .poll p.id :: later)).poll p).2 =
      some (.failed p.name (.invalidCapacity target))) :
    (after capacity before).move (.poll p.id) = after capacity before := by
  have h := sound_after capacity before
  have hsplit : before ++ .poll p.id :: later = before ++ [.poll p.id] ++ later := by simp
  rw [hsplit] at hp' he
  have hrest := after_follows capacity (before ++ [.poll p.id]) later
  have hone : after capacity (before ++ [.poll p.id]) = (after capacity before).move (.poll p.id) :=
    after_append ..
  rw [hone] at hrest
  have hfresh := Nat.lt_of_lt_of_le (h.fresh p hp) (h.move_follows (.poll p.id)).1.fresh
  have hstill := hrest.pending p hp' hfresh
  have hmove : (after capacity before).move (.poll p.id) =
      (Calls.pollOne (after capacity before, []) p).1 := h.pollById hp
  have hsilent : ((after capacity before).poll p).2 = none := by
    rw [hmove] at hstill
    exact silent_of_pending hstill
  obtain ⟨hv, hpending, hpoll⟩ := poll_resize hk hsilent
  rw [hmove, pollOne_resize hk hv, hpending]
  rcases advanceResize_silent hpending with hsame | ⟨r, rest, _, hcall, _, hbegin⟩
  · rw [hsame]
    rfl
  · -- It would have come to the line, and whoever is there is not refused.
    have hjoined : p.id ∈ ((after capacity before).move (.poll p.id)).gate.callers := by
      rw [hmove, pollOne_resize hk hv, hbegin, ← hcall]
      exact (beginShrink_callers _ r rest).mem_iff.mpr List.mem_cons_self
    exact absurd he ((sound_after capacity _).collecting_not_refused hp' hk
      (hrest.stays p hp' hjoined))

/-- Why a change of the capacity is refused when it finishes: no gate can have its target, or it
lies so far below the capacity that one change cannot collect the difference. -/
theorem refuses_iff {capacity : Nat} {moves : List Move} {p : PendingCall} {target : Nat}
    (hp : p ∈ (after capacity moves).pending) (hk : p.kind = .resize target) {e : Event}
    (he : ((after capacity moves).poll p).2 = some e) :
    e = .failed p.name (.invalidCapacity target) ↔
      ¬(1 ≤ target ∧ target ≤ maxCapacity) ∨
        maxSurplus < (after capacity moves).gate.capacity - target := by
  have h := sound_after capacity moves
  have hvalid : isValidCapacity target = true ↔ 1 ≤ target ∧ target ≤ maxCapacity := by
    simp [isValidCapacity]
  have hfirst (hover : ((after capacity moves).gate.advanceResize p.id).2 ≠ .pending) :
      ((after capacity moves).gate.advanceResize p.id).2 = .refused ↔
        maxSurplus < (after capacity moves).gate.capacity - target := by
    obtain ⟨r, rest, hres, hcall⟩ := finished_first hover
    have hkind := h.kind_of_resizer hp (r := r) (by simp [hres]) hcall
    rw [hk, CallKind.resize.injEq] at hkind
    rw [← hcall, hkind]
    exact refused_iff (narrow_after capacity moves) hres
  rw [← hvalid]
  rcases poll_finishes hk he with ⟨rfl, hinvalid | ⟨hv, hrefused⟩⟩ | ⟨rfl, hv, old, hchanged⟩
  · simp [hinvalid]
  · have hmax := (hfirst (by simp [hrefused])).mp hrefused
    simp [hmax]
  · have hfits : ¬maxSurplus < (after capacity moves).gate.capacity - target := by
      rw [← hfirst (by simp [hchanged]), hchanged]
      simp
    simp [hv, hfits]

/-- A change of the capacity that finishes has changed it, or its target is refused as an invalid
capacity. It is refused if no gate can have it, but also if it lies too far below the capacity when
the change has its turn. A change that is refused has only stood in line behind other changes: it
did nothing when it ran before, and then nothing happens but that it is gone. -/
theorem resize_refused_iff (capacity : Nat) (moves : List Move) :
    let s := after capacity moves
    (∀ name target, (s.move (.resize name target)) =
      { s with
        gate.resizes := s.gate.resizes ++
          if isValidCapacity target then [⟨s.nextId, target, false⟩] else []
        nextId := s.nextId + 1
        pending := s.pending ++ [⟨s.nextId, name, .resize target⟩] }) ∧
    ∀ p target e, p ∈ s.pending → p.kind = .resize target → (s.poll p).2 = some e →
      (e = .resized p.name ∨ e = .failed p.name (.invalidCapacity target)) ∧
      (e = .failed p.name (.invalidCapacity target) ↔
        ¬(1 ≤ target ∧ target ≤ maxCapacity) ∨ maxSurplus < s.gate.capacity - target) ∧
      (e = .failed p.name (.invalidCapacity target) →
        s.move (.poll p.id) = s.without p.id ∧
        ∀ before later, moves = before ++ .poll p.id :: later →
          p ∈ (after capacity before).pending →
          (after capacity before).move (.poll p.id) = after capacity before) := by
  intro s
  refine ⟨fun name target => ?_, fun p target e hp hk he => ⟨?_, refuses_iff hp hk he, ?_⟩⟩
  · by_cases hv : isValidCapacity target = true
    · simp [move, start, startResize, hv]
    · simp [move, start, hv]
  · rcases poll_finishes hk he with ⟨hfailed, _⟩ | ⟨hresized, _⟩
    · exact .inr hfailed
    · exact .inl hresized
  · rintro rfl
    refine ⟨(sound_after capacity moves).refused_without hp hk he, ?_⟩
    rintro before later rfl hbefore
    exact refused_idle hk hbefore hp he

/-- One permit of 2 ^ 32 + 1 is held, and a change to one permit stands in line behind one to
2 ^ 32 + 2. It does nothing when it runs before its turn. Then it is refused, though a gate can have
one permit, and the change to three permits behind it finishes. -/
theorem resize_refused_iff_wide :
    let before : List Move := [.acquire "a", .poll 0, .resize "b" (Nat.pow 2 32 + 2),
      .resize "c" 1, .resize "d" 3]
    let s := after (Nat.pow 2 32 + 1) (before ++ [.poll 2, .poll 1])
    let t := s.move (.poll 2)
    (s.poll ⟨2, "c", .resize 1⟩).2 = some (.failed "c" (.invalidCapacity 1)) ∧
      t = s.without 2 ∧ t.gate.stats = s.gate.stats ∧
      (after (Nat.pow 2 32 + 1) before).move (.poll 2) = after (Nat.pow 2 32 + 1) before ∧
      (t.poll ⟨3, "d", .resize 3⟩).2 = some (.resized "d") := by
  intro before s t
  obtain ⟨-, hfinish⟩ := resize_refused_iff (Nat.pow 2 32 + 1) (before ++ [.poll 2, .poll 1])
  obtain ⟨-, hwhy, hgone⟩ := hfinish ⟨2, "c", .resize 1⟩ 1 (.failed "c" (.invalidCapacity 1))
    (by decide) rfl (by decide)
  obtain ⟨hgone, hidle⟩ := hgone (hwhy.mpr (.inr (by decide)))
  exact ⟨by decide, hgone, by decide, hidle before [.poll 1] rfl (by decide), by decide⟩

/-- A gate can have one permit. A gate with the most permits that there can be refuses a change to
one. -/
theorem resize_refused_valid :
    let s := after maxCapacity [.resize "a" 1]
    (1 ≤ 1 ∧ 1 ≤ maxCapacity) ∧
      (s.poll ⟨0, "a", .resize 1⟩).2 = some (.failed "a" (.invalidCapacity 1)) := by
  decide

end MetricBatch.Gate.Calls

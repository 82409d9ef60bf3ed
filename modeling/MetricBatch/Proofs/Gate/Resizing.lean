import MetricBatch.Proofs.Gate.Balance

namespace MetricBatch.Gate

variable {ι : Type} [DecidableEq ι]

omit [DecidableEq ι] in
theorem resizers_cons {g : Gate ι} {r : Resize ι} {rest : List (Resize ι)}
    (hres : g.resizes = r :: rest) : g.resizers = r.call :: rest.map (·.call) := by
  simp [resizers, hres]

omit [DecidableEq ι] in
theorem startResize_resizers (g : Gate ι) (call : ι) (target : Nat) :
    (g.startResize call target).resizers = g.resizers ++ [call] := by
  simp [resizers, Gate.startResize]

theorem Balanced.startResize {g : Gate ι} (h : g.Balanced 0) {call : ι} {target : Nat}
    (fresh : call ∉ g.callers) (hr : call ∉ g.resizers)
    (hv : isValidCapacity target = true) : (g.startResize call target).Balanced 0 := by
  have hshare : ∀ c ∈ g.callers, (g.startResize call target).share c = g.share c := by
    intro c hc
    cases hres : g.resizes with
    | nil =>
      have hne : call ≠ c := fun he => fresh (he ▸ hc)
      simp [share, Gate.startResize, hres, hne]
    | cons r rest => simp [share, Gate.startResize, hres]
  have hmem : ∀ r ∈ (g.startResize call target).resizes, r ∈ g.resizes ∨ r = ⟨call, target, false⟩ := by
    intro r hm
    simpa [Gate.startResize] using hm
  refine ⟨⟨h.balance, h.idle, h.short, h.full, h.unique⟩, h.capacity_pos, h.capacity_le, h.peak_ge,
    ?_, ?_, ?_, ?_, ?_, ?_⟩
  · intro w hw
    rw [hshare w.call (List.mem_map.mpr ⟨w, hw, rfl⟩)]
    exact h.wants w hw
  · rw [startResize_resizers, ← List.concat_eq_append]
    exact h.resizes_unique.concat hr
  · intro r hm
    rcases hmem r hm with hm | rfl
    · exact h.targets r hm
    · simpa [isValidCapacity] using hv
  · intro r hm
    cases hres : g.resizes with
    | nil => simp [Gate.startResize, hres] at hm
    | cons x rest =>
      have hturns := h.turns
      simp only [Gate.startResize, hres, List.cons_append, List.tail_cons, List.mem_append,
        List.mem_singleton] at hm hturns
      rcases hm with hm | rfl
      · exact hturns r hm
      · rfl
  · intro r hm
    rcases hmem r hm with hm | rfl
    · exact h.begun_iff r hm
    · exact ⟨fun hb => Bool.noConfusion hb, fun hc => absurd hc fresh⟩
  · intro r hm hb
    rcases hmem r hm with hm | rfl
    · exact h.shrinks r hm hb
    · cases hb

/-- The first change of the capacity leaves, with all that it has collected. -/
theorem leave_head {g : Gate ι} {r : Resize ι} {rest : List (Resize ι)}
    (hu : g.resizers.Nodup) (hres : g.resizes = r :: rest) :
    g.leave r.call = { g.remove r.call with resizes := rest } := by
  rw [resizers_cons hres, List.nodup_cons] at hu
  simp [Gate.leave, Gate.remove, hres, filter_resizes hu.1]

theorem Balanced.pop {g : Gate ι} (h : g.Balanced 0) {r : Resize ι} {rest : List (Resize ι)}
    (hres : g.resizes = r :: rest) (hn : r.begun = false) :
    { g with resizes := rest }.Balanced 0 := by
  have hout : r.call ∉ g.callers := fun hc => h.head_ne (by simp [hres]) hn hc rfl
  have hl := h.leave r.call
  rw [leave_head h.resizes_unique hres, remove_absent hout, collected_eq_zero hout] at hl
  exact hl

/-- While no change of the capacity has begun, another capacity makes permits loose or takes loose
ones in. -/
theorem Balanced.recap {g : Gate ι} {n m capacity : Nat} (h : g.Balanced n)
    (hn : ∀ r ∈ g.resizes, r.begun = false) (hpos : 1 ≤ capacity) (hle : capacity ≤ maxCapacity)
    (hb : g.available + g.inFlight + g.assigned + m = capacity) :
    { g with capacity }.Balanced m := by
  have hone (c : Nat) : ∀ w ∈ g.waiters, { g with capacity := c }.share w.call = 1 := by
    intro w hw
    apply share_eq_one
    intro r hr
    have hm : r ∈ g.resizes := List.mem_of_mem_head? hr
    exact h.head_ne hm (hn r hm) (List.mem_map.mpr ⟨w, hw, rfl⟩)
  refine ⟨⟨hb, h.idle, h.short, h.full, h.unique⟩, hpos, hle, h.peak_ge, ?_, h.resizes_unique,
    h.targets, h.turns, h.begun_iff, ?_⟩
  · intro w hw
    rw [hone capacity w hw, h.wants w hw]
    exact hone g.capacity w hw
  · intro r hr hbegun
    simp [hn r hr] at hbegun

theorem Balanced.grow {g : Gate ι} (h : g.Balanced 0) {r : Resize ι} {rest : List (Resize ι)}
    (hres : g.resizes = r :: rest) (hn : r.begun = false) (hle : g.capacity ≤ r.target) :
    (g.grow r rest).Balanced 0 := by
  have hturns := h.turns
  rw [hres] at hturns
  obtain ⟨hpos, hmax⟩ := h.targets r (by simp [hres])
  have hb := h.balance
  apply Balanced.addPermits
  apply (h.pop hres hn).recap hturns hpos hmax
  simp only [assigned, waiters] at hb ⊢
  omega

/-- A shrinking change of the capacity keeps what it has collected, which is just the difference. -/
theorem Balanced.retire {g : Gate ι} (h : g.Balanced 0) {r : Resize ι} {rest : List (Resize ι)}
    (hres : g.resizes = r :: rest) (hbegun : r.begun = true) (hg : g.isGranted r.call = true) :
    (g.retire r rest).Balanced 0 := by
  have hturns := h.turns
  rw [hres] at hturns
  have hm : r ∈ g.resizes := by simp [hres]
  obtain ⟨hpos, hmax⟩ := h.targets r hm
  have hlt := h.shrinks r hm hbegun
  have hshare : g.share r.call = g.capacity - r.target := by simp [share, hres]
  have hl := h.leave r.call
  rw [leave_head h.resizes_unique hres, h.collected_granted hg, hshare] at hl
  have hb := hl.balance
  apply hl.recap hturns hpos hmax
  simp only [Gate.remove, assigned, waiters] at hb ⊢
  omega

theorem Balanced.beginShrink {g : Gate ι} (h : g.Balanced 0) {r : Resize ι}
    {rest : List (Resize ι)} (hres : g.resizes = r :: rest) (hn : r.begun = false)
    (hlt : r.target < g.capacity) : (g.beginShrink r rest).Balanced 0 := by
  let g' : Gate ι := { g with resizes := { r with begun := true } :: rest }
  have hturns := h.turns
  have hunique := h.resizes_unique
  have htargets := h.targets
  rw [hres] at hturns htargets
  rw [resizers_cons hres] at hunique
  have hout : r.call ∉ g.callers := fun hc => h.head_ne (by simp [hres]) hn hc rfl
  have hwants : ∀ w ∈ g'.waiters, w.wants = g'.share w.call := by
    intro w hw
    rw [h.wants w hw]
    simp [g', share, hres]
  have htargets' : ∀ x ∈ g'.resizes, 1 ≤ x.target ∧ x.target ≤ maxCapacity := by
    intro x hx
    rcases List.mem_cons.mp hx with rfl | hm
    · exact htargets r (by simp)
    · exact htargets x (by simp [hm])
  have hbegun : ∀ x ∈ g'.resizes, x.begun = true ↔ x.call = r.call ∨ x.call ∈ g'.callers := by
    intro x hx
    rcases List.mem_cons.mp hx with rfl | hm
    · simp
    · have hne : x.call ≠ r.call := by
        intro he
        rw [List.nodup_cons] at hunique
        exact hunique.1 (List.mem_map.mpr ⟨x, hm, he⟩)
      simp only [hne, false_or]
      exact h.begun_iff x (by simp [hres, hm])
  have hshrinks : ∀ x ∈ g'.resizes, x.begun = true → x.target < g'.capacity := by
    intro x hx hb
    rcases List.mem_cons.mp hx with rfl | hm
    · exact hlt
    · simp [hturns x hm] at hb
  have hcounted : g'.Counted 0 := ⟨h.balance, h.idle, h.short, h.full, h.unique⟩
  have hshare : g'.share r.call = g.capacity - r.target := by simp [g', share]
  unfold Gate.beginShrink
  rw [← hshare]
  exact balanced_request hcounted hout h.capacity_pos h.capacity_le h.peak_ge hwants hunique
    htargets' hturns hbegun hshrinks

/-- What a change of the capacity that runs on can do. -/
inductive Advances (g : Gate ι) (call : ι) : Gate ι × ResizeProgress → Prop where
  | wait (hidle : ∀ r ∈ g.resizes.head?, r.call = call → r.begun = true) :
    Advances g call (g, .pending)
  | grow {r : Resize ι} {rest : List (Resize ι)} (hres : g.resizes = r :: rest)
    (hcall : r.call = call) (hn : r.begun = false) (hle : g.capacity ≤ r.target) :
    Advances g call (g.grow r rest, .changed g.capacity)
  | refuse {r : Resize ι} {rest : List (Resize ι)} (hres : g.resizes = r :: rest)
    (hcall : r.call = call) (hn : r.begun = false) (hmax : maxSurplus < g.capacity - r.target) :
    Advances g call ({ g with resizes := rest }, .refused)
  | retire {r : Resize ι} {rest : List (Resize ι)} (hres : g.resizes = r :: rest)
    (hcall : r.call = call) (hbegun : r.begun = true) (hg : g.isGranted call = true) :
    Advances g call (g.retire r rest, .changed g.capacity)
  | begin {r : Resize ι} {rest : List (Resize ι)} (hres : g.resizes = r :: rest)
    (hcall : r.call = call) (hn : r.begun = false) (hlt : r.target < g.capacity)
    (hmax : g.capacity - r.target ≤ maxSurplus) :
    Advances g call (g.beginShrink r rest, .pending)
  | shrink {r : Resize ι} {rest : List (Resize ι)} (hres : g.resizes = r :: rest)
    (hcall : r.call = call) (hn : r.begun = false) (hlt : r.target < g.capacity)
    (hmax : g.capacity - r.target ≤ maxSurplus)
    (hg : (g.beginShrink r rest).isGranted call = true) :
    Advances g call ((g.beginShrink r rest).retire r rest, .changed g.capacity)

theorem advanceResize_advances (g : Gate ι) (call : ι) : Advances g call (g.advanceResize call) := by
  unfold Gate.advanceResize
  split
  · rename_i hres
    exact .wait (by simp [hres])
  · rename_i r rest hres
    split
    · rename_i hcall
      exact .wait (by simp [hres, hcall])
    · rename_i hcall
      have hcall : r.call = call := not_not.mp hcall
      split
      · rename_i hbegun
        split
        · rename_i hg
          exact .retire hres hcall hbegun hg
        · exact .wait (by simp [hres, hbegun])
      · rename_i hbegun
        have hn : r.begun = false := by simpa using hbegun
        split
        · rename_i hle
          exact .grow hres hcall hn hle
        · rename_i hle
          have hlt : r.target < g.capacity := Nat.lt_of_not_le hle
          split
          · rename_i hmax
            exact .refuse hres hcall hn hmax
          · rename_i hmax
            have hmax : g.capacity - r.target ≤ maxSurplus := Nat.le_of_not_lt hmax
            split
            · rename_i hg
              exact .shrink hres hcall hn hlt hmax hg
            · exact .begin hres hcall hn hlt hmax

omit [DecidableEq ι] in
theorem beginShrink_resizes (g : Gate ι) (r : Resize ι) (rest : List (Resize ι)) :
    (g.beginShrink r rest).resizes = { r with begun := true } :: rest :=
  (request_frame _ _ _).1

theorem Balanced.advanceResize {g : Gate ι} (h : g.Balanced 0) (call : ι) :
    (g.advanceResize call).1.Balanced 0 := by
  have hstep := advanceResize_advances g call
  generalize g.advanceResize call = result at hstep ⊢
  cases hstep with
  | wait => exact h
  | grow hres _ hn hle => exact h.grow hres hn hle
  | refuse hres _ hn _ => exact h.pop hres hn
  | retire hres hcall hbegun hg => exact h.retire hres hbegun (hcall ▸ hg)
  | begin hres _ hn hlt => exact h.beginShrink hres hn hlt
  | @shrink r rest hres hcall hn hlt _ hg =>
    have hbegun := beginShrink_resizes g r rest
    exact (h.beginShrink hres hn hlt).retire (r := { r with begun := true }) hbegun rfl
      (hcall ▸ hg)

omit [DecidableEq ι] in
theorem beginShrink_callers (g : Gate ι) (r : Resize ι) (rest : List (Resize ι)) :
    (g.beginShrink r rest).callers.Perm (r.call :: g.callers) :=
  request_callers _ _ _

/-- A change of the capacity that runs on brings nobody to the queue but itself, and stays among the
changes as long as it is there. -/
theorem advanceResize_callers {g : Gate ι} {call c : ι}
    (hc : c ∈ (g.advanceResize call).1.callers) :
    c ∈ g.callers ∨ c = call ∧ call ∈ (g.advanceResize call).1.resizers := by
  have hstep := advanceResize_advances g call
  generalize g.advanceResize call = result at hstep hc ⊢
  cases hstep with
  | wait => exact .inl hc
  | grow =>
    left
    rw [Gate.grow, addPermits_callers] at hc
    exact hc
  | refuse => exact .inl hc
  | retire => exact .inl (mem_remove_callers.mp hc).1
  | @begin r rest hres hcall =>
    rcases List.mem_cons.mp ((beginShrink_callers g r rest).mem_iff.mp hc) with he | hm
    · right
      refine ⟨he.trans hcall, ?_⟩
      simp [resizers, beginShrink_resizes, hcall]
    · exact .inl hm
  | @shrink r rest =>
    obtain ⟨hm, hne⟩ := mem_remove_callers.mp hc
    rcases List.mem_cons.mp ((beginShrink_callers g r rest).mem_iff.mp hm) with he | hm
    · exact absurd he hne
    · exact .inl hm

/-- It sends nobody else away from the queue. -/
theorem advanceResize_stays {g : Gate ι} {call c : ι} (hc : c ∈ g.callers) (hne : c ≠ call) :
    c ∈ (g.advanceResize call).1.callers := by
  have hstep := advanceResize_advances g call
  generalize g.advanceResize call = result at hstep ⊢
  cases hstep with
  | wait | refuse => exact hc
  | grow =>
    rw [Gate.grow, addPermits_callers]
    exact hc
  | retire _ hcall => exact mem_remove_callers.mpr ⟨hc, hcall ▸ hne⟩
  | @begin r rest =>
    exact (beginShrink_callers g r rest).mem_iff.mpr (List.mem_cons_of_mem _ hc)
  | @shrink r rest _ hcall =>
    have hm := (beginShrink_callers g r rest).mem_iff.mpr (List.mem_cons_of_mem _ hc)
    exact mem_remove_callers.mpr ⟨hm, hcall ▸ hne⟩

/-- It adds no change, and what the others are to change stays. -/
theorem advanceResize_resizes {g : Gate ι} {call : ι} {x : Resize ι}
    (hx : x ∈ (g.advanceResize call).1.resizes) :
    ∃ r ∈ g.resizes, r.call = x.call ∧ r.target = x.target := by
  have hstep := advanceResize_advances g call
  generalize g.advanceResize call = result at hstep hx
  cases hstep with
  | wait => exact ⟨x, hx, rfl, rfl⟩
  | grow hres | refuse hres | retire hres | shrink hres =>
    refine ⟨x, ?_, rfl, rfl⟩
    rw [hres]
    exact List.mem_cons_of_mem _ hx
  | @begin r rest hres =>
    rw [beginShrink_resizes] at hx
    rcases List.mem_cons.mp hx with rfl | hm
    · exact ⟨r, by simp [hres], rfl, rfl⟩
    · exact ⟨x, by simp [hres, hm], rfl, rfl⟩

theorem advanceResize_resizers {g : Gate ι} {call c : ι}
    (hc : c ∈ (g.advanceResize call).1.resizers) : c ∈ g.resizers := by
  obtain ⟨r, hr, rfl⟩ := List.mem_map.mp hc
  obtain ⟨x, hx, hcall, _⟩ := advanceResize_resizes hr
  exact List.mem_map.mpr ⟨x, hx, hcall⟩

/-- It takes no change away but itself, and itself only when it is over. -/
theorem advanceResize_keeps {g : Gate ι} {call c : ι} (hc : c ∈ g.resizers) :
    c ∈ (g.advanceResize call).1.resizers ∨
      c = call ∧ (g.advanceResize call).2 ≠ .pending := by
  have hstep := advanceResize_advances g call
  generalize g.advanceResize call = result at hstep ⊢
  cases hstep with
  | wait => exact .inl hc
  | grow hres hcall | refuse hres hcall | retire hres hcall | shrink hres hcall =>
    rw [resizers_cons hres] at hc
    rcases List.mem_cons.mp hc with he | hm
    · exact .inr ⟨he.trans hcall, by simp⟩
    · exact .inl hm
  | @begin r rest hres =>
    left
    rw [resizers_cons hres] at hc
    simpa [resizers, beginShrink_resizes] using hc

/-- When it is over it is gone. -/
theorem Balanced.advanceResize_over {g : Gate ι} (h : g.Balanced 0) {call : ι}
    (hover : (g.advanceResize call).2 ≠ .pending) :
    call ∉ (g.advanceResize call).1.callers ∧ call ∉ (g.advanceResize call).1.resizers := by
  have hstep := advanceResize_advances g call
  have hunique := h.resizes_unique
  generalize g.advanceResize call = result at hstep hover ⊢
  cases hstep with
  | wait | begin => exact absurd rfl hover
  | grow hres hcall hn =>
    rw [resizers_cons hres, List.nodup_cons, hcall] at hunique
    refine ⟨?_, hunique.1⟩
    rw [Gate.grow, addPermits_callers]
    exact fun hc => h.head_ne (by simp [hres]) hn hc hcall
  | refuse hres hcall hn =>
    rw [resizers_cons hres, List.nodup_cons, hcall] at hunique
    exact ⟨fun hc => h.head_ne (by simp [hres]) hn hc hcall, hunique.1⟩
  | retire hres hcall =>
    rw [resizers_cons hres, List.nodup_cons, hcall] at hunique
    exact ⟨hcall ▸ not_mem_remove_callers g _, hunique.1⟩
  | shrink hres hcall =>
    rw [resizers_cons hres, List.nodup_cons, hcall] at hunique
    exact ⟨hcall ▸ not_mem_remove_callers _ _, hunique.1⟩

theorem advanceResize_counters (g : Gate ι) (call : ι) :
    (g.advanceResize call).1.inFlight = g.inFlight ∧ (g.advanceResize call).1.peak = g.peak ∧
      (g.advanceResize call).1.total = g.total := by
  have hstep := advanceResize_advances g call
  generalize g.advanceResize call = result at hstep ⊢
  cases hstep with
  | wait | grow | refuse | retire => exact ⟨rfl, rfl, rfl⟩
  | begin | shrink =>
    simp only [Gate.retire, Gate.remove, beginShrink, Gate.request]
    split <;> exact ⟨rfl, rfl, rfl⟩

end MetricBatch.Gate

import MetricBatch.Proofs.Gate.Interleaving

namespace MetricBatch.Gate

section

variable {ι : Type}

/-- How many changes of the capacity collect permits. -/
def collecting (g : Gate ι) : Nat := g.resizes.countP (·.begun)

theorem collecting_cons {g : Gate ι} {r : Resize ι} {rest : List (Resize ι)}
    (hres : g.resizes = r :: rest) (hturns : ∀ x ∈ g.resizes.tail, x.begun = false) :
    g.collecting = if r.begun then 1 else 0 := by
  rw [hres] at hturns
  have hrest : rest.countP (·.begun) = 0 := by
    rw [List.countP_eq_zero]
    intro x hx
    simp [hturns x hx]
  rw [collecting, hres, List.countP_cons, hrest, Nat.zero_add]

theorem collecting_eq {g : Gate ι} (hturns : ∀ x ∈ g.resizes.tail, x.begun = false) :
    g.collecting = if g.resizes.any (·.begun) then 1 else 0 := by
  cases hres : g.resizes with
  | nil => simp [collecting, hres]
  | cons r rest =>
    have hrest : rest.any (·.begun) = false := by
      rw [List.any_eq_false]
      intro x hx
      rw [hres] at hturns
      simp [hturns x hx]
    rw [collecting_cons hres hturns, List.any_cons, hrest, Bool.or_false]

variable [DecidableEq ι]

theorem isCollecting_cons {g : Gate ι} {r : Resize ι} {rest : List (Resize ι)}
    (hres : g.resizes = r :: rest) (hturns : ∀ x ∈ g.resizes.tail, x.begun = false) (call : ι) :
    g.isCollecting call = (r.call == call && r.begun) := by
  rw [hres] at hturns
  have hrest : rest.any (fun x => x.call == call && x.begun) = false := by
    rw [List.any_eq_false]
    intro x hx
    simp [hturns x hx]
  rw [isCollecting, hres, List.any_cons, hrest, Bool.or_false]

theorem cancel_collecting {g : Gate ι} (hturns : ∀ x ∈ g.resizes.tail, x.begun = false)
    (call : ι) :
    (g.cancel call).collecting + (if g.isCollecting call then 1 else 0) = g.collecting := by
  have hresizes : (g.cancel call).resizes = g.resizes.filter (·.call != call) := rfl
  cases hres : g.resizes with
  | nil => simp [collecting, isCollecting, hresizes, hres]
  | cons r rest =>
    have hrest : (rest.filter (·.call != call)).countP (·.begun) = 0 := by
      rw [List.countP_eq_zero]
      intro x hx
      rw [hres] at hturns
      simp [hturns x (List.mem_filter.mp hx).1]
    rw [collecting_cons hres hturns, isCollecting_cons hres hturns, collecting, hresizes, hres,
      List.filter_cons]
    by_cases hcall : r.call = call
    · simp [hcall, hrest]
    · simp [hcall, hrest, List.countP_cons]

/-- The counter of the calls that wait, after a change of the capacity has run on: it goes up when
the change begins to collect permits, and down when it has them all. -/
theorem advanceResize_collecting {g : Gate ι} (hturns : ∀ x ∈ g.resizes.tail, x.begun = false)
    (call : ι) (others : Nat) :
    let begins := g.isAboutToShrink call
    let waiting := others + g.collecting
    let entered := if begins then waiting + 1 else waiting
    let finished := (g.advanceResize call).2 != .pending
    (if finished && (begins || g.isCollecting call) then entered - 1 else entered) =
      others + (g.advanceResize call).1.collecting := by
  have hstep := advanceResize_advances g call
  -- Whatever is left after the first change has not begun.
  have hrest {r : Resize ι} {rest : List (Resize ι)} (hres : g.resizes = r :: rest) :
      rest.countP (·.begun) = 0 := by
    rw [List.countP_eq_zero]
    intro x hx
    rw [hres] at hturns
    simp [hturns x hx]
  generalize g.advanceResize call = result at hstep ⊢
  cases hstep with
  | wait hidle =>
    have hlate : g.isAboutToShrink call = false := by
      cases hres : g.resizes with
      | nil => simp [isAboutToShrink, hres]
      | cons r rest =>
        by_cases hcall : r.call = call
        · simp [isAboutToShrink, hres, hidle r (by simp [hres]) hcall]
        · simp [isAboutToShrink, hres, hcall]
    simp [hlate]
  | @grow r rest hres hcall hn hle =>
    have hlate : g.isAboutToShrink call = false := by
      simp [isAboutToShrink, hres, Nat.not_lt.mpr hle]
    have hafter : (g.grow r rest).collecting = 0 := hrest hres
    simp [hlate, hafter, collecting_cons hres hturns, isCollecting_cons hres hturns, hn]
  | @refuse r rest hres hcall hn hmax =>
    have hlate : g.isAboutToShrink call = false := by
      simp [isAboutToShrink, hres, Nat.not_le.mpr hmax]
    have hafter : { g with resizes := rest }.collecting = 0 := hrest hres
    simp [hlate, hafter, collecting_cons hres hturns, isCollecting_cons hres hturns, hn]
  | @retire r rest hres hcall hbegun =>
    have hlate : g.isAboutToShrink call = false := by simp [isAboutToShrink, hres, hbegun]
    have hafter : (g.retire r rest).collecting = 0 := hrest hres
    simp [hlate, hafter, collecting_cons hres hturns, isCollecting_cons hres hturns, hcall, hbegun]
  | @begin r rest hres hcall hn hlt hmax =>
    have hbegins : g.isAboutToShrink call = true := by
      simp [isAboutToShrink, hres, hcall, hn, hlt, hmax]
    have hafter : (g.beginShrink r rest).collecting = 1 := by
      simp [collecting, beginShrink_resizes, hrest hres]
    simp [hbegins, hafter, collecting_cons hres hturns, hn]
  | @shrink r rest hres hcall hn hlt hmax =>
    have hbegins : g.isAboutToShrink call = true := by
      simp [isAboutToShrink, hres, hcall, hn, hlt, hmax]
    have hafter : ((g.beginShrink r rest).retire r rest).collecting = 0 := hrest hres
    simp [hbegins, hafter, collecting_cons hres hturns, hn]

end

end MetricBatch.Gate

namespace MetricBatch.Gate.Threads

/-- A call that leaves a list of calls with different ids is missed once. -/
theorem countP_leave (f : PendingCall → Bool) {ps : List PendingCall} {p : PendingCall}
    (hn : (ps.map (·.id)).Nodup) (hp : p ∈ ps) :
    (ps.filter (·.id != p.id)).countP f + (if f p then 1 else 0) = ps.countP f := by
  induction ps with
  | nil => cases hp
  | cons q rest ih =>
    rw [List.map_cons, List.nodup_cons] at hn
    rcases List.mem_cons.mp hp with rfl | hm
    · have hrest : rest.filter (·.id != p.id) = rest := by
        apply List.filter_eq_self.mpr
        intro q hq
        have hne : q.id ≠ p.id := fun he => hn.1 (List.mem_map.mpr ⟨q, hq, he⟩)
        simpa using hne
      simp [hrest, List.countP_cons]
    · have hne : q.id ≠ p.id := fun he => hn.1 (List.mem_map.mpr ⟨p, hm, he.symm⟩)
      simp only [List.filter_cons, bne_iff_ne, ne_eq, hne, not_false_eq_true, ↓reduceIte,
        List.countP_cons]
      have hrest := ih hn.2 hm
      omega

namespace Matches

variable {s : Threads} {c : Calls}

theorem resizes (h : s.Matches c) : s.calls.gate.resizes = c.gate.resizes := by
  change s.calls.gate.uncounted.resizes = c.gate.uncounted.resizes
  rw [h.gate]

theorem callers (h : s.Matches c) : s.calls.gate.callers = c.gate.callers := by
  change s.calls.gate.uncounted.callers = c.gate.uncounted.callers
  rw [h.gate]

theorem capacity (h : s.Matches c) : s.calls.gate.capacity = c.gate.capacity := by
  change s.calls.gate.uncounted.capacity = c.gate.uncounted.capacity
  rw [h.gate]

theorem assigned (h : s.Matches c) : s.calls.assignedToPending = c.assignedToPending := by
  change tally (fun p => s.calls.gate.uncounted.collected p.id) s.calls.pending =
    tally (fun p => c.gate.uncounted.collected p.id) c.pending
  rw [h.gate, h.pending]

theorem out (h : s.Matches c) : s.out = c.held.length := by
  rw [h.held.length_eq, List.length_append, List.length_append]
  rfl

/-- All permits are with the semaphore, with a call that waits, or out. -/
theorem balance (h : s.Matches c) (hc : c.Sound) :
    s.calls.gate.available + s.calls.assignedToPending + s.out = s.calls.gate.capacity := by
  have hbalance := hc.gate.balance
  rw [h.available, h.assigned, h.out, h.capacity, hc.held, hc.assigned]
  omega

theorem ids (h : s.Matches c) (hc : c.Sound) : (s.calls.pending.map (·.id)).Nodup :=
  h.pending ▸ hc.ids

theorem turns (h : s.Matches c) (hc : c.Sound) :
    ∀ r ∈ s.calls.gate.resizes.tail, r.begun = false :=
  h.resizes ▸ hc.gate.turns

theorem not_resizer (h : s.Matches c) (hc : c.Sound) {p : PendingCall}
    (hp : p ∈ s.calls.pending) (ha : p.acquires = true) : p.id ∉ s.calls.gate.resizers := by
  rw [resizers, h.resizes]
  apply hc.not_resizer (h.pending ▸ hp)
  intro target hk
  simp [PendingCall.acquires, hk] at ha

end Matches

structure Counted (s : Threads) : Prop where
  held : s.calls.gate.inFlight = s.calls.held.length
  peak : s.calls.held.length ≤ s.calls.gate.peak
  grants : s.calls.gate.total + s.admitting.length = s.grants
  waiting : s.waiting = s.calls.pending.countP (·.acquires) + s.calls.gate.collecting
  queued : ∀ p ∈ s.calls.pending, p.acquires = true → p.id ∈ s.calls.gate.callers

theorem counted_new (capacity : Nat) : (new capacity).Counted :=
  ⟨rfl, Nat.zero_le _, rfl, rfl, nofun⟩

theorem not_collecting {g : Gate Nat} {call : Nat} (h : call ∉ g.resizers) :
    g.isCollecting call = false := by
  rw [isCollecting, List.any_eq_false]
  intro r hr hboth
  simp only [Bool.and_eq_true, beq_iff_eq] at hboth
  exact h (List.mem_map.mpr ⟨r, hr, hboth.1⟩)

namespace Counted

variable {s : Threads} {c : Calls}

theorem start (h : s.Counted) (name : String) (kind : CallKind) : (s.start name kind).Counted := by
  let p : PendingCall := ⟨s.calls.nextId, name, kind⟩
  have hpending : (s.start name kind).calls.pending = s.calls.pending ++ [p] := rfl
  have hwaiting := h.waiting
  cases ha : p.acquires with
  | true =>
    have hgate : (s.start name kind).calls.gate = s.calls.gate.request s.calls.nextId 1 := by
      cases kind with
      | acquire | acquireUntil => rfl
      | resize target => cases ha
    obtain ⟨hresizes, -, hin, hpeak, htotal⟩ := request_frame s.calls.gate s.calls.nextId 1
    refine ⟨?_, ?_, ?_, ?_, ?_⟩
    · rw [hgate, hin]
      exact h.held
    · rw [hgate, hpeak]
      exact h.peak
    · rw [hgate, htotal]
      exact h.grants
    · have hup : (s.start name kind).waiting = s.waiting + 1 := if_pos ha
      rw [hup, hpending, hgate, collecting, hresizes, List.countP_append, List.countP_singleton,
        if_pos ha, hwaiting, collecting]
      omega
    · intro q hq haq
      rw [hgate, (request_callers _ _ _).mem_iff]
      rcases List.mem_append.mp hq with hm | hm
      · exact List.mem_cons_of_mem _ (h.queued q hm haq)
      · rw [List.mem_singleton.mp hm]
        exact List.mem_cons_self
  | false =>
    have hgate : (s.start name kind).calls.gate = s.calls.gate ∨ ∃ target,
        (s.start name kind).calls.gate = s.calls.gate.startResize s.calls.nextId target := by
      cases kind with
      | acquire | acquireUntil => cases ha
      | resize target =>
        simp only [Threads.start, Calls.start]
        split
        · exact .inr ⟨target, rfl⟩
        · exact .inl rfl
    have hsame : (s.start name kind).calls.gate.inFlight = s.calls.gate.inFlight ∧
        (s.start name kind).calls.gate.peak = s.calls.gate.peak ∧
        (s.start name kind).calls.gate.total = s.calls.gate.total ∧
        (s.start name kind).calls.gate.callers = s.calls.gate.callers ∧
        (s.start name kind).calls.gate.collecting = s.calls.gate.collecting := by
      rcases hgate with hgate | ⟨target, hgate⟩
      · rw [hgate]
        exact ⟨rfl, rfl, rfl, rfl, rfl⟩
      · rw [hgate]
        refine ⟨rfl, rfl, rfl, rfl, ?_⟩
        simp [collecting, startResize, List.countP_append]
    obtain ⟨hin, hpeak, htotal, hcallers, hcollecting⟩ := hsame
    refine ⟨hin ▸ h.held, hpeak ▸ h.peak, htotal ▸ h.grants, ?_, ?_⟩
    · have hup : (s.start name kind).waiting = s.waiting := if_neg (by simp [p] at ha; simp [ha])
      rw [hup, hpending, hcollecting, List.countP_append, List.countP_singleton, if_neg (by simp [ha]),
        hwaiting, Nat.add_zero]
    · intro q hq haq
      rw [hcallers]
      rcases List.mem_append.mp hq with hm | hm
      · exact h.queued q hm haq
      · rw [List.mem_singleton.mp hm] at haq
        exact absurd haq (by simp [p] at ha; simp [ha])

theorem grant (h : s.Counted) (hm : s.Matches c) (hc : c.Sound) {p : PendingCall}
    (hp : p ∈ s.calls.pending) : (s.grant p).Counted := by
  unfold Threads.grant
  split
  · rename_i hg
    have ha : p.acquires = true := (Bool.and_eq_true_iff.mp hg).1
    have hleave := countP_leave (·.acquires) (hm.ids hc) hp
    have hwaiting := h.waiting
    have hgrants := h.grants
    rw [if_pos ha] at hleave
    refine ⟨h.held, h.peak, ?_, ?_, ?_⟩
    · simp only [remove, List.length_append, List.length_singleton]
      omega
    · simp only [collecting, remove] at hwaiting ⊢
      omega
    · intro q hq haq
      obtain ⟨hq, hne⟩ := List.mem_filter.mp hq
      exact mem_remove_callers.mpr ⟨h.queued q hq haq, by simpa using hne⟩
  · exact h

theorem tryGrant (h : s.Counted) (name : String) : (s.tryGrant name).Counted := by
  unfold Threads.tryGrant
  split
  · have hgrants := h.grants
    refine ⟨h.held, h.peak, ?_, h.waiting, h.queued⟩
    simp only [List.length_append, List.length_singleton]
    omega
  · exact h

theorem count (h : s.Counted) (name : String) : (s.count name).Counted := by
  unfold Threads.count
  split
  · rename_i hname
    have hmem := List.contains_iff_mem.mp hname
    have hlength := List.length_erase_of_mem hmem
    have hpos := List.length_pos_of_mem hmem
    have hgrants := h.grants
    have hheld := h.held
    refine ⟨?_, ?_, ?_, h.waiting, h.queued⟩
    · simp only [countHeld, List.length_append, List.length_singleton]
      omega
    · simp only [countHeld, List.length_append, List.length_singleton]
      omega
    · simp only [countHeld]
      omega
  · exact h

theorem runResize (h : s.Counted) (hm : s.Matches c) (hc : c.Sound) {p : PendingCall}
    (hp : p ∈ s.calls.pending) : (s.runResize p).Counted := by
  have hleave := countP_leave (·.acquires) (hm.ids hc) hp
  unfold Threads.runResize
  split
  · exact h
  · exact h
  · rename_i target hk
    have ha : p.acquires = false := by simp [PendingCall.acquires, hk]
    simp only [ha, Bool.false_eq_true, ↓reduceIte, Nat.add_zero] at hleave
    split
    · rename_i hv
      obtain ⟨hin, hpeak, htotal⟩ := advanceResize_counters s.calls.gate p.id
      rw [Calls.pollOne_resize hk hv]
      refine ⟨hin ▸ h.held, hpeak ▸ h.peak, htotal ▸ h.grants, ?_, ?_⟩
      · have hpending : List.countP (·.acquires)
            (if (s.calls.gate.advanceResize p.id).2 = .pending then s.calls.pending
              else s.calls.pending.filter (·.id != p.id)) = s.calls.pending.countP (·.acquires) := by
          split
          · rfl
          · exact hleave
        simp only [hpending, h.waiting]
        exact advanceResize_collecting (hm.turns hc) p.id _
      · intro q hq haq
        have hold : q ∈ s.calls.pending := by
          dsimp only at hq
          split at hq
          · exact hq
          · exact (List.mem_filter.mp hq).1
        have hne : q.id ≠ p.id := by
          intro he
          rw [List.inj_on_of_nodup_map (hm.ids hc) hold hp he, ha] at haq
          cases haq
        exact advanceResize_stays (h.queued q hold haq) hne
    · rename_i hv
      rw [Calls.pollOne_invalid hk hv]
      refine ⟨h.held, h.peak, h.grants, ?_, ?_⟩
      · rw [hleave]
        exact h.waiting
      · intro q hq haq
        exact h.queued q (List.mem_filter.mp hq).1 haq

theorem drop (h : s.Counted) (hm : s.Matches c) (hc : c.Sound) {p : PendingCall}
    (hp : p ∈ s.calls.pending) : (s.drop p).Counted := by
  have hleave := countP_leave (·.acquires) (hm.ids hc) hp
  have hcancel := cancel_collecting (hm.turns hc) p.id
  have hwaiting := h.waiting
  refine ⟨h.held, h.peak, h.grants, ?_, ?_⟩
  · simp only [Threads.drop, Calls.drop, waits]
    rcases Bool.eq_false_or_eq_true p.acquires with ha | ha
    · have hnot := not_collecting (hm.not_resizer hc hp ha)
      simp only [ha, hnot, ↓reduceIte, Bool.false_eq_true, Bool.true_or] at hleave hcancel ⊢
      omega
    · simp only [ha, ↓reduceIte, Bool.false_eq_true, Bool.false_or] at hleave hcancel ⊢
      by_cases hcollects : s.calls.gate.isCollecting p.id = true
      · simp only [hcollects, ↓reduceIte] at hcancel ⊢
        omega
      · simp only [hcollects, ↓reduceIte, Bool.false_eq_true] at hcancel ⊢
        omega
  · intro q hq haq
    obtain ⟨hq, hne⟩ := List.mem_filter.mp hq
    exact mem_cancel_callers.mpr ⟨h.queued q hq haq, by simpa using hne⟩

theorem uncount (h : s.Counted) (name : String) : (s.uncount name).Counted := by
  unfold Threads.uncount
  split
  · rename_i hname
    have hlength := List.length_erase_of_mem (List.contains_iff_mem.mp hname)
    have hheld := h.held
    have hpeak := h.peak
    refine ⟨?_, ?_, h.grants, h.waiting, h.queued⟩
    · simp only [hlength, hheld]
    · simp only [hlength]
      omega
  · exact h

theorem giveBack (h : s.Counted) (name : String) : (s.giveBack name).Counted := by
  unfold Threads.giveBack
  split
  · refine ⟨h.held, h.peak, h.grants, h.waiting, ?_⟩
    intro p hp ha
    rw [addPermits_callers]
    exact h.queued p hp ha
  · exact h

theorem onCall (h : s.Counted) (id : Nat) {f : PendingCall → Threads}
    (hf : ∀ p ∈ s.calls.pending, (f p).Counted) : (s.onCall id f).Counted := by
  unfold Threads.onCall
  cases hp : s.calls.pending.find? (·.id == id) with
  | none => exact h
  | some p => exact hf p (List.mem_of_find?_eq_some hp)

theorem act (h : s.Counted) (hm : s.Matches c) (hc : c.Sound) (a : Action) :
    (s.act a).Counted := by
  cases a with
  | acquire name => exact h.start name .acquire
  | acquireWithin name timeout => exact h.start name _
  | resize name target => exact h.start name (.resize target)
  | grant id => exact h.onCall id fun _ => h.grant hm hc
  | tryGrant name => exact h.tryGrant name
  | count name => exact h.count name
  | runResize id => exact h.onCall id fun _ => h.runResize hm hc
  | drop id => exact h.onCall id fun _ => h.drop hm hc
  | uncount name => exact h.uncount name
  | giveBack name => exact h.giveBack name
  | advance millis => exact ⟨h.held, h.peak, h.grants, h.waiting, h.queued⟩

end Counted

theorem after_counted (capacity : Nat) (actions : List Action) :
    (after capacity actions).Counted := by
  induction actions using List.reverseRecOn with
  | nil => exact counted_new capacity
  | append_singleton rest a ih =>
    obtain ⟨c, hleads, hm⟩ := after_matches capacity rest
    rw [after_concat]
    exact ih.act hm (hleads.sound (Calls.sound_new capacity)) a

/-- The calls at the gate are those that are to get a permit and the change that collects permits. -/
theorem callers_perm {s : Threads} {c : Calls} (hm : s.Matches c) (hc : c.Sound) (h : s.Counted) :
    s.calls.gate.callers.Perm
      ((s.calls.pending.filter (·.acquires)).map (·.id) ++
        (s.calls.gate.resizes.filter (·.begun)).map (·.call)) := by
  have hunique : s.calls.gate.callers.Nodup := hm.callers ▸ hc.gate.unique
  have hresizers : (s.calls.gate.resizes.map (·.call)).Nodup := by
    rw [hm.resizes]
    exact hc.gate.resizes_unique
  have hbegun : ∀ r ∈ s.calls.gate.resizes, r.begun = true ↔ r.call ∈ s.calls.gate.callers := by
    rw [hm.resizes, hm.callers]
    exact hc.gate.begun_iff
  refine (List.perm_ext_iff_of_nodup hunique ?_).mpr fun call => ?_
  · refine List.nodup_append.mpr ⟨(hm.ids hc).sublist (List.filter_sublist.map _),
      hresizers.sublist (List.filter_sublist.map _), ?_⟩
    intro call hcall _ hother he
    obtain ⟨p, hp, rfl⟩ := List.mem_map.mp hcall
    obtain ⟨r, hr, rfl⟩ := List.mem_map.mp hother
    obtain ⟨hp, ha⟩ := List.mem_filter.mp hp
    exact hm.not_resizer hc hp ha (List.mem_map.mpr ⟨r, (List.mem_filter.mp hr).1, he.symm⟩)
  · rw [List.mem_append]
    constructor
    · intro hcall
      obtain ⟨p, hp, rfl, hres⟩ := hc.callers call (hm.callers ▸ hcall)
      rw [← hm.pending] at hp
      cases ha : p.acquires with
      | true => exact .inl (List.mem_map.mpr ⟨p, List.mem_filter.mpr ⟨hp, ha⟩, rfl⟩)
      | false =>
        unfold PendingCall.acquires at ha
        split at ha
        case h_1 | h_2 => cases ha
        case h_3 target hk =>
          have hmem := hres target hk
          rw [resizers, ← hm.resizes] at hmem
          obtain ⟨r, hr, he⟩ := List.mem_map.mp hmem
          exact .inr (List.mem_map.mpr
            ⟨r, List.mem_filter.mpr ⟨hr, (hbegun r hr).mpr (he ▸ hcall)⟩, he⟩)
    · rintro (hcall | hcall)
      · obtain ⟨p, hp, rfl⟩ := List.mem_map.mp hcall
        obtain ⟨hp, ha⟩ := List.mem_filter.mp hp
        exact h.queued p hp ha
      · obtain ⟨r, hr, rfl⟩ := List.mem_map.mp hcall
        obtain ⟨hr, hb⟩ := List.mem_filter.mp hr
        exact (hbegun r hr).mp hb

/-- The counter of the calls that wait is what the gate shows. -/
theorem Counted.waiting_shown {s : Threads} {c : Calls} (h : s.Counted) (hm : s.Matches c)
    (hc : c.Sound) : s.waiting = s.calls.gate.stats.waiting := by
  have hlength := (callers_perm hm hc h).length_eq
  rw [Gate.callers, List.length_map] at hlength
  rw [h.waiting, stats, Gate.waiting, hlength, List.length_append, List.length_map, List.length_map,
    collecting, List.countP_eq_length_filter, List.countP_eq_length_filter]

/-- An action leaves the peak and the total as they are, and does not make more held permits, unless
it counts one. -/
inductive Counts (s s' : Threads) : Prop where
  | same (peak : s'.calls.gate.peak = s.calls.gate.peak)
    (total : s'.calls.gate.total = s.calls.gate.total)
    (held : s'.calls.held.length ≤ s.calls.held.length)
  | one (name : String) (gate : s'.calls.gate = s.calls.gate.countHeld)
    (held : s'.calls.held = s.calls.held ++ [name])

theorem Counts.refl (s : Threads) : Counts s s := .same rfl rfl (Nat.le_refl _)

theorem start_counts (s : Threads) (name : String) (kind : CallKind) :
    Counts s (s.start name kind) := by
  obtain ⟨-, -, -, hpeak, htotal⟩ := request_frame s.calls.gate s.calls.nextId 1
  cases kind with
  | acquire | acquireUntil => exact .same hpeak htotal (Nat.le_refl _)
  | resize target =>
    refine .same ?_ ?_ (Nat.le_refl _) <;>
      · simp only [start, Calls.start]
        split <;> rfl

theorem runResize_counts (s : Threads) (p : PendingCall) : Counts s (s.runResize p) := by
  unfold runResize
  split
  · exact .refl s
  · exact .refl s
  · rename_i target hk
    split
    · rename_i hv
      obtain ⟨-, hpeak, htotal⟩ := advanceResize_counters s.calls.gate p.id
      rw [Calls.pollOne_resize hk hv]
      exact .same hpeak htotal (Nat.le_refl _)
    · rename_i hv
      rw [Calls.pollOne_invalid hk hv]
      exact .same rfl rfl (Nat.le_refl _)

theorem onCall_counts (s : Threads) (id : Nat) {f : PendingCall → Threads}
    (hf : ∀ p, Counts s (f p)) : Counts s (s.onCall id f) := by
  unfold onCall
  cases s.calls.pending.find? (·.id == id) with
  | none => exact .refl s
  | some p => exact hf p

theorem act_counts (s : Threads) (a : Action) : Counts s (s.act a) := by
  cases a with
  | acquire name | acquireWithin name timeout | resize name target => exact start_counts ..
  | grant id =>
    refine onCall_counts s id fun p => ?_
    unfold grant
    split
    · exact .same rfl rfl (Nat.le_refl _)
    · exact .refl s
  | tryGrant name =>
    simp only [act, tryGrant]
    split
    · exact .same rfl rfl (Nat.le_refl _)
    · exact .refl s
  | count name =>
    simp only [act, count]
    split
    · exact .one name rfl rfl
    · exact .refl s
  | runResize id => exact onCall_counts s id s.runResize_counts
  | drop id => exact onCall_counts s id fun p => .same rfl rfl (Nat.le_refl _)
  | uncount name =>
    simp only [act, uncount]
    split
    · exact .same rfl rfl List.length_erase_le
    · exact .refl s
  | giveBack name =>
    simp only [act, giveBack]
    split
    · exact .same rfl rfl (Nat.le_refl _)
    · exact .refl s
  | advance millis => exact .same rfl rfl (Nat.le_refl _)

theorem total_act (s : Threads) (a : Action) :
    s.calls.gate.total ≤ (s.act a).calls.gate.total := by
  cases act_counts s a with
  | same _ htotal => exact Nat.le_of_eq htotal.symm
  | one name hgate =>
    rw [hgate]
    exact Nat.le_succ _

/-- The peak goes up with the permits that are held, and never down. -/
theorem Counted.peak_act {s : Threads} (h : s.Counted) (a : Action) :
    (s.act a).calls.gate.peak = max s.calls.gate.peak (s.act a).calls.held.length := by
  cases act_counts s a with
  | same hpeak _ hheld => rw [hpeak, Nat.max_eq_left (Nat.le_trans hheld h.peak)]
  | one name hgate hheld =>
    rw [hgate, hheld, countHeld, h.held, List.length_append, List.length_singleton]

theorem peak_reached (capacity : Nat) (actions : List Action) :
    (∀ earlier, earlier <+: actions →
      (after capacity earlier).calls.held.length ≤ (after capacity actions).calls.gate.peak) ∧
    ∃ earlier, earlier <+: actions ∧
      (after capacity actions).calls.gate.peak = (after capacity earlier).calls.held.length := by
  induction actions using List.reverseRecOn with
  | nil =>
    refine ⟨?_, [], List.prefix_refl _, rfl⟩
    intro earlier he
    rw [List.prefix_nil.mp he]
    exact Nat.le_refl 0
  | append_singleton actions a ih =>
    have hcounted := after_counted capacity actions
    obtain ⟨hall, earlier, hearlier, hreached⟩ := ih
    rw [after_concat, hcounted.peak_act a]
    refine ⟨?_, ?_⟩
    · intro before hbefore
      rcases List.prefix_concat_iff.mp hbefore with rfl | hbefore
      · rw [after_concat]
        exact Nat.le_max_right ..
      · exact Nat.le_trans (hall before hbefore) (Nat.le_max_left ..)
    · rcases Nat.le_total (after capacity actions).calls.gate.peak
        ((after capacity actions).act a).calls.held.length with hle | hle
      · refine ⟨actions ++ [a], List.prefix_refl _, ?_⟩
        rw [Nat.max_eq_right hle, after_concat]
      · refine ⟨earlier, hearlier.trans (List.prefix_append ..), ?_⟩
        rw [Nat.max_eq_left hle, hreached]

theorem Counted.waiting_pos {s : Threads} (h : s.Counted) {p : PendingCall}
    (hp : p ∈ s.calls.pending) (hw : s.waits p = true) : 0 < s.waiting := by
  rw [h.waiting]
  rcases Bool.or_eq_true_iff.mp hw with ha | hcollects
  · exact Nat.add_pos_left (List.countP_pos_iff.mpr ⟨p, hp, ha⟩) _
  · obtain ⟨r, hr, hboth⟩ := List.any_eq_true.mp hcollects
    exact Nat.add_pos_right _ (List.countP_pos_iff.mpr ⟨r, hr, (Bool.and_eq_true_iff.mp hboth).2⟩)

theorem held_le (capacity : Nat) (actions : List Action) :
    (after capacity actions).calls.held.length ≤ (after capacity actions).calls.gate.capacity := by
  obtain ⟨c, hleads, hm⟩ := after_matches capacity actions
  have hc := hleads.sound (Calls.sound_new capacity)
  have hbalance := hm.balance hc
  rw [out] at hbalance
  omega

/-- The counters of a gate, whatever runs between the steps of its holders. No counter is turned
down that is zero, and when no holder is between two steps they all say just what they are for. -/
theorem counters_true (capacity : Nat) (actions : List Action) :
    let s := after capacity actions
    let g := s.calls.gate
    g.available + s.calls.assignedToPending + s.out = g.capacity ∧
    g.inFlight ≤ s.out ∧ g.inFlight ≤ g.capacity ∧
    (∀ name ∈ s.calls.held, 0 < g.inFlight) ∧
    (∀ p ∈ s.calls.pending, s.waits p = true → 0 < s.waiting) ∧
    g.inFlight ≤ g.peak ∧
    (∃ earlier, earlier <+: actions ∧ g.peak ≤ (after capacity earlier).calls.gate.capacity) ∧
    (∀ a, g.total ≤ (s.act a).calls.gate.total) ∧
    g.inFlight = s.calls.held.length ∧
    s.waiting = s.calls.pending.countP (·.acquires) + (if g.resizes.any (·.begun) then 1 else 0) ∧
    s.waiting = g.stats.waiting ∧
    g.total + s.admitting.length = s.grants ∧
    (∀ earlier, earlier <+: actions → (after capacity earlier).calls.held.length ≤ g.peak) ∧
    (∃ earlier, earlier <+: actions ∧ g.peak = (after capacity earlier).calls.held.length) ∧
    (s.admitting = [] → s.returning = [] → g.inFlight = s.out ∧ g.total = s.grants) := by
  intro s g
  obtain ⟨c, hleads, hm⟩ := after_matches capacity actions
  have hc := hleads.sound (Calls.sound_new capacity)
  have h : s.Counted := after_counted capacity actions
  have hout : s.out = s.admitting.length + g.inFlight + s.returning.length := by rw [out, ← h.held]
  have hgrants : g.total + s.admitting.length = s.grants := h.grants
  obtain ⟨hpeaks, earlier, hearlier, hreached⟩ := peak_reached capacity actions
  refine ⟨hm.balance hc, by omega, h.held ▸ held_le capacity actions, ?_,
    fun p hp => h.waiting_pos hp, h.held ▸ h.peak,
    ⟨earlier, hearlier, hreached ▸ held_le capacity earlier⟩, total_act s, h.held, ?_,
    h.waiting_shown hm hc, hgrants, hpeaks, ⟨earlier, hearlier, hreached⟩, ?_⟩
  · intro name hname
    exact h.held ▸ List.length_pos_of_mem hname
  · rw [h.waiting, collecting_eq (hm.turns hc)]
  · intro hadmitting hreturning
    simp only [hadmitting, hreturning, List.length_nil] at hout hgrants
    omega

/-- Two permits are held, one of them after another was given back, and a call and a change to one
permit wait. -/
theorem counters_true_shrinking :
    let s := after 2 [.acquire "a", .grant 0, .tryGrant "b", .count "b", .uncount "b", .count "a",
      .giveBack "b", .tryGrant "c", .count "c", .acquire "d", .resize "e" 1, .runResize 2]
    s.calls.gate.stats = ⟨2, 2, 2, 2, 3⟩ ∧ 0 < s.calls.gate.inFlight ∧ 0 < s.waiting ∧
      s.waiting = s.calls.gate.stats.waiting ∧
      s.calls.gate.inFlight = s.out ∧ s.calls.gate.total = s.grants := by
  obtain ⟨-, -, -, hheld, hwaits, -, -, -, -, -, hshown, -, -, -, hidle⟩ := counters_true 2
    [.acquire "a", .grant 0, .tryGrant "b", .count "b", .uncount "b", .count "a", .giveBack "b",
      .tryGrant "c", .count "c", .acquire "d", .resize "e" 1, .runResize 2]
  exact ⟨by decide, hheld "a" (by decide), hwaits ⟨1, "d", .acquire⟩ (by decide) (by decide), hshown,
    hidle (by decide) (by decide)⟩

end MetricBatch.Gate.Threads

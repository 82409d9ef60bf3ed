import MetricBatch.Gate.Interleaving
import MetricBatch.Proofs.Gate.Scripts
import Mathlib.Data.List.Induction

namespace MetricBatch.Gate

variable {ι : Type}

/-- A gate without its counters, which is what the semaphore sees. -/
def uncounted (g : Gate ι) : Gate ι := { g with inFlight := 0, peak := 0, total := 0 }

theorem request_uncounted (g : Gate ι) (call : ι) (wants : Nat) :
    (g.request call wants).uncounted = g.uncounted.request call wants := by
  unfold request
  by_cases hw : wants ≤ g.available <;> simp [uncounted, hw]

theorem beginShrink_uncounted (g : Gate ι) (r : Resize ι) (rest : List (Resize ι)) :
    (g.beginShrink r rest).uncounted = g.uncounted.beginShrink r rest :=
  request_uncounted _ _ _

variable [DecidableEq ι]

theorem isGranted_uncounted (g : Gate ι) (call : ι) :
    g.uncounted.isGranted call = g.isGranted call := rfl

theorem retire_uncounted (g : Gate ι) (r : Resize ι) (rest : List (Resize ι)) :
    (g.retire r rest).uncounted = g.uncounted.retire r rest := rfl

theorem advanceResize_uncounted (g : Gate ι) (call : ι) :
    g.uncounted.advanceResize call =
      ((g.advanceResize call).1.uncounted, (g.advanceResize call).2) := by
  have hresizes : g.uncounted.resizes = g.resizes := rfl
  have hcapacity : g.uncounted.capacity = g.capacity := rfl
  unfold advanceResize
  rw [hresizes, hcapacity]
  cases g.resizes with
  | nil => rfl
  | cons r rest =>
    by_cases hcall : r.call = call
    · by_cases hbegun : r.begun = true
      · by_cases hg : g.isGranted call = true
        · simp [hcall, hbegun, hg, isGranted_uncounted, retire_uncounted]
        · simp [hcall, hbegun, hg, isGranted_uncounted]
      · by_cases hle : g.capacity ≤ r.target
        · simp [hcall, hbegun, hle]
          rfl
        · by_cases hmax : maxSurplus < g.capacity - r.target
          · simp [hcall, hbegun, hle, hmax, uncounted]
          · by_cases hg : (g.beginShrink r rest).isGranted call = true
            · simp [hcall, hbegun, hle, hmax, ← beginShrink_uncounted, isGranted_uncounted, hg,
                retire_uncounted]
            · simp [hcall, hbegun, hle, hmax, ← beginShrink_uncounted, isGranted_uncounted, hg]
    · simp [hcall]

end MetricBatch.Gate

namespace MetricBatch.Gate.Calls

theorem pollOne_granted {s : Calls} {p : PendingCall} (hp : p.acquires = true)
    (hg : s.gate.isGranted p.id = true) :
    (pollOne (s, []) p).1 =
      { s with
        gate := s.gate.take p.id
        held := s.held ++ [p.name]
        pending := s.pending.filter (·.id != p.id) } := by
  unfold PendingCall.acquires at hp
  split at hp
  case h_1 hk | h_2 hk => simp [pollOne, poll, hk, takeIfGranted, hg]
  case h_3 => cases hp

theorem pollOne_resize {s : Calls} {p : PendingCall} {target : Nat} (hk : p.kind = .resize target)
    (hv : isValidCapacity target = true) :
    (pollOne (s, []) p).1 =
      { s with
        gate := (s.gate.advanceResize p.id).1
        pending :=
          if (s.gate.advanceResize p.id).2 = .pending then s.pending
          else s.pending.filter (·.id != p.id) } := by
  simp only [pollOne, poll, hk, hv, ↓reduceIte]
  rcases s.gate.advanceResize p.id with ⟨gate, _ | _ | old⟩ <;> rfl

theorem pollOne_invalid {s : Calls} {p : PendingCall} {target : Nat} (hk : p.kind = .resize target)
    (hv : ¬isValidCapacity target = true) :
    (pollOne (s, []) p).1 = { s with pending := s.pending.filter (·.id != p.id) } := by
  simp [pollOne, poll, hk, hv]

theorem leadsTo_poll {s : Calls} {id : Nat} {p : PendingCall}
    (hp : s.pending.find? (·.id == id) = some p) : s.LeadsTo (pollOne (s, []) p).1 := by
  have hmove := leadsTo_move s (.poll id)
  rwa [move, pollById, hp] at hmove

end MetricBatch.Gate.Calls

namespace MetricBatch.Gate.Threads

/-- What the semaphore sees of the one is what it sees of the other, where a permit is held as long
as it is out. -/
structure Matches (s : Threads) (c : Calls) : Prop where
  gate : s.calls.gate.uncounted = c.gate.uncounted
  held : c.held.Perm (s.admitting ++ s.calls.held ++ s.returning)
  clock : s.calls.clock = c.clock
  nextId : s.calls.nextId = c.nextId
  pending : s.calls.pending = c.pending

theorem matches_new (capacity : Nat) : (new capacity).Matches (.new capacity) :=
  ⟨rfl, .refl _, rfl, rfl, rfl⟩

namespace Matches

variable {s : Threads} {c : Calls}

theorem isGranted (h : s.Matches c) (call : Nat) :
    s.calls.gate.isGranted call = c.gate.isGranted call := by
  rw [← isGranted_uncounted, h.gate, isGranted_uncounted]

theorem available (h : s.Matches c) : s.calls.gate.available = c.gate.available := by
  change s.calls.gate.uncounted.available = c.gate.uncounted.available
  rw [h.gate]

theorem start (h : s.Matches c) (name : String) (kind : CallKind) :
    (s.start name kind).Matches (c.start name kind) := by
  have hrequest : (s.calls.gate.request s.calls.nextId 1).uncounted =
      (c.gate.request c.nextId 1).uncounted := by
    rw [request_uncounted, request_uncounted, h.gate, h.nextId]
  refine ⟨?_, h.held, h.clock, congrArg (· + 1) h.nextId, ?_⟩
  · cases kind with
    | acquire | acquireUntil => exact hrequest
    | resize target =>
      simp only [Threads.start, Calls.start]
      split
      · rw [h.nextId]
        exact congrArg (Gate.startResize · c.nextId target) h.gate
      · exact h.gate
  · simp only [Threads.start, Calls.start, h.nextId, h.pending]

/-- A permit is held in a whole move once it is granted. -/
theorem hold (h : s.Matches c) (name : String) :
    (c.held ++ [name]).Perm (s.admitting ++ [name] ++ s.calls.held ++ s.returning) := by
  have hheld := List.perm_iff_count.mp h.held
  refine List.perm_iff_count.mpr fun x => ?_
  specialize hheld x
  simp only [List.count_append] at hheld ⊢
  omega

theorem grant (h : s.Matches c) {id : Nat} {p : PendingCall}
    (hp : s.calls.pending.find? (·.id == id) = some p) :
    ∃ c', c.LeadsTo c' ∧ (s.grant p).Matches c' := by
  have hpoll := Calls.leadsTo_poll (h.pending ▸ hp)
  have hgate : (s.calls.gate.remove p.id).uncounted = (c.gate.take p.id).uncounted :=
    congrArg (Gate.remove · p.id) h.gate
  have hpending : s.calls.pending.filter (·.id != p.id) = c.pending.filter (·.id != p.id) := by
    rw [h.pending]
  unfold Threads.grant
  split
  · rename_i hg
    rw [Bool.and_eq_true, h.isGranted] at hg
    rw [Calls.pollOne_granted hg.1 hg.2] at hpoll
    exact ⟨_, hpoll, hgate, h.hold p.name, h.clock, h.nextId, hpending⟩
  · exact ⟨c, .refl c, h⟩

theorem tryGrant (h : s.Matches c) (name : String) :
    ∃ c', c.LeadsTo c' ∧ (s.tryGrant name).Matches c' := by
  unfold Threads.tryGrant
  split
  · rename_i hpos
    have hmove := Calls.leadsTo_move c (.tryAcquire name)
    have hgate : { s.calls.gate with available := s.calls.gate.available - 1 }.uncounted =
        { c.gate with available := c.gate.available - 1 }.countHeld.uncounted :=
      congrArg (fun g : Gate Nat => { g with available := g.available - 1 }) h.gate
    simp only [Calls.move, Calls.tryAcquire?, tryAcquire?, ← h.available, hpos, ↓reduceIte] at hmove
    rw [h.available] at hmove
    exact ⟨_, hmove, hgate, h.hold name, h.clock, h.nextId, h.pending⟩
  · exact ⟨c, .refl c, h⟩

theorem count (h : s.Matches c) (name : String) : (s.count name).Matches c := by
  unfold Threads.count
  split
  · rename_i hname
    refine ⟨h.gate, h.held.trans ?_, h.clock, h.nextId, h.pending⟩
    have hadmitting := List.perm_cons_erase (List.contains_iff_mem.mp hname)
    refine List.perm_iff_count.mpr fun x => ?_
    have hcount := List.perm_iff_count.mp hadmitting x
    simp only [List.count_append, List.count_cons, List.count_nil] at hcount ⊢
    omega
  · exact h

theorem uncount (h : s.Matches c) (name : String) : (s.uncount name).Matches c := by
  unfold Threads.uncount
  split
  · rename_i hname
    refine ⟨h.gate, h.held.trans ?_, h.clock, h.nextId, h.pending⟩
    have hcounted := List.perm_cons_erase (List.contains_iff_mem.mp hname)
    refine List.perm_iff_count.mpr fun x => ?_
    have hcount := List.perm_iff_count.mp hcounted x
    simp only [List.count_append, List.count_cons, List.count_nil] at hcount ⊢
    omega
  · exact h

theorem runResize (h : s.Matches c) {id : Nat} {p : PendingCall}
    (hp : s.calls.pending.find? (·.id == id) = some p) :
    ∃ c', c.LeadsTo c' ∧ (s.runResize p).Matches c' := by
  unfold Threads.runResize
  split
  · exact ⟨c, .refl c, h⟩
  · exact ⟨c, .refl c, h⟩
  · rename_i target hk
    refine ⟨_, Calls.leadsTo_poll (h.pending ▸ hp), ?_⟩
    split
    · rename_i hv
      have hadvance := congrArg (Gate.advanceResize · p.id) h.gate
      simp only [advanceResize_uncounted, Prod.mk.injEq] at hadvance
      rw [Calls.pollOne_resize hk hv]
      dsimp only
      rw [Calls.pollOne_resize hk hv]
      exact ⟨hadvance.1, h.held, h.clock, h.nextId, by rw [hadvance.2, h.pending]⟩
    · rename_i hv
      rw [Calls.pollOne_invalid hk hv, Calls.pollOne_invalid hk hv]
      exact ⟨h.gate, h.held, h.clock, h.nextId, by rw [h.pending]⟩

theorem drop (h : s.Matches c) {id : Nat} {p : PendingCall}
    (hp : s.calls.pending.find? (·.id == id) = some p) :
    ∃ c', c.LeadsTo c' ∧ (s.drop p).Matches c' := by
  have hany : c.pending.any (·.id == p.id) = true := by
    rw [← h.pending]
    exact List.any_eq_true.mpr ⟨p, List.mem_of_find?_eq_some hp, by simp⟩
  have hmove := Calls.leadsTo_move c (.drop p.id)
  simp only [Calls.move, hany, ↓reduceIte] at hmove
  refine ⟨_, hmove, ?_, h.held, h.clock, h.nextId, ?_⟩
  · exact congrArg (Gate.cancel · p.id) h.gate
  · simp only [Threads.drop, Calls.drop, h.pending]

theorem giveBack (h : s.Matches c) (name : String) :
    ∃ c', c.LeadsTo c' ∧ (s.giveBack name).Matches c' := by
  unfold Threads.giveBack
  split
  · rename_i hname
    have hreturning := List.contains_iff_mem.mp hname
    have hmem : name ∈ c.held := h.held.mem_iff.mpr (List.mem_append_right _ hreturning)
    have hmove := Calls.leadsTo_move c (.release name)
    simp only [Calls.move, Calls.release?, List.contains_iff_mem.mpr hmem, ↓reduceIte] at hmove
    refine ⟨_, hmove, congrArg (Gate.addPermits · 1) h.gate, ?_, h.clock, h.nextId, h.pending⟩
    refine List.perm_iff_count.mpr fun x => ?_
    have hheld := List.perm_iff_count.mp (h.held.erase name) x
    have hback := List.perm_iff_count.mp (List.perm_cons_erase hreturning) x
    have hfull := List.perm_iff_count.mp
      (List.perm_cons_erase (h.held.mem_iff.mp hmem)) x
    simp only [List.count_append, List.count_cons] at hheld hback hfull ⊢
    dsimp only [Option.getD_some]
    omega
  · exact ⟨c, .refl c, h⟩

theorem onCall (h : s.Matches c) (id : Nat) {f : PendingCall → Threads}
    (hf : ∀ p, s.calls.pending.find? (·.id == id) = some p →
      ∃ c', c.LeadsTo c' ∧ (f p).Matches c') :
    ∃ c', c.LeadsTo c' ∧ (s.onCall id f).Matches c' := by
  unfold Threads.onCall
  cases hp : s.calls.pending.find? (·.id == id) with
  | none => exact ⟨c, .refl c, h⟩
  | some p => exact hf p hp

/-- An action is a whole move to the semaphore, or nothing. -/
theorem act (h : s.Matches c) (a : Action) : ∃ c', c.LeadsTo c' ∧ (s.act a).Matches c' := by
  cases a with
  | acquire name => exact ⟨_, Calls.leadsTo_move c (.acquire name), h.start name .acquire⟩
  | acquireWithin name timeout =>
    refine ⟨_, Calls.leadsTo_move c (.acquireWithin name timeout), ?_⟩
    simp only [Threads.act, Calls.move, Calls.startWithin, ← h.clock]
    exact h.start name _
  | resize name target =>
    exact ⟨_, Calls.leadsTo_move c (.resize name target), h.start name (.resize target)⟩
  | grant id => exact h.onCall id fun _ => h.grant
  | tryGrant name => exact h.tryGrant name
  | count name => exact ⟨c, .refl c, h.count name⟩
  | runResize id => exact h.onCall id fun _ => h.runResize
  | drop id => exact h.onCall id fun _ => h.drop
  | uncount name => exact ⟨c, .refl c, h.uncount name⟩
  | giveBack name => exact h.giveBack name
  | advance millis =>
    refine ⟨_, Calls.leadsTo_move c (.advance millis), h.gate, h.held, ?_, h.nextId, h.pending⟩
    exact congrArg (· + millis) h.clock

end Matches

theorem after_concat (capacity : Nat) (actions : List Action) (a : Action) :
    after capacity (actions ++ [a]) = (after capacity actions).act a :=
  List.foldl_append

/-- A run of actions is a run of whole moves to the semaphore. -/
theorem after_matches (capacity : Nat) (actions : List Action) :
    ∃ c, (Calls.new capacity).LeadsTo c ∧ (after capacity actions).Matches c := by
  induction actions using List.reverseRecOn with
  | nil => exact ⟨_, .refl _, matches_new capacity⟩
  | append_singleton rest a ih =>
    obtain ⟨c, hleads, h⟩ := ih
    obtain ⟨c', hleads', h'⟩ := h.act a
    rw [after_concat]
    exact ⟨c', hleads.trans hleads', h'⟩

/-- No holder is between two steps. -/
def IsIdle (s : Threads) : Prop := s.admitting = [] ∧ s.returning = []

theorem IsIdle.grant_count {s : Threads} (h : s.IsIdle) {id : Nat} {p : PendingCall}
    (hp : s.calls.pending.find? (·.id == id) = some p) (ha : p.acquires = true)
    (hg : s.calls.gate.isGranted p.id = true) :
    ([.grant id, .count p.name].foldl act s).calls = (Calls.pollOne (s.calls, []) p).1 ∧
      ([.grant id, .count p.name].foldl act s).IsIdle := by
  rw [Calls.pollOne_granted ha hg]
  simp [act, onCall, hp, grant, ha, hg, count, h.1, IsIdle, h.2, Gate.take]

theorem IsIdle.drop {s : Threads} (h : s.IsIdle) {p : PendingCall}
    (hp : s.calls.pending.find? (·.id == p.id) = some p) :
    (s.act (.drop p.id)).calls = s.calls.drop p.id ∧ (s.act (.drop p.id)).IsIdle := by
  simp only [act, onCall, hp, Option.map_some, Option.getD_some]
  exact ⟨rfl, h⟩

theorem IsIdle.poll {s : Threads} (h : s.IsIdle) {id : Nat} {p : PendingCall}
    (hp : s.calls.pending.find? (·.id == id) = some p) :
    ∃ actions : List Action, (actions.foldl act s).calls = (Calls.pollOne (s.calls, []) p).1 ∧
      (actions.foldl act s).IsIdle := by
  obtain rfl : p.id = id := by simpa using List.find?_some hp
  cases hk : p.kind with
  | acquire =>
    by_cases hg : s.calls.gate.isGranted p.id = true
    · exact ⟨_, h.grant_count hp (by simp [PendingCall.acquires, hk]) hg⟩
    · exact ⟨[], by simp [Calls.pollOne, Calls.poll, hk, Calls.takeIfGranted, hg], h⟩
  | acquireUntil deadline timeout =>
    by_cases hg : s.calls.gate.isGranted p.id = true
    · exact ⟨_, h.grant_count hp (by simp [PendingCall.acquires, hk]) hg⟩
    · by_cases hd : deadline ≤ s.calls.clock
      · obtain ⟨hcalls, hidle⟩ := h.drop hp
        refine ⟨[.drop p.id], hcalls.trans ?_, hidle⟩
        simp [Calls.drop, Calls.pollOne, Calls.poll, hk, Calls.takeIfGranted, hg, hd]
      · exact ⟨[], by simp [Calls.pollOne, Calls.poll, hk, Calls.takeIfGranted, hg, hd], h⟩
  | resize target =>
    refine ⟨[.runResize p.id], ?_⟩
    simp only [List.foldl_cons, List.foldl_nil, act, onCall, hp, Option.map_some, Option.getD_some,
      runResize, hk]
    split <;> exact ⟨rfl, h⟩

/-- A move is an action or two. -/
theorem IsIdle.move {s : Threads} (h : s.IsIdle) (m : Calls.Move) :
    ∃ actions : List Action, (actions.foldl act s).calls = s.calls.move m ∧
      (actions.foldl act s).IsIdle := by
  cases m with
  | acquire name => exact ⟨[.acquire name], rfl, h⟩
  | acquireWithin name timeout => exact ⟨[.acquireWithin name timeout], rfl, h⟩
  | resize name target => exact ⟨[.resize name target], rfl, h⟩
  | advance millis => exact ⟨[.advance millis], rfl, h⟩
  | poll id =>
    simp only [Calls.move, Calls.pollById]
    cases hp : s.calls.pending.find? (·.id == id) with
    | none => exact ⟨[], rfl, h⟩
    | some p => exact h.poll hp
  | drop id =>
    simp only [Calls.move]
    cases hp : s.calls.pending.find? (·.id == id) with
    | none =>
      have hnone : s.calls.pending.any (·.id == id) = false := by
        rw [List.any_eq_false]
        exact List.find?_eq_none.mp hp
      exact ⟨[], by rw [hnone]; rfl, h⟩
    | some p =>
      obtain rfl : p.id = id := by simpa using List.find?_some hp
      have hany : s.calls.pending.any (·.id == p.id) = true :=
        List.any_eq_true.mpr ⟨p, List.mem_of_find?_eq_some hp, beq_self_eq_true _⟩
      rw [hany]
      exact ⟨[.drop p.id], h.drop hp⟩
  | tryAcquire name =>
    simp only [Calls.move, Calls.tryAcquire?, tryAcquire?]
    by_cases hpos : 0 < s.calls.gate.available
    · refine ⟨[.tryGrant name, .count name], ?_⟩
      simp [act, tryGrant, hpos, count, h.1, IsIdle, h.2]
    · exact ⟨[], by simp [hpos], h⟩
  | release name =>
    simp only [Calls.move, Calls.release?]
    by_cases hname : name ∈ s.calls.held
    · refine ⟨[.uncount name, .giveBack name], ?_⟩
      simp [act, uncount, hname, giveBack, h.1, IsIdle, h.2, Gate.release]
    · exact ⟨[], by simp [hname], h⟩

/-- Whatever moves come to, actions come to as well. -/
theorem moves_lead (capacity : Nat) (moves : List Calls.Move) :
    ∃ actions, (after capacity actions).calls = Calls.after capacity moves ∧
      (after capacity actions).IsIdle := by
  suffices hrun : ∀ s : Threads, s.IsIdle → ∃ actions : List Action,
      (actions.foldl act s).calls = moves.foldl Calls.move s.calls ∧ (actions.foldl act s).IsIdle from
    hrun (new capacity) ⟨rfl, rfl⟩
  induction moves with
  | nil => exact fun s h => ⟨[], rfl, h⟩
  | cons m rest ih =>
    intro s h
    obtain ⟨first, hcalls, hidle⟩ := h.move m
    obtain ⟨more, hrest, hdone⟩ := ih _ hidle
    refine ⟨first ++ more, ?_, ?_⟩
    · rw [List.foldl_append, hrest, hcalls, List.foldl_cons]
    · rw [List.foldl_append]
      exact hdone

end MetricBatch.Gate.Threads

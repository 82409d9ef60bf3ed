import MetricBatch.Proofs.Gate.Shrinking
import MetricBatch.Proofs.Gate.Withdrawal

namespace MetricBatch.Gate

variable {ι : Type} [DecidableEq ι]

/-- The capacity has grown. The permits that were added have gone to the queue from its head, and
what the queue did not want is available. -/
structure Grows (g : Gate ι) (target : Nat) (g' : Gate ι) : Prop where
  capacity : g'.capacity = target
  handed : ∃ served left, HandsOut (target - g.capacity) g.queue served g'.queue left ∧
    g'.granted = g.granted ++ served ∧ g'.available = g.available + left
  held : g'.inFlight = g.inFlight
  counted : g'.peak = g.peak ∧ g'.total = g.total
  waiters : g'.waiters.map (fun w => (w.call, w.wants)) =
    g.waiters.map (fun w => (w.call, w.wants))

omit [DecidableEq ι] in
theorem Counted.grows {g : Gate ι} {n : Nat} (h : g.Counted n) (r : Resize ι)
    (rest : List (Resize ι)) : g.Grows r.target (g.grow r rest) :=
  ⟨rfl, ⟨_, _, hand_handsOut _ h.short, rfl, rfl⟩, rfl, ⟨rfl, rfl⟩, addPermits_wants _ _⟩

/-- A change to no fewer permits that has its turn has not begun, and is over when it runs. -/
theorem Balanced.advanceResize_grow {g : Gate ι} (h : g.Balanced 0) {r : Resize ι}
    {rest : List (Resize ι)} (hres : g.resizes = r :: rest) (hle : g.capacity ≤ r.target) :
    g.advanceResize r.call = (g.grow r rest, .changed g.capacity) := by
  have hunbegun : r.begun = false := by
    by_contra hbegun
    have hlt := h.shrinks r (by simp [hres]) (by simpa using hbegun)
    omega
  simp [Gate.advanceResize, hres, hunbegun, hle]

theorem advanceResize_behind {g : Gate ι} {call : ι} (h : ∀ r ∈ g.resizes.head?, r.call ≠ call) :
    g.advanceResize call = (g, .pending) := by
  cases hres : g.resizes with
  | nil => simp [advanceResize, hres]
  | cons r rest =>
    have hne : r.call ≠ call := h r (by simp [hres])
    simp [advanceResize, hres, hne]

end MetricBatch.Gate

namespace MetricBatch.Gate.Calls

/-- The change of the capacity that a call wants has its turn. -/
def hasTurn (s : Calls) (id : Nat) : Bool := s.gate.resizes.head?.any (·.call == id)

theorem hasTurn_iff {s : Calls} {id : Nat} :
    s.hasTurn id = true ↔ ∃ r rest, s.gate.resizes = r :: rest ∧ r.call = id := by
  cases hres : s.gate.resizes with
  | nil => simp [hasTurn, hres]
  | cons r rest => simp [hasTurn, hres]

/-- What a call does when it runs, if it changes the capacity to more permits: it is over just if it
has its turn. -/
theorem Sound.poll_grow {s : Calls} (h : s.Sound) {p : PendingCall} (hp : p ∈ s.pending)
    {target : Nat} (hk : p.kind = .resize target) (hmax : target ≤ maxCapacity)
    (hle : s.gate.capacity ≤ target) :
    if s.hasTurn p.id then
      ∃ g, s.poll p = ({ s with gate := g }, some (.resized p.name)) ∧ s.gate.Grows target g
    else s.poll p = (s, none) := by
  have hv : isValidCapacity target = true := by
    have hpos := h.gate.capacity_pos
    simp [isValidCapacity, hmax]
    omega
  split
  · rename_i hturn
    obtain ⟨r, rest, hres, hcall⟩ := hasTurn_iff.mp hturn
    have hkind := h.kind_of_resizer hp (r := r) (by simp [hres]) hcall
    obtain rfl : target = r.target := CallKind.resize.inj (hk.symm.trans hkind)
    have hgrow := h.gate.advanceResize_grow hres hle
    rw [hcall] at hgrow
    exact ⟨s.gate.grow r rest, by simp [poll, hk, hv, hgrow], h.gate.grows r rest⟩
  · rename_i hturn
    have hbehind : s.gate.advanceResize p.id = (s.gate, .pending) := by
      refine advanceResize_behind fun r hr hcall => hturn ?_
      obtain ⟨rest, hres⟩ := List.head?_eq_some_iff.mp hr
      exact hasTurn_iff.mpr ⟨r, rest, hres, hcall⟩
    simp [poll, hk, hv, hbehind]

/-- In a settled gate the change that has its turn is one to fewer permits, and more are held than
it is to leave. -/
theorem Sound.settled_turn {s : Calls} (h : s.Sound) (hs : s.IsSettled) {r : Resize Nat}
    {rest : List (Resize Nat)} (hres : s.gate.resizes = r :: rest) :
    ∃ q ∈ s.pending, q.id = r.call ∧ q.kind = .resize r.target ∧
      s.gate.isQueued q.id = true ∧ r.target < s.gate.capacity ∧ r.target < s.held.length := by
  have hmem : r ∈ s.gate.resizes := by simp [hres]
  obtain ⟨q, hq, hid, hk⟩ := h.resizes r hmem
  have hbegun := h.settled_begun hs hres
  have hc : q.id ∈ s.gate.callers := hid ▸ (h.gate.begun_iff r hmem).mp hbegun
  have hshrinks := h.shrinks hq hk hc
  exact ⟨q, hq, hid, hk, (mem_callers_queued (h.settled_granted hs)).mp hc, hshrinks.below.2,
    hshrinks.settled hs⟩

theorem start_resize {s : Calls} (name : String) {target : Nat}
    (hv : isValidCapacity target = true) :
    (s.start name (.resize target)).gate = s.gate.startResize s.nextId target := by
  simp [start, hv]

/-- A change has its turn when it comes just if there is no other. -/
theorem Sound.start_turn {s : Calls} (h : s.Sound) (name : String) {target : Nat}
    (hv : isValidCapacity target = true) :
    (s.start name (.resize target)).hasTurn s.nextId = true ↔ s.gate.resizes = [] := by
  rw [hasTurn_iff, start_resize name hv]
  cases hres : s.gate.resizes with
  | nil => simp [startResize, hres]
  | cons x tail =>
    simp only [startResize, hres, List.cons_append, List.cons.injEq, reduceCtorEq, iff_false]
    rintro ⟨r, rest, ⟨hx, _⟩, hcall⟩
    exact h.fresh_resizer (List.mem_map.mpr ⟨x, by simp [hres], by rw [hx, hcall]⟩)

/-- A change to more permits is over when it first runs just if no other change is pending: nobody
who holds or waits for permits can delay it, and what it adds goes to the queue from the head.
Behind another change it waits for its turn, and is over when it runs then. In a settled gate that
other change is collecting permits, and more are held than it is to leave; so then the growth waits
until some of them are given back. -/
theorem grows_in_turn (capacity : Nat) (moves : List Move) :
    let s := after capacity moves
    (∀ name target, s.gate.capacity < target → target ≤ maxCapacity →
      let t := s.start name (.resize target)
      (s.gate.resizes = [] → ∃ g, s.gate.Grows target g ∧
        t.poll ⟨s.nextId, name, .resize target⟩ = ({ t with gate := g }, some (.resized name))) ∧
      (s.gate.resizes ≠ [] → t.poll ⟨s.nextId, name, .resize target⟩ = (t, none))) ∧
    (∀ p target, p ∈ s.pending → p.kind = .resize target → s.gate.capacity ≤ target →
      target ≤ maxCapacity →
      if s.hasTurn p.id then
        ∃ g, s.poll p = ({ s with gate := g }, some (.resized p.name)) ∧ s.gate.Grows target g
      else s.poll p = (s, none)) ∧
    (s.IsSettled → s.gate.resizes ≠ [] → ∃ q ∈ s.pending, ∃ target, q.kind = .resize target ∧
      s.hasTurn q.id = true ∧ s.gate.isQueued q.id = true ∧ target < s.gate.capacity ∧
      target < s.held.length) := by
  intro s
  have h : s.Sound := sound_after capacity moves
  refine ⟨?_, fun p target hp hk hle hmax => h.poll_grow hp hk hmax hle, ?_⟩
  · intro name target hlt hmax t
    have hv : isValidCapacity target = true := by
      simp [isValidCapacity, hmax]
      omega
    have ht : t.Sound := h.start name (.resize target)
    have hgate : t.gate = s.gate.startResize s.nextId target := start_resize name hv
    have hmem : (⟨s.nextId, name, .resize target⟩ : PendingCall) ∈ t.pending := by
      simp [t, Calls.start]
    have hle : t.gate.capacity ≤ target := by
      rw [hgate]
      exact Nat.le_of_lt hlt
    have hpoll := ht.poll_grow hmem rfl hmax hle
    have hturn : t.hasTurn s.nextId = true ↔ s.gate.resizes = [] := h.start_turn name hv
    constructor
    · intro hnone
      rw [if_pos (hturn.mpr hnone)] at hpoll
      obtain ⟨g, hpoll, hgrows⟩ := hpoll
      rw [hgate] at hgrows
      refine ⟨g, ?_, hpoll⟩
      exact ⟨hgrows.capacity, hgrows.handed, hgrows.held, hgrows.counted, hgrows.waiters⟩
    · intro hsome
      rwa [if_neg (mt hturn.mp hsome)] at hpoll
  · intro hs hsome
    obtain ⟨r, rest, hres⟩ := List.exists_cons_of_ne_nil hsome
    obtain ⟨q, hq, hid, hk, hqueued, hlt, hheld⟩ := h.settled_turn hs hres
    exact ⟨q, hq, r.target, hk, hasTurn_iff.mpr ⟨r, rest, hres, hid.symm⟩, hqueued, hlt, hheld⟩

/-- Two permits are held, and a call waits for one. A change to four permits is over at once: the
call has one of the two that were added, and the other is available. Where three are held and a
change to one permit collects them, a change to four waits; when the other is dropped it is over. -/
theorem grows_in_turn_crowded :
    let s := after 2 [.acquire "a", .poll 0, .acquire "b", .poll 1, .acquire "c"]
    let t := s.start "d" (.resize 4)
    let moves : List Move := [.acquire "a", .poll 0, .acquire "b", .poll 1, .acquire "c", .poll 2,
      .resize "d" 1, .poll 3]
    let u := after 3 moves
    let v := after 3 (moves ++ [.resize "e" 4, .drop 3])
    (s.gate.available = 0 ∧ s.gate.queue = [⟨2, 1, 0⟩] ∧ ∃ g, s.gate.Grows 4 g ∧
      t.poll ⟨3, "d", .resize 4⟩ = ({ t with gate := g }, some (.resized "d")) ∧
      g.granted = [⟨2, 1, 1⟩] ∧ g.available = 1) ∧
    (u.start "e" (.resize 4)).poll ⟨4, "e", .resize 4⟩ = (u.start "e" (.resize 4), none) ∧
    (∃ q ∈ u.pending, u.gate.isQueued q.id = true) ∧
    ∃ g, v.poll ⟨4, "e", .resize 4⟩ = ({ v with gate := g }, some (.resized "e")) ∧
      v.gate.Grows 4 g := by
  intro s t moves u v
  obtain ⟨g, hgrows, hpoll⟩ := ((grows_in_turn 2 [.acquire "a", .poll 0, .acquire "b", .poll 1,
    .acquire "c"]).1 "d" 4 (by decide) (by decide)).1 (by decide)
  obtain rfl : (t.poll ⟨3, "d", .resize 4⟩).1.gate = g := congrArg (·.1.gate) hpoll
  obtain ⟨hstart, -, hsettled⟩ := grows_in_turn 3 moves
  obtain ⟨q, hq, _, _, _, hqueued, _⟩ := hsettled (by decide) (by decide)
  have hturn := (grows_in_turn 3 (moves ++ [.resize "e" 4, .drop 3])).2.1 ⟨4, "e", .resize 4⟩ 4
    (by decide) rfl (by decide) (by decide)
  rw [if_pos (by decide)] at hturn
  exact ⟨⟨by decide, by decide, _, hgrows, hpoll, by decide, by decide⟩,
    (hstart "e" 4 (by decide) (by decide)).2 (by decide), ⟨q, hq, hqueued⟩, hturn⟩

/-- Three permits are held, and a change to one permit waits for two of them. A change to four
permits that comes now waits as well. -/
theorem grows_in_turn_stalled :
    let s := after 3 [.acquire "a", .poll 0, .acquire "b", .poll 1, .acquire "c", .poll 2,
      .resize "d" 1, .poll 3]
    let t := s.start "e" (.resize 4)
    s.IsSettled ∧ s.gate.capacity < 4 ∧ 4 ≤ maxCapacity ∧
      t.poll ⟨4, "e", .resize 4⟩ = (t, none) := by
  decide

end MetricBatch.Gate.Calls

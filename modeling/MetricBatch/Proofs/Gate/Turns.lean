import MetricBatch.Proofs.Gate.Settling

namespace MetricBatch.Gate

variable {ι : Type}

/-- The one call does not stand before the other in the line. -/
def NotAhead (g : Gate ι) (c x : ι) : Prop := g.callers.Pairwise fun a b => ¬(a = c ∧ b = x)

theorem notAhead_of_not_mem {g : Gate ι} {c : ι} (h : c ∉ g.callers) (x : ι) : g.NotAhead c x :=
  List.Pairwise.imp_of_mem (R := fun _ _ => True) (fun ha _ _ he => h (he.1 ▸ ha))
    (List.pairwise_of_forall fun _ _ => trivial)

/-- Whoever does not stand before a call in the queue has not been granted its permits. -/
theorem NotAhead.not_granted [DecidableEq ι] {g : Gate ι} {c x : ι} (h : g.NotAhead c x)
    (hx : x ∈ g.callers) (hg : g.isGranted x = false) : g.isGranted c = false := by
  by_contra hc
  exact before_queue h (by simpa using hc) hx hg ⟨rfl, rfl⟩

variable [DecidableEq ι]

/-- Where no permit is available, a change of the capacity that has not been granted its permits
finishes only by growing. -/
theorem advanceResize_grows {g : Gate ι} {call : ι} {old : Nat} (hnone : g.available = 0)
    (hg : g.isGranted call = false) (h : (g.advanceResize call).2 = .changed old) :
    ∃ r rest, g.resizes = r :: rest ∧ r.call = call ∧ g.capacity ≤ r.target := by
  have hstep := advanceResize_advances g call
  generalize g.advanceResize call = result at hstep h
  cases hstep with
  | wait | refuse | begin => cases h
  | @grow r rest hres hcall hn hle => exact ⟨r, rest, hres, hcall, hle⟩
  | retire _ _ _ hgranted =>
    rw [hg] at hgranted
    cases hgranted
  | @shrink r rest hres hcall hn hlt hmax hgranted =>
    have hwants : ¬g.capacity - r.target ≤ g.available := by omega
    have hsame : (g.beginShrink r rest).isGranted call = g.isGranted call := by
      simp [beginShrink, Gate.request, hwants, isGranted]
    rw [hsame, hg] at hgranted
    cases hgranted

end MetricBatch.Gate

namespace MetricBatch.Gate.Calls

/-- What stays true of the calls that are pending in both states: who is in the line stays there,
who was granted its permits still is, and nobody gets ahead of a call in the line. -/
structure Follows (s t : Calls) : Prop where
  fresh : s.nextId ≤ t.nextId
  pending : ∀ p ∈ t.pending, p.id < s.nextId → p ∈ s.pending
  stays : ∀ p ∈ t.pending, p.id ∈ s.gate.callers → p.id ∈ t.gate.callers
  granted : ∀ p ∈ t.pending, s.gate.isGranted p.id = true → t.gate.isGranted p.id = true
  behind : ∀ p ∈ t.pending, p.id ∈ s.gate.callers → ∀ c, s.gate.NotAhead c p.id →
    t.gate.NotAhead c p.id

theorem Follows.refl (s : Calls) : s.Follows s :=
  ⟨Nat.le_refl _, fun _ hp _ => hp, fun _ _ hc => hc, fun _ _ hg => hg, fun _ _ _ _ h => h⟩

/-- Whoever has not been granted its permits had not been before. -/
theorem Follows.not_granted {s t : Calls} (h : s.Follows t) {p : PendingCall} (hp : p ∈ t.pending)
    (hg : t.gate.isGranted p.id = false) : s.gate.isGranted p.id = false := by
  by_contra hgs
  rw [h.granted p hp (by simpa using hgs)] at hg
  cases hg

theorem Sound.caller_lt {s : Calls} (h : s.Sound) {c : Nat} (hc : c ∈ s.gate.callers) :
    c < s.nextId := by
  obtain ⟨p, hp, rfl, _⟩ := h.callers c hc
  exact h.fresh p hp

theorem Follows.trans {s t u : Calls} (h : s.Sound) (hst : s.Follows t) (htu : t.Follows u) :
    s.Follows u := by
  have hearlier {p : PendingCall} (hp : p ∈ u.pending) (hlt : p.id < s.nextId) : p ∈ t.pending :=
    htu.pending p hp (Nat.lt_of_lt_of_le hlt hst.fresh)
  refine ⟨Nat.le_trans hst.fresh htu.fresh, ?_, ?_, ?_, ?_⟩
  · intro p hp hlt
    exact hst.pending p (hearlier hp hlt) hlt
  · intro p hp hc
    exact htu.stays p hp (hst.stays p (hearlier hp (h.caller_lt hc)) hc)
  · intro p hp hg
    have ht := hearlier hp (h.caller_lt (granted_caller hg))
    exact htu.granted p hp (hst.granted p ht hg)
  · intro p hp hc x hx
    have ht := hearlier hp (h.caller_lt hc)
    exact htu.behind p hp (hst.stays p ht hc) x (hst.behind p ht hc x hx)

/-- The line stays as it is, or someone comes to its end, or someone leaves who is over. -/
theorem follows_of_line {s t : Calls} (ht : t.Sound) (fresh : s.nextId ≤ t.nextId)
    (pending : ∀ p ∈ t.pending, p.id < s.nextId → p ∈ s.pending)
    (granted : ∀ p ∈ t.pending, p.id ∈ t.gate.callers → s.gate.isGranted p.id = true →
      t.gate.isGranted p.id = true)
    (line : t.gate.callers = s.gate.callers ∨ (∃ c, t.gate.callers = s.gate.callers ++ [c]) ∨
      ∃ c, (∀ p ∈ t.pending, p.id ≠ c) ∧ t.gate.callers = s.gate.callers.filter (· != c)) :
    s.Follows t := by
  have hunique := ht.gate.unique
  have stays : ∀ p ∈ t.pending, p.id ∈ s.gate.callers → p.id ∈ t.gate.callers := by
    intro p hp hc
    rcases line with hsame | ⟨c, hjoin⟩ | ⟨c, hover, hleave⟩
    · rwa [hsame]
    · rw [hjoin]
      exact List.mem_append_left _ hc
    · rw [hleave]
      exact List.mem_filter.mpr ⟨hc, by simpa using hover p hp⟩
  refine ⟨fresh, pending, stays, ?_, ?_⟩
  · intro p hp hg
    exact granted p hp (stays p hp (granted_caller hg)) hg
  · intro p hp hc x hx
    unfold NotAhead at hx ⊢
    rcases line with hsame | ⟨c, hjoin⟩ | ⟨c, hover, hleave⟩
    · rwa [hsame]
    · rw [hjoin] at hunique ⊢
      have hne : c ≠ p.id := by
        rintro rfl
        exact (List.nodup_append.mp hunique).2.2 p.id hc p.id (by simp) rfl
      refine List.pairwise_append.mpr ⟨hx, List.pairwise_singleton _ _, ?_⟩
      intro a _ b hb he
      exact hne ((List.mem_singleton.mp hb).symm.trans he.2)
    · rw [hleave]
      exact hx.filter _

theorem mem_over {ps : List PendingCall} {id : Nat} {p : PendingCall}
    (hp : p ∈ ps.filter (·.id != id)) : p ∈ ps ∧ p.id ≠ id := by
  simpa using hp

theorem Does.follows {s t : Calls} {m : Move} (hd : Does s m t) (h : s.Sound) (ht : t.Sound) :
    s.Follows t ∧ t.nextId ≤ s.nextId + 1 := by
  have hjoined {name : String} {kind : CallKind} : ∀ p ∈ s.pending ++ [⟨s.nextId, name, kind⟩],
      p.id < s.nextId → p ∈ s.pending := by
    intro p hp hlt
    rcases List.mem_append.mp hp with hm | hm
    · exact hm
    · rw [List.mem_singleton.mp hm] at hlt
      exact absurd hlt (Nat.lt_irrefl _)
  cases hd with
  | nothing => exact ⟨.refl s, Nat.le_succ _⟩
  | ask =>
    refine ⟨follows_of_line ht (Nat.le_succ _) hjoined ?_ (.inr (.inl ⟨s.nextId, ?_⟩)),
      Nat.le_refl _⟩
    · exact fun p _ _ hg => granted_request hg _ _
    · exact h.gate.request_line s.nextId Nat.one_pos
  | lineUp | askInvalid =>
    exact ⟨follows_of_line ht (Nat.le_succ _) hjoined (fun _ _ _ hg => hg) (.inl rfl),
      Nat.le_refl _⟩
  | @take q =>
    refine ⟨follows_of_line ht (Nat.le_refl _) (fun p hp _ => (mem_over hp).1) ?_
      (.inr (.inr ⟨q.id, fun p hp => (mem_over hp).2, remove_line _ _⟩)), Nat.le_succ _⟩
    exact fun p hp _ hg => granted_remove hg (mem_over hp).2
  | @expire q | @drop q =>
    refine ⟨follows_of_line ht (Nat.le_refl _) (fun p hp _ => (mem_over hp).1) ?_
      (.inr (.inr ⟨q.id, fun p hp => (mem_over hp).2, cancel_line _ _⟩)), Nat.le_succ _⟩
    exact fun p hp _ hg => granted_cancel hg (mem_over hp).2
  | @advance q =>
    have hpending : ∀ p ∈ (if (s.gate.advanceResize q.id).2 = .pending then s.pending
        else s.pending.filter (·.id != q.id)), p ∈ s.pending := by
      intro p hp
      split at hp
      · exact hp
      · exact (mem_over hp).1
    refine ⟨follows_of_line ht (Nat.le_refl _) (fun p hp _ => hpending p hp)
      (fun p _ hc hg => granted_advanceResize hg hc) ?_, Nat.le_succ _⟩
    rcases h.gate.advanceResize_line q.id with hsame | ⟨_, _, hjoin⟩ | ⟨hover, hleave⟩
    · exact .inl hsame
    · exact .inr (.inl ⟨q.id, hjoin⟩)
    · refine .inr (.inr ⟨q.id, fun p hp => ?_, hleave⟩)
      simp only [hover, ↓reduceIte] at hp
      exact (mem_over hp).2
  | @refuse q =>
    exact ⟨follows_of_line ht (Nat.le_refl _) (fun p hp _ => (mem_over hp).1) (fun _ _ _ hg => hg)
      (.inl rfl), Nat.le_succ _⟩
  | tryAcquire | wait =>
    exact ⟨follows_of_line ht (Nat.le_refl _) (fun p hp _ => hp) (fun _ _ _ hg => hg) (.inl rfl),
      Nat.le_succ _⟩
  | release =>
    refine ⟨follows_of_line ht (Nat.le_refl _) (fun p hp _ => hp) ?_ (.inl ?_), Nat.le_succ _⟩
    · exact fun p _ _ hg => granted_addPermits (g := { s.gate with inFlight := _ }) hg 1
    · exact addPermits_callers _ _

theorem Sound.move_follows {s : Calls} (h : s.Sound) (m : Move) :
    s.Follows (s.move m) ∧ (s.move m).nextId ≤ s.nextId + 1 :=
  (move_does s m).follows h (h.move m)

theorem Sound.moves_follow {s : Calls} (h : s.Sound) (moves : List Move) :
    s.Follows (moves.foldl Calls.move s) := by
  induction moves generalizing s with
  | nil => exact .refl s
  | cons m rest ih => exact (h.move_follows m).1.trans h (ih (h.move m))

theorem after_append (capacity : Nat) (moves more : List Move) :
    after capacity (moves ++ more) = more.foldl move (after capacity moves) := List.foldl_append

theorem after_follows (capacity : Nat) (moves more : List Move) :
    (after capacity moves).Follows (after capacity (moves ++ more)) := by
  rw [after_append]
  exact (sound_after capacity moves).moves_follow more

/-- A call in the line that is pending later has been pending in the meantime, and in the line. -/
theorem line_between {capacity : Nat} {moves middle later : List Move} {p : PendingCall}
    (hc : p.id ∈ (after capacity moves).gate.callers)
    (hp : p ∈ (after capacity (moves ++ middle ++ later)).pending) :
    p ∈ (after capacity (moves ++ middle)).pending ∧
      p.id ∈ (after capacity (moves ++ middle)).gate.callers := by
  have hfirst := after_follows capacity moves middle
  have hlast := after_follows capacity (moves ++ middle) later
  have hlt := Nat.lt_of_lt_of_le ((sound_after capacity moves).caller_lt hc) hfirst.fresh
  have hp' := hlast.pending p hp hlt
  exact ⟨hp', hfirst.stays p hp' hc⟩

/-- A call that is to get a permit has nobody ahead of it who was started later. -/
theorem acquires_behind (capacity : Nat) (moves : List Move) {p : PendingCall}
    (hp : p ∈ (after capacity moves).pending) (ha : p.acquires = true) {c : Nat} (hc : p.id < c) :
    (after capacity moves).gate.NotAhead c p.id := by
  induction moves using List.reverseRecOn with
  | nil => simp [after, new] at hp
  | append_singleton rest m ih =>
    have h := sound_after capacity rest
    have h' := sound_after capacity (rest ++ [m])
    have hfollows := after_follows capacity rest [m]
    by_cases hold : p.id < (after capacity rest).nextId
    · have hp' := hfollows.pending p hp hold
      exact hfollows.behind p hp (acquires_queued capacity rest hp' ha) c (ih hp')
    · refine notAhead_of_not_mem (fun hm => ?_) _
      have hnext := (h.move_follows m).2
      have hlt := h'.caller_lt hm
      rw [after_append] at hlt
      simp only [List.foldl_cons, List.foldl_nil] at hlt
      omega

/-- A call has at some time been granted its permits. -/
def GrantedIn (capacity : Nat) (moves : List Move) (call : Nat) : Prop :=
  ∃ earlier, earlier <+: moves ∧ (after capacity earlier).gate.isGranted call = true

theorem not_grantedIn {capacity : Nat} {moves : List Move} {call : Nat}
    (h : ∀ earlier later, earlier ++ later = moves →
      (after capacity earlier).gate.isGranted call = false) :
    ¬GrantedIn capacity moves call := by
  rintro ⟨earlier, ⟨later, he⟩, hg⟩
  simp [h earlier later he] at hg

/-- While a call waits for a permit, nobody who was started later has come to one. -/
theorem later_not_granted (capacity : Nat) (moves : List Move) {p : PendingCall}
    (hp : p ∈ (after capacity moves).pending) (ha : p.acquires = true)
    (hg : (after capacity moves).gate.isGranted p.id = false) {c : Nat} (hc : p.id < c) :
    ¬GrantedIn capacity moves c := by
  apply not_grantedIn
  rintro earlier later rfl
  by_contra hgc
  rw [Bool.not_eq_false] at hgc
  have hfollows := after_follows capacity earlier later
  have hlt := (sound_after capacity earlier).caller_lt (granted_caller hgc)
  have hp' := hfollows.pending p hp (Nat.lt_trans hc hlt)
  have hwaits := hfollows.not_granted hp hg
  have hnot := (acquires_behind capacity earlier hp' ha hc).not_granted
    (acquires_queued capacity earlier hp' ha) hwaits
  rw [hgc] at hnot
  cases hnot

/-- A call that is over with a move was dropped, or ran and finished. -/
theorem Sound.move_keeps {s : Calls} (h : s.Sound) {p : PendingCall} (hp : p ∈ s.pending)
    (m : Move) : p ∈ (s.move m).pending ∨ m = .drop p.id ∨
      m = .poll p.id ∧ (s.poll p).2 ≠ none := by
  have hover {q : PendingCall} (hq : q ∈ s.pending) :
      p ∈ s.pending.filter (·.id != q.id) ∨ q = p := by
    by_cases hid : q.id = p.id
    · exact .inr (h.same_call hq hp hid)
    · exact .inl (List.mem_filter.mpr ⟨hp, by simpa using fun he => hid he.symm⟩)
  have hd := move_does s m
  generalize s.move m = t at hd ⊢
  cases hd with
  | nothing | tryAcquire | release | wait => exact .inl hp
  | ask | lineUp | askInvalid => exact .inl (List.mem_append_left _ hp)
  | take hq ha hg =>
    rcases hover hq with hkept | rfl
    · exact .inl hkept
    · refine .inr (.inr ⟨rfl, fun hnone => ?_⟩)
      rw [(poll_acquires ha hnone).2] at hg
      cases hg
  | expire hq hk hg hd =>
    rcases hover hq with hkept | rfl
    · exact .inl hkept
    · exact .inr (.inr ⟨rfl, by simp [poll, hk, takeIfGranted, hg, hd]⟩)
  | drop hq =>
    rcases hover hq with hkept | rfl
    · exact .inl hkept
    · exact .inr (.inl rfl)
  | advance hq hk hv =>
    dsimp only
    split
    · exact .inl hp
    · rename_i hfinished
      rcases hover hq with hkept | rfl
      · exact .inl hkept
      · exact .inr (.inr ⟨rfl, fun hnone => hfinished (poll_resize hk hnone).2.1⟩)
  | refuse hq hk hv =>
    rcases hover hq with hkept | rfl
    · exact .inl hkept
    · exact .inr (.inr ⟨rfl, fun hnone => hv (poll_resize hk hnone).1⟩)

/-- A call that has not been granted its permit finishes only when its time is over. -/
theorem poll_waiting {s : Calls} {p : PendingCall} (ha : p.acquires = true)
    (hg : s.gate.isGranted p.id = false) (h : (s.poll p).2 ≠ none) :
    ∃ deadline timeout, p.kind = .acquireUntil deadline timeout ∧ deadline ≤ s.clock := by
  cases hk : p.kind with
  | acquire => simp [poll, hk, takeIfGranted, hg] at h
  | acquireUntil deadline timeout =>
    refine ⟨deadline, timeout, rfl, ?_⟩
    by_contra hd
    simp [poll, hk, takeIfGranted, hg, hd] at h
  | resize target => simp [PendingCall.acquires, hk] at ha

theorem poll_resized {s : Calls} {p : PendingCall} {target : Nat} (hk : p.kind = .resize target)
    (h : (s.poll p).2 = some (.resized p.name)) :
    ∃ old, (s.gate.advanceResize p.id).2 = .changed old := by
  by_cases hv : isValidCapacity target = true
  · rcases hadvance : s.gate.advanceResize p.id with ⟨gate, _ | _ | old⟩
    · simp [poll, hk, hv, hadvance] at h
    · simp [poll, hk, hv, hadvance] at h
    · exact ⟨old, rfl⟩
  · simp [poll, hk, hv] at h

/-- A change of the capacity that is queued does not finish before it has its permits. -/
theorem Sound.poll_queued {s : Calls} (h : s.Sound) {p : PendingCall} (hp : p ∈ s.pending)
    (ha : p.acquires = false) (hq : s.gate.isQueued p.id = true) : s.poll p = (s, none) := by
  obtain ⟨hc, hg⟩ := h.gate.queued_iff.mp hq
  obtain ⟨r, rest, hres, hcall, hbegun, hk⟩ := h.collector hp ha hc
  have hv : isValidCapacity r.target = true := by
    simpa [isValidCapacity] using h.gate.targets r (by simp [hres])
  simp [poll, hk, hv, advanceResize_begun hres hbegun (hcall ▸ hg)]

/-- While a call is queued, nobody comes to a permit who was not in the line before. -/
theorem not_granted_past {capacity : Nat} {moves more : List Move} {p : PendingCall} {c : Nat}
    (hc : p.id ∈ (after capacity moves).gate.callers)
    (hp : p ∈ (after capacity (moves ++ more)).pending)
    (hg : (after capacity (moves ++ more)).gate.isGranted p.id = false)
    (hout : c ∉ (after capacity moves).gate.callers) (hnever : ¬GrantedIn capacity moves c) :
    ¬GrantedIn capacity (moves ++ more) c := by
  apply not_grantedIn
  intro earlier later he
  rcases List.append_eq_append_iff.mp he with ⟨rest, hmoves, _⟩ | ⟨middle, rfl, hmore⟩
  · by_contra hgc
    exact hnever ⟨earlier, ⟨rest, hmoves.symm⟩, by simpa using hgc⟩
  · have hfirst := after_follows capacity moves middle
    have hrest := after_follows capacity (moves ++ middle) later
    rw [← he] at hp
    obtain ⟨hp', hc'⟩ := line_between hc hp
    rw [he] at hrest hp
    exact (hfirst.behind p hp' hc c (notAhead_of_not_mem hout _)).not_granted hc'
      (hrest.not_granted hp hg)

theorem not_granted_yet {capacity : Nat} {moves : List Move} {c : Nat}
    (h : (after capacity moves).nextId ≤ c) : ¬GrantedIn capacity moves c := by
  rintro ⟨earlier, ⟨later, rfl⟩, hg⟩
  have hlt := (sound_after capacity earlier).caller_lt (granted_caller hg)
  have := (after_follows capacity earlier later).fresh
  omega

/-- After some moves, no call that was started later than this one has come to a permit, nor can one
be had without waiting; and only a call that is dropped or whose time is over stops waiting. -/
structure KeepsTurn (capacity : Nat) (moves : List Move) (p : PendingCall) : Prop where
  later : ∀ c, p.id < c → ¬GrantedIn capacity moves c
  tries : ∀ name, (after capacity moves).tryAcquire? name = none
  stays : ∀ m, p ∈ ((after capacity moves).move m).pending ∨ m = .drop p.id ∨
    m = .poll p.id ∧ ∃ deadline timeout, p.kind = .acquireUntil deadline timeout ∧
      deadline ≤ (after capacity moves).clock

theorem tryAcquire_none {s : Calls} (h : s.gate.available = 0) (name : String) :
    s.tryAcquire? name = none := by
  simp [tryAcquire?, Gate.tryAcquire?, h]

/-- A call that is to get a permit and has none yet keeps its turn. -/
theorem acquires_keepsTurn (capacity : Nat) (moves : List Move) {p : PendingCall}
    (hp : p ∈ (after capacity moves).pending) (ha : p.acquires = true)
    (hg : (after capacity moves).gate.isGranted p.id = false) : KeepsTurn capacity moves p := by
  have h := sound_after capacity moves
  refine ⟨fun c hc => later_not_granted capacity moves hp ha hg hc, ?_, ?_⟩
  · exact tryAcquire_none (h.gate.none_available (acquires_queued capacity moves hp ha) hg)
  · intro m
    rcases h.move_keeps hp m with hkept | hdrop | ⟨hpoll, hover⟩
    · exact .inl hkept
    · exact .inr (.inl hdrop)
    · exact .inr (.inr ⟨hpoll, poll_waiting ha hg hover⟩)

/-- What has happened since a change of the capacity queued, up to a state in which it is pending
still. It is queued until it has all its permits, which in a settled gate it does not wait to take.
As long as it is queued nobody who came after it has come to a permit, nor can one be had without
waiting, and it stays unless it is dropped. -/
structure ShrinkKeepsTurn (capacity : Nat) (moves more : List Move) (p : PendingCall) : Prop where
  queued : (after capacity (moves ++ more)).gate.isQueued p.id = true ∨
    (after capacity (moves ++ more)).gate.isGranted p.id = true
  settled : (after capacity (moves ++ more)).IsSettled →
    (after capacity (moves ++ more)).gate.isQueued p.id = true
  later : (after capacity (moves ++ more)).gate.isQueued p.id = true →
    ∀ c, (after capacity moves).nextId ≤ c → ¬GrantedIn capacity (moves ++ more) c
  tries : (after capacity (moves ++ more)).gate.isQueued p.id = true →
    ∀ name, (after capacity (moves ++ more)).tryAcquire? name = none
  stays : (after capacity (moves ++ more)).gate.isQueued p.id = true →
    ∀ m, p ∈ ((after capacity (moves ++ more)).move m).pending ∨ m = .drop p.id

theorem shrink_keepsTurn (capacity : Nat) (moves more : List Move) {p : PendingCall}
    (hq : (after capacity moves).gate.isQueued p.id = true) (ha : p.acquires = false)
    (hp : p ∈ (after capacity (moves ++ more)).pending) :
    ShrinkKeepsTurn capacity moves more p := by
  have hs := sound_after capacity moves
  have ht := sound_after capacity (moves ++ more)
  obtain ⟨hc, _⟩ := hs.gate.queued_iff.mp hq
  have hc' := (after_follows capacity moves more).stays p hp hc
  have hboth : (after capacity (moves ++ more)).gate.isQueued p.id = true ∨
      (after capacity (moves ++ more)).gate.isGranted p.id = true := by
    by_cases hg : (after capacity (moves ++ more)).gate.isGranted p.id = true
    · exact .inr hg
    · exact .inl (ht.gate.queued_iff.mpr ⟨hc', by simpa using hg⟩)
  refine ⟨hboth, ?_, ?_, ?_, ?_⟩
  · intro hsettled
    exact (mem_callers_queued (ht.settled_granted hsettled)).mp hc'
  · intro hq' c hlate
    refine not_granted_past hc hp (ht.gate.queued_iff.mp hq').2 ?_ (not_granted_yet hlate)
    exact fun hm => absurd (hs.caller_lt hm) (Nat.not_lt_of_le hlate)
  · exact fun hq' => tryAcquire_none (ht.gate.queued_none_available hq')
  · intro hq' m
    rcases ht.move_keeps hp m with hkept | hdrop | ⟨_, hover⟩
    · exact .inl hkept
    · exact .inr hdrop
    · rw [ht.poll_queued hp ha hq'] at hover
      exact absurd rfl hover

/-- A change of the capacity that queues behind a call that waits for a permit is not granted its
permits while that call waits, and can be over by then only by growing. -/
theorem shrink_takes_turn (capacity : Nat) (moves more : List Move) {p q : PendingCall}
    (hq : q ∈ (after capacity moves).pending) (hres : q.acquires = false)
    (hout : (after capacity moves).gate.isCollecting q.id = false)
    (hp : p ∈ (after capacity moves).pending) (ha : p.acquires = true)
    (hp' : p ∈ (after capacity (moves ++ more)).pending)
    (hg : (after capacity (moves ++ more)).gate.isGranted p.id = false) :
    ¬GrantedIn capacity (moves ++ more) q.id ∧
      (q ∈ (after capacity (moves ++ more)).pending →
        ((after capacity (moves ++ more)).poll q).2 = some (.resized q.name) →
        ∃ target, q.kind = .resize target ∧
          (after capacity (moves ++ more)).gate.capacity ≤ target) := by
  have hs := sound_after capacity moves
  have ht := sound_after capacity (moves ++ more)
  have hcaller : q.id ∉ (after capacity moves).gate.callers := by
    intro hc
    rw [(hs.collecting_iff hq hres).mpr hc] at hout
    cases hout
  have hbefore : ¬GrantedIn capacity moves q.id := by
    rintro ⟨earlier, ⟨later, rfl⟩, hgranted⟩
    exact hcaller ((after_follows capacity earlier later).stays q hq (granted_caller hgranted))
  have hnever := not_granted_past (acquires_queued capacity moves hp ha) hp' hg hcaller hbefore
  refine ⟨hnever, fun hq' hresized => ?_⟩
  have hnot : (after capacity (moves ++ more)).gate.isGranted q.id = false := by
    by_contra hgranted
    exact hnever ⟨_, List.prefix_rfl, by simpa using hgranted⟩
  have hnone := ht.gate.none_available (acquires_queued capacity (moves ++ more) hp' ha) hg
  cases hk : q.kind with
  | acquire | acquireUntil => simp [PendingCall.acquires, hk] at hres
  | resize target =>
    obtain ⟨old, hold⟩ := poll_resized hk hresized
    obtain ⟨r, rest, hhead, hcall, hle⟩ := advanceResize_grows hnone hnot hold
    have hkind := ht.kind_of_resizer hq' (r := r) (by simp [hhead]) hcall
    rw [hk] at hkind
    exact ⟨target, rfl, (CallKind.resize.inj hkind) ▸ hle⟩

end MetricBatch.Gate.Calls

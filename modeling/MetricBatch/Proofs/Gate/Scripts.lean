import MetricBatch.Proofs.Gate.Conservation
import MetricBatch.Proofs.Leads

namespace MetricBatch.Gate.Calls

/-- Some moves lead from the one to the other. -/
abbrev LeadsTo (s s' : Calls) : Prop := Leads move (fun _ => True) s s'

theorem leadsTo_move (s : Calls) (m : Move) : s.LeadsTo (s.move m) := leads_move trivial

theorem LeadsTo.sound {s s' : Calls} (h : s.LeadsTo s') (hs : s.Sound) : s'.Sound := by
  obtain ⟨moves, _, rfl⟩ := h
  exact sound_moves hs moves

theorem pollOne_state (s : Calls) (events : List Event) (p : PendingCall) :
    (pollOne (s, events) p).1 = (pollOne (s, []) p).1 := by
  rcases hpoll : s.poll p with ⟨s', _ | e⟩ <;> simp [pollOne, hpoll]

theorem Sound.find_call {s : Calls} (h : s.Sound) {p : PendingCall} (hp : p ∈ s.pending) :
    s.pending.find? (·.id == p.id) = some p := by
  cases hf : s.pending.find? (·.id == p.id) with
  | none =>
    have hnone := List.find?_eq_none.mp hf p hp
    simp at hnone
  | some q =>
    have hid : q.id = p.id := by simpa using List.find?_some hf
    rw [h.same_call (List.mem_of_find?_eq_some hf) hp hid]

theorem Sound.pollById {s : Calls} (h : s.Sound) {p : PendingCall} (hp : p ∈ s.pending) :
    s.pollById p.id = (Calls.pollOne (s, []) p).1 := by
  rw [Calls.pollById, h.find_call hp]

theorem poll_pending (s : Calls) (p : PendingCall) : (s.poll p).1.pending = s.pending := by
  unfold poll takeIfGranted
  cases p.kind with
  | acquire | acquireUntil => by_cases hg : s.gate.isGranted p.id <;> grind
  | resize target => grind

/-- A call that runs on takes no other call away. -/
theorem pollOne_pending {s : Calls} {events : List Event} {p q : PendingCall}
    (hq : q ∈ s.pending) (hne : q.id ≠ p.id) : q ∈ (pollOne (s, events) p).1.pending := by
  have hsame := poll_pending s p
  rcases hpoll : s.poll p with ⟨s', _ | e⟩
  · simp only [hpoll] at hsame
    simpa [pollOne, hpoll, hsame] using hq
  · simp only [hpoll] at hsame
    simpa [pollOne, hpoll, hsame] using ⟨hq, hne⟩

theorem foldl_pollOne_leads {ps : List PendingCall} {s : Calls} {events : List Event}
    (h : s.Sound) (hp : ∀ p ∈ ps, p ∈ s.pending) (hn : (ps.map (·.id)).Nodup) :
    s.LeadsTo (ps.foldl pollOne (s, events)).1 := by
  induction ps generalizing s events with
  | nil => exact .refl s
  | cons p rest ih =>
    rw [List.map_cons, List.nodup_cons] at hn
    have hfirst : s.LeadsTo (Calls.pollOne (s, events) p).1 := by
      rw [pollOne_state, ← h.pollById (hp p (by simp))]
      exact leadsTo_move s (.poll p.id)
    have hrest : ∀ q ∈ rest, q ∈ (Calls.pollOne (s, events) p).1.pending := by
      intro q hq
      have hne : q.id ≠ p.id := fun he => hn.1 (List.mem_map.mpr ⟨q, hq, he⟩)
      exact pollOne_pending (hp q (by simp [hq])) hne
    exact hfirst.trans (ih (hfirst.sound h) hrest hn.2)

theorem Sound.pass_leads {s : Calls} (h : s.Sound) : s.LeadsTo s.pass.1 :=
  foldl_pollOne_leads h (fun _ hp => hp) h.ids

theorem Sound.settleIn_leads {s : Calls} (h : s.Sound) (turns : Nat) :
    s.LeadsTo (settleIn turns s).1 := by
  induction turns generalizing s with
  | zero => exact .refl s
  | succ turns ih =>
    have hpass := h.pass_leads
    simp only [settleIn]
    split
    · exact hpass
    · exact hpass.trans (ih (hpass.sound h))

theorem act_leads (s : Calls) (a : Step) : s.LeadsTo (s.act a).1 := by
  cases a with
  | acquire name => exact leadsTo_move s (.acquire name)
  | acquireWithin name millis => exact leadsTo_move s (.acquireWithin name (.ofMillis millis))
  | resize name target => exact leadsTo_move s (.resize name target)
  | tryAcquire name =>
    have hmove := leadsTo_move s (.tryAcquire name)
    simp only [move, act] at hmove ⊢
    cases ht : s.tryAcquire? name <;> simpa [ht] using hmove
  | release name =>
    have hmove := leadsTo_move s (.release name)
    simp only [move, act] at hmove ⊢
    cases hr : s.release? name <;> simpa [hr] using hmove
  | cancel name =>
    simp only [act]
    split
    · rename_i p hf
      have hany : s.pending.any (·.id == p.id) = true :=
        List.any_eq_true.mpr ⟨p, List.mem_of_find?_eq_some hf, by simp⟩
      have hmove := leadsTo_move s (.drop p.id)
      rwa [move, hany] at hmove
    · exact .refl s
  | advance millis => exact leadsTo_move s (.advance millis)
  | observe => exact .refl s

theorem Sound.step_leads {s : Calls} (h : s.Sound) (a : Step) : s.LeadsTo (s.step a).1 :=
  (act_leads s a).trans (((act_leads s a).sound h).settleIn_leads ((s.act a).1.pending.length + 1))

theorem Sound.steps_lead {s : Calls} (h : s.Sound) (script : List Step) :
    s.LeadsTo (script.foldl (fun s a => (s.step a).1) s) := by
  induction script generalizing s with
  | nil => exact .refl s
  | cons a rest ih =>
    have hstep := h.step_leads a
    exact hstep.trans (ih (hstep.sound h))

/-- Whatever a script comes to, moves come to as well. -/
theorem script_leads (capacity : Nat) (script : List Step) :
    (new capacity).LeadsTo (script.foldl (fun s a => (s.step a).1) (new capacity)) :=
  (sound_new capacity).steps_lead script

end MetricBatch.Gate.Calls

import MetricBatch.Gate.Deadlines
import MetricBatch.Proofs.Gate.Withdrawal

namespace MetricBatch.Gate.Calls

theorem record_append (s : Calls) (moves more : List Move) :
    s.record (moves ++ more) =
      (((s.record moves).1.record more).1, (s.record moves).2 ++ ((s.record moves).1.record more).2)
    := by
  induction moves generalizing s with
  | nil => rfl
  | cons m rest ih => simp [record, ih]

theorem record_state (s : Calls) (moves : List Move) : (s.record moves).1 = moves.foldl move s := by
  induction moves generalizing s with
  | nil => rfl
  | cons m rest ih => exact ih (s.move m)

theorem Sound.record {s : Calls} (h : s.Sound) (moves : List Move) : (s.record moves).1.Sound := by
  rw [record_state]
  exact sound_moves h moves

/-- To poll a call takes none of the others away. -/
theorem Sound.poll_others {s : Calls} (h : s.Sound) {p : PendingCall} {rest : List PendingCall}
    (hp : ∀ q ∈ p :: rest, q ∈ s.pending) (hn : p.id ∉ rest.map (·.id)) :
    ∀ q ∈ rest, q ∈ (s.move (.poll p.id)).pending := by
  intro q hq
  have hne : q.id ≠ p.id := fun he => hn (List.mem_map.mpr ⟨q, hq, he⟩)
  have hmove : s.move (.poll p.id) = (Calls.pollOne (s, []) p).1 :=
    h.pollById (hp p List.mem_cons_self)
  rw [hmove]
  exact pollOne_pending (hp q (List.mem_cons_of_mem _ hq)) hne

/-- To run a call on is to poll it. -/
theorem Sound.pollOver_record {s : Calls} (h : s.Sound) {p : PendingCall} (hp : p ∈ s.pending)
    (log : List Over) :
    pollOver (s, log) p = ((s.record [.poll p.id]).1, log ++ (s.record [.poll p.id]).2) := by
  have hmove : s.move (.poll p.id) = (Calls.pollOne (s, []) p).1 := h.pollById hp
  simp only [Calls.record, ends, h.find_call hp, hmove]
  rcases hpoll : s.poll p with ⟨t, _ | e⟩ <;> simp [pollOver, Calls.pollOne, hpoll]

theorem Sound.pollOver_move {s : Calls} (h : s.Sound) {p : PendingCall} (hp : p ∈ s.pending)
    (log : List Over) : (Calls.pollOver (s, log) p).1 = s.move (.poll p.id) :=
  congrArg Prod.fst (h.pollOver_record hp log)

theorem Sound.foldl_pollOver {s : Calls} (h : s.Sound) {ps : List PendingCall}
    (hp : ∀ p ∈ ps, p ∈ s.pending) (hn : (ps.map (·.id)).Nodup) (log : List Over) :
    ps.foldl pollOver (s, log) =
      ((s.record (ps.map (.poll ·.id))).1, log ++ (s.record (ps.map (.poll ·.id))).2) := by
  induction ps generalizing s log with
  | nil => simp [Calls.record]
  | cons p rest ih =>
    rw [List.map_cons, List.nodup_cons] at hn
    have hrest : ∀ q ∈ rest, q ∈ (s.record [.poll p.id]).1.pending := h.poll_others hp hn.1
    have hsplit : (p :: rest).map (fun p => Move.poll p.id) =
        [.poll p.id] ++ rest.map (fun p => Move.poll p.id) := rfl
    rw [List.foldl_cons, h.pollOver_record (hp p List.mem_cons_self), ih (h.record _) hrest hn.2,
      hsplit, record_append, List.append_assoc]

theorem Sound.passOver_record {s : Calls} (h : s.Sound) :
    s.passOver = s.record (s.pending.map (.poll ·.id)) := by
  rw [passOver, h.foldl_pollOver (fun _ hp => hp) h.ids]
  rfl

theorem Sound.passOver {s : Calls} (h : s.Sound) : s.passOver.1.Sound := by
  rw [h.passOver_record]
  exact h.record _

theorem Sound.settleOverIn_record {s : Calls} (h : s.Sound) (turns : Nat) :
    ∃ polls : List Nat, settleOverIn turns s = s.record (polls.map .poll) := by
  induction turns generalizing s with
  | zero => exact ⟨[], rfl⟩
  | succ turns ih =>
    have hpolls : s.pending.map (fun p => Move.poll p.id) =
        (s.pending.map (·.id)).map Move.poll := by simp
    have hpass := h.passOver_record
    rw [hpolls] at hpass
    simp only [settleOverIn]
    split
    · rename_i hnone
      refine ⟨s.pending.map (·.id), ?_⟩
      rw [← hpass, ← List.isEmpty_iff.mp hnone]
    · obtain ⟨polls, hmore⟩ := ih h.passOver
      refine ⟨s.pending.map (·.id) ++ polls, ?_⟩
      rw [hmore, List.map_append, record_append, ← hpass]

/-- Polls start no call and let no time pass. Calls that were pending end with what they return, and
are pending no more. -/
structure Polled (s t : Calls) (log : List Over) : Prop where
  clock : t.clock = s.clock
  nextId : t.nextId = s.nextId
  pending : t.pending = s.pending.filter (·.id ∉ log.map (·.call))
  held : t.held = s.held ++ log.filterMap Over.taken?
  returned : ∀ x ∈ log, ∃ p ∈ s.pending, ∃ (u : Calls) (e : Event),
    u.clock = s.clock ∧ (u.poll p).2 = some e ∧ x = ⟨p.id, .returned e⟩

theorem Polled.refl (s : Calls) : s.Polled s [] :=
  ⟨rfl, rfl, by simp, by simp, nofun⟩

theorem Polled.trans {s t u : Calls} {log more : List Over} (h : s.Polled t log)
    (h' : t.Polled u more) : s.Polled u (log ++ more) := by
  refine ⟨h'.clock.trans h.clock, h'.nextId.trans h.nextId, ?_, ?_, ?_⟩
  · rw [h'.pending, h.pending, List.filter_filter]
    refine List.filter_congr fun p _ => ?_
    rw [← Bool.decide_and, decide_eq_decide, List.map_append, List.mem_append, not_or, and_comm]
  · rw [h'.held, h.held, List.filterMap_append, List.append_assoc]
  · intro x hx
    rcases List.mem_append.mp hx with hm | hm
    · exact h.returned x hm
    · obtain ⟨p, hp, v, e, hclock, hpoll, he⟩ := h'.returned x hm
      rw [h.pending] at hp
      exact ⟨p, List.mem_of_mem_filter hp, v, e, hclock.trans h.clock, hpoll, he⟩

theorem poll_frame (s : Calls) (p : PendingCall) :
    (s.poll p).1.clock = s.clock ∧ (s.poll p).1.nextId = s.nextId ∧
      (s.poll p).1.held =
        s.held ++ ((s.poll p).2.bind fun e => Over.taken? ⟨p.id, .returned e⟩).toList := by
  cases hk : p.kind with
  | acquire =>
    by_cases hg : s.gate.isGranted p.id = true <;> simp [poll, hk, takeIfGranted, hg, Over.taken?]
  | acquireUntil deadline timeout =>
    by_cases hg : s.gate.isGranted p.id = true
    · simp [poll, hk, takeIfGranted, hg, Over.taken?]
    · by_cases hd : deadline ≤ s.clock <;> simp [poll, hk, takeIfGranted, hg, hd, Over.taken?]
  | resize target =>
    by_cases hv : isValidCapacity target = true
    · rcases ha : s.gate.advanceResize p.id with ⟨gate, _ | _ | old⟩ <;>
        simp [poll, hk, hv, ha, Over.taken?]
    · simp [poll, hk, hv, Over.taken?]

theorem poll_polled (s : Calls) (id : Nat) : s.Polled (s.move (.poll id)) (s.ends (.poll id)) := by
  simp only [move, pollById, ends]
  cases hf : s.pending.find? (·.id == id) with
  | none => exact .refl s
  | some p =>
    obtain ⟨hclock, hnext, hheld⟩ := poll_frame s p
    have hpending := poll_pending s p
    rcases hpoll : s.poll p with ⟨t, _ | e⟩
    · rw [hpoll] at hclock hnext hheld hpending
      simp only [pollOne, hpoll]
      exact ⟨hclock, hnext, by simpa using hpending, by simpa using hheld,
        fun x hx => absurd hx List.not_mem_nil⟩
    · rw [hpoll] at hclock hnext hheld hpending
      simp only [pollOne, hpoll]
      refine ⟨hclock, hnext, ?_, ?_, ?_⟩
      · simp only at hpending
        rw [hpending]
        exact List.filter_congr fun q _ => by simp [bne, beq_eq_decide]
      · rw [show t.held = _ from hheld, Option.bind_some]
        cases hx : Over.taken? ⟨p.id, .returned e⟩ <;> simp [hx]
      · intro x hx
        obtain rfl : x = ⟨p.id, .returned e⟩ := by simpa using hx
        exact ⟨p, List.mem_of_find?_eq_some hf, s, e, rfl, by rw [hpoll], rfl⟩

theorem polls_polled (s : Calls) (polls : List Nat) :
    s.Polled (s.record (polls.map .poll)).1 (s.record (polls.map .poll)).2 := by
  induction polls generalizing s with
  | nil => exact .refl s
  | cons id rest ih => exact (poll_polled s id).trans (ih _)

theorem Sound.settleOver_polled {s : Calls} (h : s.Sound) :
    s.Polled s.settleOver.1 s.settleOver.2 := by
  obtain ⟨polls, hpolls⟩ := h.settleOverIn_record (s.pending.length + 1)
  rw [settleOver, hpolls]
  exact polls_polled s polls

theorem told_pollOver (t : Calls × List Over) (p : PendingCall) :
    pollOne (told t) p = told (pollOver t p) := by
  obtain ⟨s, log⟩ := t
  rcases hpoll : s.poll p with ⟨u, _ | e⟩ <;> simp [told, pollOne, pollOver, hpoll, Over.event?]

theorem told_passOver (s : Calls) : told s.passOver = s.pass := by
  rw [passOver, pass, ← List.foldl_hom told told_pollOver]
  rfl

theorem Sound.told_settleOverIn {s : Calls} (h : s.Sound) (turns : Nat) :
    told (settleOverIn turns s) = settleIn turns s := by
  induction turns generalizing s with
  | zero => rfl
  | succ turns ih =>
    have hpolled := polls_polled s (s.pending.map (·.id))
    rw [List.map_map, Function.comp_def, ← h.passOver_record] at hpolled
    -- Whoever ends in a turn returns something, so nothing is told only where nobody ends.
    have hempty : (s.passOver.2.filterMap Over.event?).isEmpty = s.passOver.2.isEmpty := by
      cases hlog : s.passOver.2 with
      | nil => rfl
      | cons x rest =>
        obtain ⟨p, _, u, e, _, _, rfl⟩ := hpolled.returned x (by simp [hlog])
        simp [Over.event?]
    simp only [settleIn, settleOverIn, ← told_passOver s, told]
    rw [hempty]
    split
    · rfl
    · rw [← ih h.passOver]
      simp [told]

theorem Sound.told_settleOver {s : Calls} (h : s.Sound) : told s.settleOver = s.settle :=
  h.told_settleOverIn _

theorem Sound.settleOver_settled {s : Calls} (h : s.Sound) : s.settleOver.1.IsSettled := by
  have hstate : s.settleOver.1 = s.settle.1 := congrArg Prod.fst h.told_settleOver
  rw [hstate]
  exact h.settleIn_settled (Nat.lt_succ_self _)

/-- The move that a step makes has ended nobody who returned something. -/
theorem asMove_act (s : Calls) (a : Step) :
    s.move (s.asMove a) = (s.act a).1 ∧ (s.ends (s.asMove a)).filterMap Over.event? = [] := by
  cases a with
  | acquire | acquireWithin | resize | advance | observe => exact ⟨rfl, rfl⟩
  | tryAcquire name =>
    refine ⟨?_, rfl⟩
    simp only [move, act, asMove]
    cases s.tryAcquire? name <;> rfl
  | release name =>
    refine ⟨?_, rfl⟩
    simp only [move, act, asMove]
    cases s.release? name <;> rfl
  | cancel name =>
    simp only [asMove, act]
    cases hf : s.pending.find? (·.name == name) with
    | none => exact ⟨rfl, rfl⟩
    | some p =>
      have hany : s.pending.any (·.id == p.id) = true :=
        List.any_eq_true.mpr ⟨p, List.mem_of_find?_eq_some hf, by simp⟩
      simp [move, ends, hany, Over.event?]

theorem Sound.step_enact {s : Calls} (h : s.Sound) (a : Step) :
    ((s.step a).1, (s.step a).2.2) = told (s.enact (s.asMove a)) := by
  obtain ⟨hact, hends⟩ := asMove_act s a
  have hsettle := (h.move (s.asMove a)).told_settleOver
  rw [hact] at hsettle
  simp only [step, enact, hact, told, List.filterMap_append, hends, List.nil_append]
  rw [← hsettle]
  rfl

/-- Each call that has been started is over, and then only once, or pending. -/
def Accounted (s : Calls) (ended : List Nat) : Prop :=
  (ended ++ s.pending.map (·.id)).Perm (List.range s.nextId)

theorem Accounted.over {s t : Calls} {ended : List Nat} (h : s.Accounted ended) (hs : s.Sound)
    {id : Nat} (hid : id ∈ s.pending.map (·.id)) (hnext : t.nextId = s.nextId)
    (hpending : t.pending = s.pending.filter (·.id != id)) : t.Accounted (ended ++ [id]) := by
  have hleft : t.pending.map (·.id) = (s.pending.map (·.id)).erase id := by
    rw [hs.ids.erase_eq_filter, hpending, List.filter_map]
    rfl
  rw [Accounted, hnext, hleft, List.append_assoc, List.singleton_append]
  exact ((List.perm_cons_erase hid).symm.append_left ended).trans h

theorem Accounted.start {s : Calls} {ended : List Nat} (h : s.Accounted ended) (name : String)
    (kind : CallKind) : (s.start name kind).Accounted ended := by
  simp only [Accounted, Calls.start, List.map_append, List.map_cons, List.map_nil, List.range_succ]
  rw [← List.append_assoc]
  exact h.append_right _

theorem Accounted.poll {s : Calls} {ended : List Nat} (h : s.Accounted ended) (hs : s.Sound)
    (id : Nat) : (s.move (.poll id)).Accounted (ended ++ (s.ends (.poll id)).map (·.call)) := by
  simp only [Calls.move, pollById, ends]
  cases hf : s.pending.find? (·.id == id) with
  | none => simpa using h
  | some p =>
    have hp := List.mem_of_find?_eq_some hf
    have hpending := poll_pending s p
    have hnext := (poll_frame s p).2.1
    rcases hpoll : s.poll p with ⟨t, _ | e⟩
    · rw [hpoll] at hpending hnext
      simp only at hpending hnext
      simp only [Calls.pollOne, hpoll, Option.map_none, Option.toList_none, List.map_nil,
        List.append_nil, Accounted]
      rw [hpending, hnext]
      exact h
    · rw [hpoll] at hpending hnext
      simp only at hpending hnext
      simp only [Calls.pollOne, hpoll, Option.map_some, Option.toList_some, List.map_cons,
        List.map_nil]
      exact h.over hs (List.mem_map.mpr ⟨p, hp, rfl⟩) hnext (by rw [hpending])

theorem Accounted.move {s : Calls} {ended : List Nat} (h : s.Accounted ended) (hs : s.Sound)
    (m : Move) : (s.move m).Accounted (ended ++ (s.ends m).map (·.call)) := by
  cases m with
  | acquire | acquireWithin | resize =>
    simp only [ends, List.map_nil, List.append_nil]
    exact h.start _ _
  | poll id => exact h.poll hs id
  | drop id =>
    simp only [Calls.move, ends]
    split
    · rename_i hany
      refine h.over hs ?_ rfl rfl
      simpa [List.any_eq_true] using hany
    · simpa using h
  | tryAcquire name =>
    simp only [ends, List.map_nil, List.append_nil, Calls.move]
    cases ht : s.tryAcquire? name with
    | none => exact h
    | some t =>
      obtain ⟨gate, _, rfl⟩ := Option.map_eq_some_iff.mp ht
      exact h
  | release name =>
    simp only [ends, List.map_nil, List.append_nil, Calls.move, release?]
    split <;> exact h
  | advance =>
    rw [ends, List.map_nil, List.append_nil]
    exact h

theorem Accounted.record {s : Calls} {ended : List Nat} (h : s.Accounted ended) (hs : s.Sound)
    (moves : List Move) :
    (s.record moves).1.Accounted (ended ++ (s.record moves).2.map (·.call)) := by
  induction moves generalizing s ended with
  | nil => simpa [Calls.record] using h
  | cons m rest ih =>
    have hrest := ih (h.move hs m) (hs.move m)
    simpa [Calls.record, List.append_assoc] using hrest

theorem Sound.enact_record {s : Calls} (h : s.Sound) (m : Move) :
    ∃ polls : List Nat, s.enact m = s.record (m :: polls.map .poll) := by
  obtain ⟨polls, hpolls⟩ := (h.move m).settleOverIn_record ((s.move m).pending.length + 1)
  refine ⟨polls, ?_⟩
  simp only [enact, settleOver, hpolls, Calls.record]

theorem Sound.enact {s : Calls} (h : s.Sound) (m : Move) : (s.enact m).1.Sound := by
  obtain ⟨polls, hrecord⟩ := h.enact_record m
  rw [hrecord]
  exact h.record _

theorem enactAll_single (s : Calls) (m : Move) : s.enactAll [m] = s.enact m := by simp [enactAll]

theorem Sound.enactAll_record {s : Calls} (h : s.Sound) (moves : List Move) :
    ∃ more, s.enactAll moves = s.record more := by
  induction moves generalizing s with
  | nil => exact ⟨[], rfl⟩
  | cons m rest ih =>
    obtain ⟨polls, hfirst⟩ := h.enact_record m
    obtain ⟨more, hrest⟩ := ih (h.enact m)
    refine ⟨m :: polls.map .poll ++ more, ?_⟩
    rw [record_append, ← hfirst, ← hrest, enactAll]

theorem Sound.enact_settled {s : Calls} (h : s.Sound) (m : Move) : (s.enact m).1.IsSettled :=
  (h.move m).settleOver_settled

/-- The steps of a script are moves after which the calls run. -/
theorem Sound.stepTrace_moves {s : Calls} (h : s.Sound) (script : List Step) :
    s.stepTrace script = (s.trace ((s.asMoves script).map ([·]))).map told := by
  induction script generalizing s with
  | nil => rfl
  | cons a rest ih =>
    have hstep := h.step_enact a
    have hstate : (s.step a).1 = (s.enact (s.asMove a)).1 := congrArg Prod.fst hstep
    have hsound : (s.step a).1.Sound := (h.step_leads a).sound h
    rw [stepTrace, asMoves, List.map_cons, trace, List.map_cons, enactAll_single, hstep, ih hsound,
      hstate]

theorem passOver_silent {s : Calls} {ps : List PendingCall} (h : ∀ p ∈ ps, s.poll p = (s, none)) :
    ps.foldl pollOver (s, []) = (s, []) := by
  induction ps with
  | nil => rfl
  | cons p rest ih =>
    rw [List.forall_mem_cons] at h
    rw [List.foldl_cons, pollOver, h.1]
    exact ih h.2

theorem IsSettled.settleOverIn {s : Calls} (h : s.IsSettled) (turns : Nat) :
    settleOverIn turns s = (s, []) := by
  cases turns with
  | zero => rfl
  | succ turns =>
    have hpass : s.passOver = (s, []) := passOver_silent h
    simp [Calls.settleOverIn, hpass]

theorem IsSettled.settleOver {s : Calls} (h : s.IsSettled) : s.settleOver = (s, []) :=
  h.settleOverIn _

/-- In a settled gate to poll a call does nothing. -/
theorem IsSettled.poll {s : Calls} (h : s.IsSettled) (id : Nat) :
    s.move (.poll id) = s ∧ s.ends (.poll id) = [] := by
  simp only [move, pollById, ends]
  cases hf : s.pending.find? (·.id == id) with
  | none => exact ⟨rfl, rfl⟩
  | some p => simp [pollOne, h p (List.mem_of_find?_eq_some hf)]

end MetricBatch.Gate.Calls

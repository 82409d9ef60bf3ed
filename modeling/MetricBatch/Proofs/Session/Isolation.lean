import MetricBatch.Proofs.Session.Runs

namespace MetricBatch.Session

variable {setup : Setup} {s : Session} {i : Nat} {w : Worker}

/-- Whoever takes results gets what there is to read, once. -/
theorem take_results (hw : s.workers[i]? = some w) : (s.take i).2 = w.readable? := by
  unfold Session.take
  rw [hw]
  dsimp only
  cases w.readable? <;> rfl

/-- A call under way is the one for its worker's own query, and it is over just when the reply is
there or the time is up, counted from its beginning. -/
theorem calling_in_time {clock : Nat} {torn : Prop} {since : Nat} {reply : Reply}
    (h : w.Sound setup clock torn) (hp : w.phase = .calling since reply) :
    reply = setup.reply w.query ∧ since ≤ clock ∧ clock ≤ since + reply.duration setup.limit ∧
      ((reply.poll setup.limit (clock - since)).isSome = true ↔
        clock = since + reply.duration setup.limit) := by
  rw [Worker.Sound, hp] at h
  obtain ⟨_, hr, hsince, hle⟩ := h
  refine ⟨hr, hsince, hle, ?_⟩
  rw [Reply.poll_isSome (by omega)]
  omega

/-- Time stands still while a worker can take a step. -/
theorem pass_of_ready (hw : s.workers[i]? = some w) (hr : s.isReady setup i w = true)
    (millis : Nat) : s.pass setup millis = s := by
  have hbusy : s.isQuiet setup = false := by
    apply List.all_eq_false.mpr
    exact ⟨(w, i), List.mem_zipIdx_iff_getElem?.mpr hw, by simp [hr]⟩
  simp [pass, hbusy]

/-- Each worker that is not taken away ends with the outcome of its own reply, whatever the others
do and in whichever order they run, and the log holds just what the workers have reported. A worker
that has been granted its permit makes its call before any time passes. -/
theorem outcome_isolated (setup : Setup) (maxConcurrency : Nat) (moves : List Move) :
    let s := after setup maxConcurrency moves
    s.workers.map (·.query) = submitted moves ∧
    s.errors.entries.Perm (s.workers.flatMap (·.reported)) ∧
    ∀ i w, s.workers[i]? = some w → .dropTask i ∉ moves →
      (w.phase = .waiting → s.gate.isGranted (.worker i) = true →
        ∀ millis, s.pass setup millis = s) ∧
      (∀ since reply, w.phase = .calling since reply →
        reply = setup.reply w.query ∧ since ≤ s.clock ∧
          s.clock ≤ since + reply.duration setup.limit ∧
          ((reply.poll setup.limit (s.clock - since)).isSome = true ↔
            s.clock = since + reply.duration setup.limit)) ∧
      (w.phase = .ended →
        let o := (setup.reply w.query).outcome setup.timeout w.query.text
        w.results? = some o.results ∧
        (s.take i).2 = (if w.wanted then some o.results else none) ∧
        w.reported = o.error?.toList ∧
        ∀ results error?,
          Verdict setup.timeout w.query.text (setup.reply w.query) results error? ↔
            results = o.results ∧ error? = o.error?) := by
  intro s
  have h := coherent_after setup maxConcurrency moves
  refine ⟨queries_after setup maxConcurrency moves, h.entries, ?_⟩
  intro i w hw hkept
  have hsound := h.sound i w hw
  refine ⟨?_, fun since reply hp => calling_in_time hsound hp, ?_⟩
  · intro hp hg
    exact pass_of_ready hw (by simp [isReady, hp, hg])
  intro he
  obtain ⟨o, hend, hresults, _, hreported⟩ := hsound.ended he
  have ho := hend.resolve_right fun hlost => hkept hlost.1
  subst ho
  refine ⟨hresults, ?_, hreported, fun _ _ => verdict_iff⟩
  rw [take_results hw, Worker.readable?, hresults]

/-- With one permit the second call begins when the first is over, and still has all its time. -/
theorem outcome_isolated_queued :
    let s := after lateBackend 1
      [.submit ⟨"a", none⟩, .submit ⟨"b", none⟩, .poll 0, .poll 1, .pass 5, .poll 0, .poll 1, .pass 5,
        .poll 1]
    s.clock = 10 ∧ ∃ w, s.workers[1]? = some w ∧ w.phase = .ended ∧
      w.reported = [.transport "b" none (ClientError.body "cut off").message] := by
  obtain ⟨_, _, h⟩ := outcome_isolated lateBackend 1
    [.submit ⟨"a", none⟩, .submit ⟨"b", none⟩, .poll 0, .poll 1, .pass 5, .poll 0, .poll 1, .pass 5,
      .poll 1]
  refine ⟨by rfl, _, rfl, by rfl, ?_⟩
  exact (((h 1 _ rfl (by decide)).2.2 (by rfl)).2.2.1).trans (by rfl)

end MetricBatch.Session

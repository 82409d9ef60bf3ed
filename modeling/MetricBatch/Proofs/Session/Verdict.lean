import MetricBatch.Session.Outcome
import MetricBatch.Proofs.Results.Grammar

namespace MetricBatch

namespace Reply

theorem duration_le (reply : Reply) (limit : Nat) : reply.duration limit ≤ limit := by
  cases reply with
  | answer delay result | crash delay => exact Nat.min_le_right ..
  | silence => exact Nat.le_refl limit

/-- A call is not over before its time. -/
theorem poll_early {reply : Reply} {limit elapsed : Nat} (h : elapsed < reply.duration limit) :
    reply.poll limit elapsed = none := by
  cases reply with
  | answer delay result | crash delay =>
    simp only [duration, Nat.lt_min] at h
    have hdelay : ¬delay ≤ elapsed := by omega
    have hlimit : ¬limit ≤ elapsed := by omega
    simp [poll, ready?, hdelay, hlimit]
  | silence =>
    have hlimit : ¬limit ≤ elapsed := Nat.not_le.mpr h
    simp [poll, ready?, hlimit]

/-- Whoever looks at a call just when it is over sees how it ends. An answer that comes with the end
of its time counts. -/
theorem poll_duration (reply : Reply) (limit : Nat) :
    reply.poll limit (reply.duration limit) = some (reply.callEnd limit) := by
  cases reply with
  | answer delay result | crash delay =>
    by_cases h : delay ≤ limit
    · simp [poll, ready?, duration, callEnd, h]
    · have hmin : min delay limit = limit := by omega
      simp [poll, ready?, duration, callEnd, h, hmin]
  | silence => simp [poll, ready?, duration, callEnd]

theorem poll_isSome {reply : Reply} {limit elapsed : Nat} (h : elapsed ≤ reply.duration limit) :
    (reply.poll limit elapsed).isSome = true ↔ elapsed = reply.duration limit := by
  rcases Nat.lt_or_eq_of_le h with hlt | rfl
  · simp [poll_early hlt, Nat.ne_of_lt hlt]
  · simp [poll_duration]

theorem poll_result {reply : Reply} {limit elapsed : Nat} {result : CallEnd}
    (hle : elapsed ≤ reply.duration limit) (h : reply.poll limit elapsed = some result) :
    result = reply.callEnd limit := by
  have heq : elapsed = reply.duration limit := (poll_isSome hle).mp (by simp [h])
  rw [heq, poll_duration, Option.some.injEq] at h
  exact h.symm

end Reply

/-- After how long a reply comes, if one comes at all. -/
def Reply.delay? : Reply → Option Nat
  | .answer delay _ | .crash delay => some delay
  | .silence => none

theorem callEnd_late {reply : Reply} {limit : Nat} (h : ∀ delay ∈ reply.delay?, limit < delay) :
    reply.callEnd limit = .timedOut := by
  cases reply with
  | silence => rfl
  | answer delay _ | crash delay =>
    have hd : ¬delay ≤ limit := Nat.not_le.mpr (h delay rfl)
    simp [Reply.callEnd, hd]

open Backend Outcome in
/-- What a query is to get from its reply: results, and the error that is to be reported with them.
Whatever comes after the limit is too late, and what comes with it is not. -/
inductive Verdict (timeout : Span) (query : String) :
    Reply → QueryResults → Option QueryError → Prop where
  | parsed {delay : Nat} {response : Backend.Response} {v : Json.Value} {results : QueryResults}
    (hd : delay ≤ timeout.millisRoundedUp) (hs : isSuccess response.status = true)
    (hj : Json.read response.body = .ok v) (hr : QueryResults.ofResponse query v = .ok results) :
    Verdict timeout query (.answer delay (.ok response)) results none
  | malformed {delay : Nat} {response : Backend.Response} {v : Json.Value} {e : ResponseError}
    (hd : delay ≤ timeout.millisRoundedUp) (hs : isSuccess response.status = true)
    (hj : Json.read response.body = .ok v) (hr : QueryResults.ofResponse query v = .error e) :
    Verdict timeout query (.answer delay (.ok response)) (.placeholder query)
      (some (.response query e))
  | undecodable {delay : Nat} {response : Backend.Response} {e : Json.ReadError}
    (hd : delay ≤ timeout.millisRoundedUp) (hs : isSuccess response.status = true)
    (hj : Json.read response.body = .error e) :
    Verdict timeout query (.answer delay (.ok response)) (.placeholder query)
      (some (.decode query e.message))
  | refused {delay : Nat} {response : Backend.Response}
    (hd : delay ≤ timeout.millisRoundedUp) (hs : isSuccess response.status = false) :
    Verdict timeout query (.answer delay (.ok response)) (.placeholder query)
      (some (.transport query (some response.status)
        s!"backend returned {statusText response.status}: {errorDetail response.body}"))
  | unsent {delay : Nat} {e : ClientError} (hd : delay ≤ timeout.millisRoundedUp) :
    Verdict timeout query (.answer delay (.error e)) (.placeholder query)
      (some (.transport query none e.message))
  | died {delay : Nat} (hd : delay ≤ timeout.millisRoundedUp) :
    Verdict timeout query (.crash delay) (.placeholder query)
      (some (.transport query none "query worker exited without publishing results"))
  | late {reply : Reply} (hl : ∀ delay ∈ reply.delay?, timeout.millisRoundedUp < delay) :
    Verdict timeout query reply (.placeholder query)
      (some (.transport query none s!"request timed out after {timeout.text}"))

theorem verdict_outcome (timeout : Span) (query : String) (reply : Reply) :
    Verdict timeout query reply (reply.outcome timeout query).results
      (reply.outcome timeout query).error? := by
  have hlate (hl : ∀ delay ∈ reply.delay?, timeout.millisRoundedUp < delay) :
      Verdict timeout query reply (reply.outcome timeout query).results
        (reply.outcome timeout query).error? := by
    rw [Reply.outcome, callEnd_late hl]
    exact .late hl
  cases reply with
  | silence => exact hlate (by simp [Reply.delay?])
  | crash delay =>
    by_cases hd : delay ≤ timeout.millisRoundedUp
    · simp only [Reply.outcome, Reply.callEnd, hd, ↓reduceIte, CallEnd.outcome]
      exact .died hd
    · exact hlate (by simpa [Reply.delay?] using hd)
  | answer delay result =>
    by_cases hd : delay ≤ timeout.millisRoundedUp
    · simp only [Reply.outcome, Reply.callEnd, hd, ↓reduceIte]
      cases result with
      | error e => exact .unsent hd
      | ok response =>
        simp only [CallEnd.outcome, Outcome.ofResponse]
        cases hs : Backend.isSuccess response.status with
        | false => exact .refused hd hs
        | true =>
          simp only [↓reduceIte, Outcome.ofBody]
          cases hj : Json.read response.body with
          | error e => exact .undecodable hd hs hj
          | ok v =>
            cases hr : QueryResults.ofResponse query v <;> simp only [hr]
            · exact .malformed hd hs hj hr
            · exact .parsed hd hs hj hr
    · exact hlate (by simpa [Reply.delay?] using hd)

/-- The rules leave no choice. -/
theorem verdict_iff {timeout : Span} {query : String} {reply : Reply} {results : QueryResults}
    {error? : Option QueryError} :
    Verdict timeout query reply results error? ↔
      results = (reply.outcome timeout query).results ∧
        error? = (reply.outcome timeout query).error? := by
  constructor
  · intro h
    cases h with
    | parsed hd hs hj hr | malformed hd hs hj hr =>
      simp [Reply.outcome, Reply.callEnd, hd, CallEnd.outcome, Outcome.ofResponse, hs,
        Outcome.ofBody, hj, hr, Outcome.results, Outcome.error?, QueryError.query]
    | undecodable hd hs hj =>
      simp [Reply.outcome, Reply.callEnd, hd, CallEnd.outcome, Outcome.ofResponse, hs,
        Outcome.ofBody, hj, Outcome.results, Outcome.error?, QueryError.query]
    | refused hd hs =>
      simp [Reply.outcome, Reply.callEnd, hd, CallEnd.outcome, Outcome.ofResponse, hs,
        Outcome.results, Outcome.error?, QueryError.query]
    | unsent hd =>
      simp [Reply.outcome, Reply.callEnd, hd, CallEnd.outcome, Outcome.results, Outcome.error?,
        QueryError.query]
    | died hd =>
      simp [Reply.outcome, Reply.callEnd, hd, CallEnd.outcome, Outcome.results, Outcome.error?,
        Event.goneText]
    | late hl =>
      simp [Reply.outcome, callEnd_late hl, CallEnd.outcome, Outcome.results, Outcome.error?,
        QueryError.query]
  · rintro ⟨rfl, rfl⟩
    exact verdict_outcome timeout query reply

/-- Results from a response say which query they are for and of which kind they are. -/
theorem ofResponse_ok {query : String} {v : Json.Value} {results : QueryResults}
    (h : QueryResults.ofResponse query v = .ok results) :
    results.query = query ∧ results.kind.isSome = true := by
  obtain ⟨kind, _, -, hquery, hkind, -⟩ := Response.ofResponse_eq_ok.mp h
  exact ⟨hquery, hkind ▸ rfl⟩

/-- Results of some kind come without an error, and a placeholder comes with one. All of them name the
query. -/
theorem Verdict.kind {timeout : Span} {query : String} {reply : Reply} {results : QueryResults}
    {error? : Option QueryError} (h : Verdict timeout query reply results error?) :
    results.query = query ∧ results.kind.isSome = true ∧ error? = none ∨
      results = .placeholder query ∧ ∃ error, error? = some error ∧ error.query = query := by
  cases h with
  | parsed _ _ _ hr => exact .inl ⟨(ofResponse_ok hr).1, (ofResponse_ok hr).2, rfl⟩
  | malformed | undecodable | refused | unsent | died | late => exact .inr ⟨rfl, _, rfl, rfl⟩

end MetricBatch

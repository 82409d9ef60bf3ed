import MetricBatch.Proofs.Leads
import MetricBatch.Session.Moves
import MetricBatch.Session.Network

namespace MetricBatch.Session

/-- A move that takes no worker away. -/
def Move.Spares : Move → Prop
  | .dropTask _ => False
  | _ => True

/-- A move of somebody who only waits: workers run, time passes, and results are read or given up.
-/
def Move.Waits : Move → Prop
  | .poll _ | .pass _ | .take _ | .discard _ => True
  | _ => False

theorem Move.Waits.spares {m : Move} (h : m.Waits) : m.Spares := by
  cases m with
  | dropTask => exact h
  | submit | poll | startResize | pollResize | dropResize | pass | take | discard => trivial

variable {setup : Setup}

abbrev LeadsTo (setup : Setup) (s s' : Session) : Prop := Leads (move setup) Move.Spares s s'

abbrev WaitsTo (setup : Setup) (s s' : Session) : Prop := Leads (move setup) Move.Waits s s'

theorem WaitsTo.leadsTo {s s' : Session} (h : WaitsTo setup s s') : LeadsTo setup s s' :=
  h.mono fun _ hm => hm.spares

theorem leadsTo_move (s : Session) {m : Move} (hm : m.Spares) : LeadsTo setup s (s.move setup m) :=
  leads_move hm

theorem waitsTo_move (s : Session) {m : Move} (hm : m.Waits) : WaitsTo setup s (s.move setup m) :=
  leads_move hm

theorem poll_leads (s : Session) (i : Nat) : WaitsTo setup s (s.poll setup i) :=
  waitsTo_move s (m := .poll i) trivial

theorem pass_leads (s : Session) (millis : Nat) : WaitsTo setup s (s.pass setup millis) :=
  waitsTo_move s (m := .pass millis) trivial

theorem settleIn_leads (turns : Nat) (s : Session) : WaitsTo setup s (s.settleIn setup turns) := by
  induction turns generalizing s with
  | zero => exact .refl s
  | succ turns ih =>
    unfold settleIn
    split
    · exact .refl s
    · rename_i i _
      exact (poll_leads s i).trans (ih _)

theorem settle_leads (s : Session) : WaitsTo setup s (s.settle setup) := settleIn_leads _ s

theorem submit_leads (s : Session) (query : Query) : LeadsTo setup s (s.submit setup query) := by
  have hspawn : LeadsTo setup s (s.spawn query) := leadsTo_move s (m := .submit query) trivial
  have hrun : WaitsTo setup (s.spawn query) (s.submit setup query) :=
    (poll_leads _ s.workers.length).trans (settle_leads _)
  exact hspawn.trans hrun.leadsTo

theorem submitAll_leads (s : Session) (queries : List Query) :
    LeadsTo setup s (s.submitAll setup queries) :=
  leads_foldl submit_leads queries s

theorem finishDue_leads (s : Session) : WaitsTo setup s (s.finishDue setup) := by
  apply leads_foldl
  intro t wi
  split
  split
  · exact poll_leads t _
  · exact .refl t

theorem moveTo_leads (s : Session) (time : Nat) : WaitsTo setup s (s.moveTo setup time) :=
  (pass_leads s _).trans ((finishDue_leads _).trans (settle_leads _))

theorem advanceIn_leads (target turns : Nat) (s : Session) :
    WaitsTo setup s (s.advanceIn setup target turns) := by
  induction turns generalizing s with
  | zero => exact pass_leads s _
  | succ turns ih =>
    unfold advanceIn
    split
    · exact pass_leads s _
    · split
      · exact (moveTo_leads s _).trans (ih _)
      · exact pass_leads s _

theorem advance_leads (s : Session) (millis : Nat) : WaitsTo setup s (s.advance setup millis) :=
  advanceIn_leads _ _ s

theorem waitIn_leads (ready : Session → Bool) (turns : Nat) (s : Session) :
    WaitsTo setup s (s.waitIn setup ready turns) := by
  induction turns generalizing s with
  | zero => exact .refl s
  | succ turns ih =>
    unfold waitIn
    split
    · exact .refl s
    · split
      · exact .refl s
      · exact (moveTo_leads s _).trans (ih _)

theorem wait_leads (s : Session) (ready : Session → Bool) : WaitsTo setup s (s.wait setup ready) :=
  waitIn_leads ready _ s

/-- Takes the results of one worker more, if they can be read. -/
def takeNext (p : Session × List QueryResults) (i : Nat) : Session × List QueryResults :=
  ((p.1.take i).1, p.2 ++ (p.1.take i).2.toList)

theorem readAll_eq (setup : Setup) (s : Session) :
    s.readAll setup =
      s.wantedIndices.foldl takeNext (s.wait setup fun t => s.wantedIndices.all t.isReadable, []) :=
  rfl

end MetricBatch.Session

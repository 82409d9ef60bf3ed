import MetricBatch.Session.Moves

namespace MetricBatch

def Party.worker? : Party → Option Nat
  | .worker i => some i
  | .resize _ => none

namespace Session

/-- The workers that have been granted their permits and have not run since, in the order in which
they were granted. -/
def grantees (s : Session) : List Nat := s.gate.granted.filterMap (·.call.worker?)

/-- Who has got ready between two sessions: the new workers, and those that have been granted their
permits. -/
def newlyReady (s s' : Session) : List Nat :=
  List.range' s.workers.length (s'.workers.length - s.workers.length) ++
    s'.grantees.filter fun i => !s.gate.isGranted (.worker i)

end Session

/-- A session on one thread, with the run queue of its workers. Whoever gets ready goes to the end
of the queue, whoever is at its head runs until it has to wait, and whoever owns the session does
with it what it likes between any two runs. -/
structure Thread where
  session : Session
  ready : List Nat

namespace Thread

inductive Turn where
  /-- The first worker of the queue runs. -/
  | run
  /-- A worker whose call is under way is woken. -/
  | wake (worker : Nat)
  | elapse (millis : Nat)
  /-- The owner does something. -/
  | act (m : Session.Move)
  deriving DecidableEq

variable (setup : Setup)

/-- The session has gone on, and whoever has got ready by that joins the queue. -/
def goOn (t : Thread) (s : Session) : Thread := ⟨s, t.ready ++ t.session.newlyReady s⟩

/-- Running a worker is nothing that the owner can do. -/
def turn (t : Thread) : Turn → Thread
  | .run =>
    match t.ready with
    | [] => t
    | i :: rest => { t with ready := rest }.goOn (t.session.poll setup i)
  | .wake i =>
    if (t.session.workers[i]?).any (·.isCalling) && !t.ready.contains i then
      { t with ready := t.ready ++ [i] }
    else t
  | .elapse millis => t.goOn { t.session with clock := t.session.clock + millis }
  | .act (.poll _) => t
  | .act m => t.goOn (t.session.move setup m)

/-- A session with so many permits after some turns. -/
def after (maxConcurrency : Nat) (turns : List Turn) : Thread :=
  turns.foldl (turn setup) ⟨.new setup maxConcurrency, []⟩

end Thread

end MetricBatch

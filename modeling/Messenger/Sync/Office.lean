/-
All the syncs of an account at once.

Several syncs may be under way on one store and one bus, each with a round of its own; whatever is
published while they wait is heard by all of them.  The periodic sync is one of them: it begins
an automatic sync whenever its clock strikes and none of its own is under way, and stops for good
once one of them is cancelled.
-/
import Messenger.Sync.Syncer
import Messenger.Sync.Ticker

namespace Messenger.Sync

/-- A sync under way. -/
structure Job where
  number : Nat
  wait : Wait

/-- The syncs that begin by themselves. -/
structure Periodic where
  ticker : Ticker
  /-- The one that is under way. -/
  current : Option Nat := none

/-- The syncs of an account. -/
structure Office where
  syncer : Syncer
  jobs : List Job := []
  periodic : Option Periodic := none
  /-- How many syncs there have been. -/
  begun : Nat := 0

structure Ended where
  number : Nat
  result : Except Failure Outcome

/-- What a step leaves. -/
structure Office.Report where
  office : Office
  published : List Event := []
  changes : List Change := []
  ended : Option Ended := none

namespace Office

/-- How many names a round has for its requests. -/
def namesPerRound : Nat := 1 <<< 64

def begin (office : Office) (host : Host) (forced cancelled : Bool) (now : Nat) : Report :=
  let number := office.begun
  let office := { office with begun := number + 1 }
  match office.syncer.begin host forced cancelled now ⟨number * namesPerRound⟩ with
  | .waiting question =>
    { office := { office with
        syncer := question.syncer
        jobs := office.jobs ++ [⟨number, question.wait⟩] }
      published := question.published
      changes := question.changes }
  | .over conclusion =>
    { office := { office with syncer := conclusion.syncer }
      changes := conclusion.changes
      ended := some ⟨number, conclusion.result⟩ }

/-- Lets every round hear the events, one round after the other. -/
def hear (office : Office) (events : List Event) : Office × List Event :=
  let heard := office.jobs.map fun job =>
    let (wait, published) := job.wait.hearAll events
    ({ job with wait : Job }, published)
  ({ office with jobs := heard.map (·.1) }, heard.flatMap (·.2))

/-- Cancels every sync under way that is meant. -/
def cancel (office : Office) (meant : Nat → Bool) : Office :=
  { office with
    jobs := office.jobs.map fun job =>
      if meant job.number then { job with wait := job.wait.cancel } else job }

/-- Whether a result ends the periodic sync. -/
def stops : Except Failure Outcome → Bool
  | .error .cancelled => true
  | _ => false

/-- The periodic sync after the end of a sync. -/
def Periodic.after (periodic : Periodic) (ended : Ended) : Option Periodic :=
  if periodic.current = some ended.number then
    if stops ended.result then none else some { periodic with current := none }
  else some periodic

/-- Notes the end of a sync. -/
def release (office : Office) (ended : Ended) : Office :=
  { office with
    jobs := office.jobs.filter (·.number ≠ ended.number)
    periodic := office.periodic.bind (Periodic.after · ended) }

def finish (office : Office) (host : Host) (job : Job) (ending : Ending) (now : Nat) : Report :=
  let conclusion := office.syncer.finish host job.wait ending now
  let ended : Ended := ⟨job.number, conclusion.result⟩
  { office := { office with syncer := conclusion.syncer }.release ended
    changes := conclusion.changes
    ended := some ended }

/-- Ends the first sync whose wait can end. -/
def resume? (office : Office) (host : Host) (now : Nat) : Option Report :=
  office.jobs.firstM fun job =>
    (job.wait.endings now).head?.map fun ending => office.finish host job ending now

/-- Begins an automatic sync if the clock of the periodic sync strikes. -/
def tick? (office : Office) (host : Host) (now : Nat) : Option Report := do
  let periodic ← office.periodic
  guard periodic.current.isNone
  let ticker ← periodic.ticker.strike? now
  let report := office.begin host false false now
  let current := if report.ended.isNone then some office.begun else none
  let after := match report.ended with
    | some ended => if stops ended.result then none else some { periodic with ticker }
    | none => some { periodic with ticker, current }
  return { report with office := { report.office with periodic := after } }

/-- Sets up the periodic sync. -/
def startPeriodic (office : Office) (ticker : Ticker) : Office :=
  { office with periodic := some { ticker } }

/-- Ends the periodic sync, and cancels the sync of it that is under way. -/
def stopPeriodic (office : Office) : Office :=
  let current := office.periodic.bind (·.current)
  { office.cancel (current = some ·) with periodic := none }

/-- The instants at which something happens by itself. -/
def alarms (office : Office) : List Nat :=
  let strikes := match office.periodic with
    | some periodic => if periodic.current.isNone then [periodic.ticker.next] else []
    | none => []
  office.jobs.map (·.wait.deadline) ++ strikes

end Office

end Messenger.Sync

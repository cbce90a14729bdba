/-
A contact sync from its beginning to its end.

A sync marks the store, asks the server about the people in the address book, and writes what it
learns in place of the contacts of the sync before.  It writes no contact unless its round has
come to its end and nobody has cancelled it; otherwise the mark stays, and the next sync tries
again.

The functions here are of a sync that nobody comes between: it reads the clock once where it begins,
and where it is over it writes what it read down at once (`note`).  What it reports to a log is left
out.
-/
import Messenger.Sync.Throttle
import Messenger.Sync.Wait
import Messenger.Sync.Work

namespace Messenger.Sync

open Discovery (Round)

/-- What the syncs of an account share. -/
structure Syncer where
  store : Store
  throttle : Throttle := {}

/-- A sync that is over. -/
structure Conclusion where
  syncer : Syncer
  result : Except Failure Outcome
  changes : List Change := []

/-- A sync that has asked its first question. -/
structure Question where
  syncer : Syncer
  wait : Wait
  published : List Event
  changes : List Change

/-- How far a sync comes by itself. -/
inductive Progress where
  | over (conclusion : Conclusion)
  | waiting (question : Question)

/-- The result of a sync that has worked: failures of the store are part of the tally. -/
def resultOf (result : Except Failure Unit) (tally : Tally) : Except Failure Outcome :=
  match result with
  | .ok () => .ok (.completed tally)
  | .error failure =>
    if failure.isStorage then .ok (.completed { tally with databaseError := true })
    else .error failure

namespace Syncer

/-- Writes down at which instant a sync was over. -/
def note (syncer : Syncer) (instant : Nat) : Syncer :=
  { syncer with throttle := syncer.throttle.stamp instant }

def conclude (syncer : Syncer) (result : Except Failure Unit) (run : Run) (now : Nat) :
    Conclusion where
  syncer := { syncer with store := run.store }.note now
  result := resultOf result run.tally
  changes := run.changes

def discover (syncer : Syncer) (host : Host) (candidates : Candidates) (run : Run) (now : Nat)
    (first : RequestId) : Question where
  syncer := { syncer with store := run.store }
  wait :=
    { candidates
      round := Round.start candidates.keys host.settings.rosterBatchSize first
      deadline := now + host.settings.syncTimeout
      tally := run.tally }
  published := [.connectionStatusRequest]
  changes := run.changes

/-- The first part of a sync that may run. -/
def work (syncer : Syncer) (host : Host) (server : String) (now : Nat) (first : RequestId) :
    Progress :=
  match (Work.collect server).run host { store := syncer.store } with
  | (.error failure, run) => .over (syncer.conclude (.error failure) run now)
  | (.ok candidates, run) =>
    if candidates.rows.isEmpty then
      let (result, run) := Work.clear.run host run
      .over (syncer.conclude result run now)
    else .waiting (syncer.discover host candidates run now first)

def begin (syncer : Syncer) (host : Host) (forced cancelled : Bool) (now : Nat)
    (first : RequestId) : Progress :=
  if host.settings.offlineMode then .over { syncer, result := .ok (.skipped .offlineMode) }
  else match host.settings.endpointServer with
    | none => .over { syncer, result := .ok (.skipped .noServer) }
    | some server =>
      if cancelled then .over { syncer, result := .error .cancelled }
      else match syncer.throttle.claim? host.settings.minSyncInterval now forced with
        | none => .over { syncer, result := .ok (.skipped .throttled) }
        | some throttle => { syncer with throttle }.work host server now first

/-- What is left to do when a wait has ended. -/
def lastWork (wait : Wait) : Ending → Work Unit
  | .cancelled => throw .cancelled
  | .expired | .outcome .unavailable => Work.giveUp
  | .outcome (.completed findings) =>
    if wait.cancelled then throw .cancelled else Work.replace wait.candidates findings

def finish (syncer : Syncer) (host : Host) (wait : Wait) (ending : Ending) (now : Nat) :
    Conclusion :=
  let (result, run) := (lastWork wait ending).run host { store := syncer.store, tally := wait.tally }
  syncer.conclude result run now

end Syncer

end Messenger.Sync

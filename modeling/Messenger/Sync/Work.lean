/-
The work of a sync on the store.

Work counts what it does as it goes on, so that a failure on the way leaves the counters of what
came before.  Every use of the store goes through `look` or `commit`, where the host can make it
fail.
-/
import Messenger.Store.Call
import Messenger.Store.Contacts
import Messenger.Sync.Basic
import Messenger.Sync.Candidates
import Messenger.Sync.Rows

namespace Messenger.Sync

/-- What surrounds a sync: the settings, the encryption, and the failures of the store. -/
structure Host where
  settings : Settings
  cipher : Cipher := .plain
  fault : StoreCall → Option Failure := fun _ => none

/-- The store in the hands of a sync, what it has announced, and what it has counted. -/
structure Run where
  store : Store
  changes : List Change := []
  tally : Tally := {}

/-- A step of work of a sync. -/
abbrev Work := ReaderT Host (EStateM Failure Run)

namespace Work

/-- Runs work; what it did before a failure stays done. -/
def run (work : Work α) (host : Host) (start : Run) : Except Failure α × Run :=
  match ReaderT.run work host start with
  | .ok a run => (.ok a, run)
  | .error failure run => (.error failure, run)

/-- Fails if the host makes this use of the store fail. -/
def reach (call : StoreCall) : Work Unit := do
  match (← read).fault call with
  | some failure => throw failure
  | none => pure ()

def look (call : StoreCall) (f : Store → α) : Work α := do
  reach call
  return f (← get).store

def commit (call : StoreCall) (f : Store → Committed α) : Work α := do
  reach call
  let committed := f (← get).store
  modify fun run =>
    { run with store := committed.store, changes := run.changes ++ committed.changes }
  return committed.value

def count (f : Tally → Tally) : Work Unit := modify fun run => { run with tally := f run.tally }

/-- Removes the contacts of the sync before. -/
def deleteSynced : Work Unit := do
  let deletes ← commit .deleteSyncedContacts (·.deleteSyncedContacts)
  count ({ · with deletes })

/-- Marks the store and collects whom to ask about. -/
def collect (server : String) : Work Candidates := do
  commit .beginResync (·.beginResync)
  let entries ← look .syncCandidates (·.syncCandidates)
  count ({ · with skippedEntries := countShort entries })
  return .ofEntries server entries

/-- There is nobody to ask about. -/
def clear : Work Unit := do
  deleteSynced
  commit .commitResync (·.commitResync)

/-- Writes what the round has found over the contacts of the sync before. -/
def replace (candidates : Candidates) (findings : List Discovery.Finding) : Work Unit := do
  count ({ · with entries := findings.length })
  deleteSynced
  let host ← read
  let rows := rows host.settings host.cipher candidates findings
  let written ← commit .applyContactBatch (·.applyContactBatch rows)
  count fun tally =>
    { tally with
      inserts := written.applied
      skippedEntries := tally.skippedEntries + written.skipped }
  commit .commitResync (·.commitResync)

/-- The server gave no complete answer; the next sync tries again. -/
def giveUp : Work Unit := count fun tally => { tally with ioExceptions := tally.ioExceptions + 1 }

end Work

end Messenger.Sync

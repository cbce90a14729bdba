/-
What comes of a contact sync.

A sync that runs ends with a tally, even if the server could not be reached or the store failed on
the way; the tally then says so.  A sync that has no reason to run says why it did not.
-/
import Messenger.Failure

namespace Messenger.Sync

/-- Why a sync does not run. -/
inductive Obstacle where
  | offlineMode
  | noServer
  | throttled
deriving DecidableEq

/-- The counters of a sync. -/
structure Tally where
  /-- How many contacts of earlier syncs were removed. -/
  deletes : Nat := 0
  /-- How many rows were written. -/
  inserts : Nat := 0
  /-- How many people the server told about. -/
  entries : Nat := 0
  /-- How many entries and rows were left out. -/
  skippedEntries : Nat := 0
  /-- How many times the server gave no complete answer. -/
  ioExceptions : Nat := 0
  /-- Whether the store failed. -/
  databaseError : Bool := false
deriving DecidableEq

inductive Outcome where
  | skipped (obstacle : Obstacle)
  | completed (tally : Tally)
deriving DecidableEq

end Messenger.Sync

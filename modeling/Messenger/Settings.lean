/-
The settings of an account on this device.
-/
import Messenger.Identity

namespace Messenger

/-- The settings, with the values that hold when nothing is said. -/
structure Settings where
  selfIdentity : Option Identity := none
  offlineMode : Bool := false
  endpointServer : Option String := none
  encryptionEnabled : Bool := true
  imageCompression : Nat := 0
  rosterBatchSize : Nat := 500
  syncTimeoutSecs : Nat := 60
  minSyncIntervalSecs : Nat := 600
  autoDownloadLimit : Option Nat := some (512 * 1024)
deriving DecidableEq, Inhabited

namespace Settings

/-- The settings of an account at a server. -/
def ofAccount (self : Identity) (server : String) : Settings :=
  { selfIdentity := some self, endpointServer := some server }

/-- How long a sync waits for answers, in milliseconds. -/
def syncTimeout (settings : Settings) : Nat := settings.syncTimeoutSecs * 1000

/-- The least time between two automatic syncs, in milliseconds. -/
def minSyncInterval (settings : Settings) : Nat := settings.minSyncIntervalSecs * 1000

def isSelf (settings : Settings) (identity : Identity) : Bool :=
  settings.selfIdentity = some identity

/-- Whether a file of this length is fetched without being asked for. -/
def canAutoDownload (settings : Settings) (length : Nat) : Bool :=
  settings.autoDownloadLimit.any (length ≤ ·)

end Settings

end Messenger

/-
The ways in which an operation fails, and how each is put into words.  Of the failures of a database
under the store only the general one is kept.
-/
import Messenger.Ids
import Messenger.Identity

namespace Messenger

/-- A cause of failure. -/
inductive Failure where
  | storage (text : String)
  | io (text : String)
  | serialization (text : String)
  | crypto (text : String)
  | networkTimeout (seconds : Nat)
  | connectionLost
  | protocolMismatch (text : String)
  | cancelled
  | messageNotFound (id : Int)
  | groupNotFound (group : String)
  | invalidOperation (text : String)
  | workerStopped
deriving DecidableEq

namespace Failure

def message : Failure → String
  | .storage text => "Storage error: " ++ text
  | .io text => "IO error: " ++ text
  | .serialization text => "Serialization error: " ++ text
  | .crypto text => "Crypto error: " ++ text
  | .networkTimeout seconds => "Network timeout after " ++ toString seconds ++ " seconds"
  | .connectionLost => "Connection lost"
  | .protocolMismatch text => "Protocol mismatch: " ++ text
  | .cancelled => "Operation cancelled"
  | .messageNotFound id => "Message not found: " ++ toString id
  | .groupNotFound group => "Group not found: " ++ group
  | .invalidOperation text => "Invalid operation: " ++ text
  | .workerStopped => "Message queue worker stopped"

/-- Whether the store is at fault. -/
def isStorage : Failure → Bool
  | .storage _ | .io _ | .serialization _ => true
  | _ => false

end Failure

end Messenger

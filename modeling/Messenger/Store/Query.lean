/-
Which messages a caller asks for.
-/
import Messenger.Message.Basic

namespace Messenger

/-- Conditions on messages; one that is left open admits every message. -/
structure Query where
  direction : Option Direction := none
  statuses : Option (List Status) := none
  exclude : List Status := []
  peer : Option Identity := none
  thread : Option ThreadId := none
deriving DecidableEq

namespace Query

def outgoing : Query := { direction := some .outgoing }

def incoming : Query := { direction := some .incoming }

/-- Admits one more state, and no state that was not admitted in this way. -/
def withStatus (query : Query) (status : Status) : Query :=
  { query with statuses := some (query.statuses.getD [] ++ [status]) }

def excluding (query : Query) (statuses : List Status) : Query :=
  { query with exclude := query.exclude ++ statuses }

def toPeer (query : Query) (peer : Identity) : Query := { query with peer := some peer }

def inThread (query : Query) (thread : ThreadId) : Query := { query with thread := some thread }

/-- Whether a message meets all conditions. -/
def admits (query : Query) (message : MessageContent) : Bool :=
  query.direction.all (· = message.direction)
    && query.statuses.all (·.contains message.status)
    && !query.exclude.contains message.status
    && query.peer.all (· = message.peer)
    && query.thread.all (· = message.thread)

end Query

end Messenger

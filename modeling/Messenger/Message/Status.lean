/-
Directions and delivery states of messages.

The states are ranked, and an acknowledgement moves a message only to a state of higher rank, so
acknowledgements that arrive late, twice or out of order change nothing.
-/

namespace Messenger

/-- Whether a message came to us or goes out from us. -/
inductive Direction where
  | incoming
  | outgoing
deriving DecidableEq, Inhabited

namespace Direction

def all : List Direction := [.incoming, .outgoing]

def name : Direction → String
  | .incoming => "incoming"
  | .outgoing => "outgoing"

end Direction

/-- The delivery state of a message. -/
inductive Status where
  | incoming
  | sending
  | error
  | notAccepted
  | sent
  | received
  | confirmed
  | notDelivered
  | pending
  | queued
deriving DecidableEq, Inhabited

namespace Status

/-- The states in the order of their codes. -/
def all : List Status :=
  [.incoming, .sending, .error, .notAccepted, .sent, .received, .confirmed, .notDelivered,
   .pending, .queued]

def ofCode? (code : Nat) : Option Status := all[code]?

def code : Status → Nat
  | .incoming => 0
  | .sending => 1
  | .error => 2
  | .notAccepted => 3
  | .sent => 4
  | .received => 5
  | .confirmed => 6
  | .notDelivered => 7
  | .pending => 8
  | .queued => 9

theorem ofCode?_code (status : Status) : ofCode? status.code = some status := by
  cases status <;> rfl

def name : Status → String
  | .incoming => "incoming"
  | .sending => "sending"
  | .error => "error"
  | .notAccepted => "not_accepted"
  | .sent => "sent"
  | .received => "received"
  | .confirmed => "confirmed"
  | .notDelivered => "not_delivered"
  | .pending => "pending"
  | .queued => "queued"

/-- How far delivery has come. -/
def rank : Status → Nat
  | .incoming => 0
  | .pending => 1
  | .sending => 2
  | .error | .notAccepted => 3
  | .queued => 4
  | .sent => 5
  | .notDelivered => 6
  | .received => 7
  | .confirmed => 8

/-- Whether delivery comes further by this change. -/
def advancesTo (status next : Status) : Bool := status.rank < next.rank

/-- The states of messages that were handed over, with or without success. -/
def handedOver : List Status := [.sent, .received, .notDelivered, .queued]

def isHandedOver (status : Status) : Bool := handedOver.contains status

/-- Whether the other side, or the server for it, has answered. -/
def isAcknowledged : Status → Bool
  | .sent | .received | .notDelivered | .confirmed => true
  | _ => false

end Status

end Messenger

/-
Threads: the conversations, with a summary of their latest message.
-/
import Messenger.Message.Basic

namespace Messenger

/-- What we want to happen with a stranger. -/
inductive PrivacyAction where
  | accept
  | block
  | unblock
deriving DecidableEq, Inhabited

namespace PrivacyAction

def all : List PrivacyAction := [.accept, .block, .unblock]

def name : PrivacyAction → String
  | .accept => "accept"
  | .block => "block"
  | .unblock => "unblock"

end PrivacyAction

/-- Where a conversation request stands: none, waiting for the other side, or answered by us with
the answer still to be sent. -/
inductive RequestStatus where
  | none
  | waitingReply
  | replyPendingAccept
  | replyPendingBlock
  | replyPendingUnblock
deriving DecidableEq, Inhabited

namespace RequestStatus

def all : List RequestStatus :=
  [.none, .waitingReply, .replyPendingAccept, .replyPendingBlock, .replyPendingUnblock]

def name : RequestStatus → String
  | .none => "none"
  | .waitingReply => "waiting_reply"
  | .replyPendingAccept => "reply_pending_accept"
  | .replyPendingBlock => "reply_pending_block"
  | .replyPendingUnblock => "reply_pending_unblock"

/-- The answer that is still to be sent. -/
def pendingReply : RequestStatus → Option PrivacyAction
  | .replyPendingAccept => some .accept
  | .replyPendingBlock => some .block
  | .replyPendingUnblock => some .unblock
  | .none | .waitingReply => Option.none

/-- The state of a request that we have answered. -/
def ofReply : PrivacyAction → RequestStatus
  | .accept => .replyPendingAccept
  | .block => .replyPendingBlock
  | .unblock => .replyPendingUnblock

theorem pendingReply_ofReply (action : PrivacyAction) : (ofReply action).pendingReply = some action := by
  cases action <;> rfl

end RequestStatus

/-- What a list of conversations shows of the latest message. -/
structure ThreadSummary where
  message : MessageId
  direction : Direction
  status : Status
  mime : String
  snippet : String
  timestamp : Int
deriving DecidableEq

def Message.summary (message : Message) : ThreadSummary where
  message := message.id
  direction := message.direction
  status := message.status
  mime := message.mime
  snippet := message.snippet
  timestamp := message.timestamp

structure Thread where
  id : ThreadId
  peer : Identity
  isGroup : Bool
  requestStatus : RequestStatus := .none
  draft : Option String := none
  messageCount : Nat := 0
  lastMessage : Option ThreadSummary := none
deriving DecidableEq

/-- Whether nothing would be lost with the thread: it has no message and no draft. -/
def Thread.isDisposable (thread : Thread) : Bool :=
  thread.messageCount = 0 && thread.draft.all (· = "")

end Messenger

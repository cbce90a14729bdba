/-
Trying again: messages whose delivery failed or is held, receipts that we still owe, and answers
to conversation requests that were given while there was no connection.
-/
import Messenger.Outbox.Compose

namespace Messenger.Outbox

open Messenger.Action

/-- Starts one message over, and all else that waits for its peer with it. -/
def retryMessage (id : MessageId) : Action Nat := do
  match ← look .message (·.message? id) with
  | none => fail (.messageNotFound id.val)
  | some message =>
    let now := (← read).now
    let _ ← commit .updateStatuses (·.updateStatuses [id] .sending now)
    let _ ← resend (.forPeer message.peer)
    return 1

/-- Starts over the held messages that a query admits, then scans. -/
def retryHeld (query : Query) (options : ScanOptions) : Action Nat := do
  let held ← look .queryMessages (·.queryMessages query)
  let now := (← read).now
  let count ← commit .updateStatuses (·.updateStatuses (held.map (·.id)) .sending now)
  let _ ← resend options
  return count

def held : Query := Query.outgoing.withStatus .pending

def retryMessagesTo (peer : Identity) : Action Nat := retryHeld (held.toPeer peer) (.forPeer peer)

def retryAll : Action Nat := retryHeld held {}

/-- The messages for which a receipt is owed. -/
def owed : Query := Query.incoming.withStatus .received

/-- Asks again for the receipts that we owe. -/
def resendReceipts : Action Unit := do
  let messages ← look .queryMessages (·.queryMessages owed)
  messages.forM fun message => publish (.sendDeliveryReceiptRequest message.id)

/-- Sends the answer to the conversation request of a thread, if one is waiting. -/
def sendSubscriptionReply (thread : Thread) : Action Unit := do
  match thread.requestStatus.pendingReply with
  | none => return
  | some action =>
    publish (.setUserPrivacyRequest thread.peer action)
    commit .setRequestStatus (·.setRequestStatus thread.id .none)

def sendSubscriptionReplies : Action Unit := do
  let threads ← look .threads (·.threads.values)
  threads.forM sendSubscriptionReply

/-- Answers a conversation request, now or as soon as there is a connection. -/
def replySubscription (thread : ThreadId) (action : PrivacyAction) : Action Unit := do
  let thread ← loadThread thread
  commit .setRequestStatus (·.setRequestStatus thread.id (.ofReply action))
  if (← outbox).connected then sendSubscriptionReplies

end Messenger.Outbox

/-
What the outbox does about events: changes of the connection, and acknowledgements.
-/
import Messenger.Outbox.Retry
import Messenger.Outbox.Incoming

namespace Messenger.Outbox

open Messenger.Action

/-- Moves a message on to a state, and gives its new row; a message that does not exist or has
come as far already is left alone. -/
def advance (id : MessageId) (status : Status) : Action (Option Message) := do
  match ← look .message (·.message? id) with
  | none => return none
  | some message =>
    if message.status.advancesTo status then
      let message := { message with status, statusChanged := (← read).now }
      commit? .updateMessage (·.updateMessage message)
      return some message
    else return none

/-- A message has reached the server.  A group command releases what it was holding back. -/
def messageSent (id : MessageId) : Action Unit := do
  match ← advance id .sent with
  | none => return
  | some message =>
    if message.isGroupCommand then
      let _ ← resend (.forPeer message.peer)

/-- A file has reached the server, and its message can go. -/
def uploadCompleted (id : MessageId) (remote : String) : Action Unit := do
  match ← look .message (·.message? id) with
  | none => return
  | some message =>
    match message.attachment with
    | none => return
    | some attachment =>
      let attachment := { attachment with remote := some remote }
      commit? .updateMessage (·.updateMessage { message with attachment := some attachment })
      publish (.sendMessageRequest id)

/-- The file with its preview; a length of zero is not taken over. -/
def prepared (preview : Option String) (length : Nat) (attachment : Attachment) : Attachment :=
  { attachment with preview, length := if length > 0 then length else attachment.length }

def mediaPrepared (id : MessageId) (preview : Option String) (length : Nat) : Action Unit := do
  match ← look .message (·.message? id) with
  | none => return
  | some message =>
    let message := { message with attachment := message.attachment.map (prepared preview length) }
    commit? .updateMessage (·.updateMessage message)
    unless message.status.isHandedOver do dispatchFresh message

/-- A person has subscribed to us: their thread waits no longer, and what was held for them goes. -/
def userSubscribed (identity : Identity) : Action Unit := do
  match ← look .threadForPeer (·.threadForPeer? identity) with
  | some thread =>
    if thread.requestStatus = .waitingReply then
      commit .setRequestStatus (·.setRequestStatus thread.id .none)
  | none => pure ()
  let _ ← resend (ScanOptions.forPeer identity).forced

/-- There is a connection: hand over what waits, ask for receipts, send answers. -/
def onConnected : Action Unit := do
  setConnected true
  let _ ← resend {}
  resendReceipts
  sendSubscriptionReplies

/-- The connection is gone, and with it what is known about servers for files. -/
def onDisconnected : Action Unit := do
  setConnected false
  setUploadService false

/-- The list of subscriptions has come. -/
def onRosterLoaded : Action Unit := do
  let _ ← resend {}
  resendReceipts

def onUploadServiceFound : Action Unit := do
  setUploadService true
  let _ ← resend .mediaRetry

/-- Whether the outbox does anything about an event. -/
def wants : Event → Bool
  | .connected | .disconnected | .rosterLoaded | .uploadServiceFound | .groupCreated _
  | .userSubscribed _ | .messageSent _ | .messageDelivered _ | .messageFailed _
  | .uploadCompleted _ _ | .mediaPrepared _ _ _ | .deliveryReceiptSent _ => true
  | _ => false

def handle : Event → Action Unit
  | .connected => onConnected
  | .disconnected => onDisconnected
  | .rosterLoaded => onRosterLoaded
  | .uploadServiceFound => onUploadServiceFound
  | .groupCreated group => discard (resend (.forPeer group))
  | .userSubscribed identity => userSubscribed identity
  | .messageSent id => messageSent id
  | .messageDelivered id => discard (advance id .received)
  | .messageFailed id => discard (advance id .error)
  | .deliveryReceiptSent id => discard (advance id .confirmed)
  | .uploadCompleted id remote => uploadCompleted id remote
  | .mediaPrepared id preview length => mediaPrepared id preview length
  | _ => pure ()

end Messenger.Outbox

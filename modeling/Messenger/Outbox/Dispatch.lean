/-
Handing messages over.

`dispatchFresh` is the first attempt for one message, right after it was stored; `resend` is a
scan of all that is still to be handed over.
-/
import Messenger.Outbox.Action
import Messenger.Outbox.Scan

namespace Messenger

/-- The live members of a group; an unknown group has none. -/
def Store.liveMembersOf (store : Store) (id : Identity) : List Identity :=
  ((store.group? id).map Group.liveMembers).getD []

/-- Whether an earlier group command in the thread of the message waits for its answer. -/
def Store.isHeldBack (store : Store) (message : Message) : Bool :=
  (store.queryMessages (Query.outgoing.inThread message.thread)).any fun earlier =>
    earlier.id.val < message.id.val && earlier.isGroupCommand && !earlier.status.isAcknowledged

def Dispatch.event : Dispatch → Event
  | .send id => .sendMessageRequest id
  | .upload id => .uploadAttachmentRequest id

namespace Outbox

open Messenger.Action

/-- Whether the message has to wait for a group command; one outside any thread never has. -/
def threadStalled (message : Message) : Action Bool := do
  if message.thread.isNone then return false
  look .queryMessages (·.isHeldBack message)

/-- Hands over a message that was just stored, unless it is held for review or held back, or its
file cannot be uploaded yet. -/
def dispatchFresh (message : Message) : Action Unit := do
  if message.status = .pending then return
  if ← threadStalled message then return
  if message.needsUpload then
    if (← outbox).uploadService then publish (.uploadAttachmentRequest message.id)
  else publish (.sendMessageRequest message.id)

/-- The outgoing messages that were not handed over. -/
def unsent : Query := Query.outgoing.excluding Status.handedOver

/-- The look-up of members that a scan over some messages uses. -/
def membersFor (messages : List Message) : Action (Identity → List Identity) := do
  if messages.any (·.group.isSome) then look .group Store.liveMembersOf else return fun _ => []

/-- Scans what is still to be handed over: dispatches in order, then deletes. -/
def resend (options : ScanOptions) : Action Plan := do
  let messages ← look .queryMessages (·.queryMessages unsent)
  let membersOf ← membersFor messages
  let plan := planScan messages options (← outbox).uploadService membersOf
  plan.dispatch.forM fun dispatch => publish dispatch.event
  unless plan.delete.isEmpty do
    let _ ← commit .deleteMessages (·.deleteMessages plan.delete)
  return plan

end Outbox

end Messenger

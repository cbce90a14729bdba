/-
Arriving messages.

A message is taken once: its server-given name tells whether it is stored already.  Whatever goes
wrong after it is stored (the encryption, the group it belongs to, the contact of its sender)
does not keep it from being shown.
-/
import Messenger.Outbox.Grouping

namespace Messenger.Outbox

open Messenger.Action

/-- The body as it can be read, and whether it is still encrypted. -/
def readable (cipher : Cipher) (inbound : InboundMessage) : Octets × Bool :=
  if inbound.encrypted then
    match cipher.decrypt inbound.sender inbound.body with
    | .ok plaintext => (plaintext, false)
    | .error _ => (inbound.body, true)
  else (inbound.body, false)

/-- The person or group whose thread takes the message, and whether it is a group. -/
def conversationOf (inbound : InboundMessage) : Identity × Bool :=
  match inbound.group with
  | some group => (group.id, true)
  | none => (inbound.sender, false)

/-- Whether the person at the device is told of the message. -/
def isNotable (inbound : InboundMessage) : Bool :=
  inbound.groupCommand.all fun command => command.isCreate || command.isPart

/-- The message that a server-given name quotes: one of ours if there is one, else one we got. -/
def replyTarget (serverId : String) : Action (Option MessageId) := do
  match ← look .messageByServerId (·.messageByServerId? .outgoing serverId) with
  | some message => return some message.id
  | none =>
    return (← look .messageByServerId (·.messageByServerId? .incoming serverId)).map (·.id)

/-- The arriving message as it is stored. -/
def receivedContent (inbound : InboundMessage) (thread : ThreadId) (body : Octets × Bool)
    (inReplyTo : Option MessageId) : MessageContent where
  thread
  peer := inbound.sender
  direction := .incoming
  status := if inbound.requestReceipt then .received else .incoming
  mime := inbound.mime
  body := body.1
  encrypted := body.2
  attachment := inbound.attachment.map InboundAttachment.stored
  location := inbound.location
  group := inbound.group.map fun group => ⟨group.id, group.owner⟩
  groupCommand := inbound.groupCommand
  inReplyTo
  serverId := some inbound.serverId
  timestamp := inbound.timestamp

/-- Tells the person at the device about a message in a thread. -/
def notify (peer : Identity) (thread : ThreadId) : Action Unit := do
  signal (.askPaused peer)
  if (← read).paused peer then signal .playIncomingSound else signal (.updateNotifications thread)

/-- Updates what we know about the group or the sender of a stored message. -/
def learnFrom (inbound : InboundMessage) (thread : ThreadId) : Action Unit :=
  match inbound.group with
  | some group => attempt (applyInboundGroup group inbound.sender thread)
  | none => attempt (commit .markRegistered (·.markRegistered inbound.sender))

/-- Asks for the file of a stored message, if it is small enough to be fetched unasked. -/
def fetchAttachment (inbound : InboundMessage) (id : MessageId) : Action Unit := do
  match inbound.attachment with
  | none => return
  | some attachment =>
    if (← read).settings.canAutoDownload attachment.length then
      publish (.downloadAttachmentRequest id attachment.url)

/-- Takes an arriving message; the answer is its number, or none if it was stored already. -/
def incoming (inbound : InboundMessage) : Action (Option MessageId) := do
  let known ← look .messageByServerId (·.messageByServerId? .incoming inbound.serverId)
  if known.isSome then return none
  let body := readable (← read).cipher inbound
  let (peer, isGroup) := conversationOf inbound
  let thread ← commit .ensureThread (·.ensureThread peer isGroup)
  let inReplyTo ← match inbound.inReplyTo with
    | some serverId => replyTarget serverId
    | none => pure none
  let content := receivedContent inbound thread.id body inReplyTo
  let message ← commit .insertMessage (·.insertMessage content)
  learnFrom inbound thread.id
  fetchAttachment inbound message.id
  if inbound.requestReceipt then publish (.sendDeliveryReceiptRequest message.id)
  if isNotable inbound then notify peer thread.id
  return some message.id

end Messenger.Outbox

/-
New messages from the person at the device.
-/
import Messenger.Outbox.Dispatch

namespace Messenger.Outbox

open Messenger.Action

structure Binary where
  locator : String
  mime : String
  length : Nat
  isMedia : Bool
deriving DecidableEq

/-- The row of a thread, which must exist. -/
def loadThread (id : ThreadId) : Action Thread := do
  match ← look .thread (·.threads.get? id) with
  | some thread => return thread
  | none => fail (.invalidOperation ("unknown thread " ++ toString id.val))

/-- The row of a group, which must exist. -/
def loadGroup (id : Identity) : Action Group := do
  match ← look .group (·.group? id) with
  | some group => return group
  | none => fail (.groupNotFound id.text)

/-- The reference to the group of a thread, if it is the thread of a group. -/
def groupRefOf (thread : Thread) : Action (Option GroupRef) := do
  if thread.isGroup then
    let group ← loadGroup thread.peer
    return some ⟨group.id, group.owner⟩
  else return none

/-- A new message in a thread; it is held for review while the thread waits for a reply. -/
def compose (thread : Thread) (mime : String) : Action MessageContent := do
  let group ← groupRefOf thread
  let host ← read
  let serverId ← issueServerId
  return {
    thread := thread.id
    peer := thread.peer
    status := if thread.requestStatus = .waitingReply then .pending else .sending
    mime
    encrypted := host.settings.encryptionEnabled
    group
    serverId := some serverId
    timestamp := host.now }

/-- Stores a new message and hands it over. -/
def enqueue (content : MessageContent) : Action MessageId := do
  let message ← commit .insertMessage (·.insertMessage content)
  dispatchFresh message
  return message.id

def sendText (thread : ThreadId) (text : String) (inReplyTo : Option MessageId) :
    Action MessageId := do
  let thread ← loadThread thread
  let content ← compose thread textMime
  enqueue { content with body := Octets.ofText text, inReplyTo }

def sendLocation (thread : ThreadId) (location : Location) : Action MessageId := do
  let thread ← loadThread thread
  let content ← compose thread locationMime
  enqueue { content with body := .ofText (location.text.getD ""), location := some location }

/-- How much a file of this type is compressed before it is sent. -/
def compressionFor (settings : Settings) (mime : String) : Nat :=
  if "image/".toList.isPrefixOf mime.toList then settings.imageCompression else 0

/-- Stores a message with a file.  Media are prepared first and handed over after that. -/
def sendBinary (thread : ThreadId) (binary : Binary) : Action MessageId := do
  let thread ← loadThread thread
  let content ← compose thread binary.mime
  let settings := (← read).settings
  let attachment : Attachment :=
    { mime := binary.mime, localPath := some binary.locator, remote := none, preview := none
      length := binary.length, encrypted := settings.encryptionEnabled }
  let content := { content with attachment := some attachment }
  if binary.isMedia then
    let message ← commit .insertMessage (·.insertMessage content)
    publish (.prepareMediaRequest message.id (compressionFor settings binary.mime))
    return message.id
  else enqueue content

end Messenger.Outbox

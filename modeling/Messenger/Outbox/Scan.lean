/-
Scans of the outgoing messages.

A scan goes once through the messages that qualify, oldest first, and decides about each: hand it
to the server, upload its file first, leave it for another time, or delete it.  A group command
holds back everything after it in its thread, because what comes later is meant for the group as
the command leaves it; messages outside any thread never hold each other back.

The decisions come first (`Scan.decisions`), one for each candidate; a `Plan` sorts them into the
messages to dispatch, to skip and to delete.
-/
import Messenger.Message.Basic

namespace Messenger

/-- What a scan looks at: only files still to be uploaded, or everything else; also the messages
held for review, or not; only what concerns one peer, or all. -/
structure ScanOptions where
  retryingMedia : Bool := false
  forcePending : Bool := false
  peer : Option Identity := none
deriving DecidableEq

namespace ScanOptions

def mediaRetry : ScanOptions := { retryingMedia := true }

def forPeer (peer : Identity) : ScanOptions := { peer := some peer }

def forced (options : ScanOptions) : ScanOptions := { options with forcePending := true }

end ScanOptions

inductive SkipReason where
  | stalled
  | emptyGroup
  | awaitingUploadService
deriving DecidableEq

inductive Decision where
  | send
  | upload
  | skip (reason : SkipReason)
  | delete
deriving DecidableEq

/-- A message to hand over, or a file to upload. -/
inductive Dispatch where
  | send (id : MessageId)
  | upload (id : MessageId)
deriving DecidableEq

structure Plan where
  dispatch : List Dispatch := []
  skipped : List (MessageId × SkipReason) := []
  delete : List MessageId := []
deriving DecidableEq

namespace Scan

/-- Whether the state of a message lets a scan pick it up. -/
def statusQualifies (options : ScanOptions) (status : Status) : Bool :=
  match status with
  | .sending | .error | .notAccepted => true
  | .pending => options.forcePending
  | .incoming | .sent | .received | .confirmed | .notDelivered | .queued => false

/-- Whether the file of a message, or the lack of one, lets a scan pick it up. -/
def mediaQualifies (options : ScanOptions) (attachment : Option Attachment) : Bool :=
  match attachment with
  | none => !options.retryingMedia
  | some attachment =>
    if options.retryingMedia then attachment.needsUpload else attachment.remote.isSome

/-- Whether a scan picks the message up. -/
def isCandidate (options : ScanOptions) (message : MessageContent) : Bool :=
  message.direction = .outgoing && statusQualifies options message.status
    && mediaQualifies options message.attachment

/-- Whether the message goes to a peer, directly or as a member of its group. -/
def isAddressedTo (membersOf : Identity → List Identity) (peer : Identity)
    (message : MessageContent) : Bool :=
  message.peer = peer || message.group.any fun group => (membersOf group.id).contains peer

/-- The messages that a scan is about, oldest first. -/
def candidates (options : ScanOptions) (membersOf : Identity → List Identity)
    (messages : List Message) : List Message :=
  let picked := messages.filter fun m =>
    isCandidate options m.toMessageContent
      && options.peer.all fun peer => isAddressedTo membersOf peer m.toMessageContent
  picked.mergeSort fun a b => a.id.val ≤ b.id.val

/-- Whether the message belongs to a group without members. -/
def isForNobody (membersOf : Identity → List Identity) (message : MessageContent) : Bool :=
  message.group.any fun group => (membersOf group.id).isEmpty

/-- The decision about a message that nothing holds back. -/
def decideFree (uploadAvailable : Bool) (membersOf : Identity → List Identity)
    (message : MessageContent) : Decision :=
  if isForNobody membersOf message then
    if message.thread.isNone then .delete else .skip .emptyGroup
  else if message.needsUpload then
    if uploadAvailable then .upload else .skip .awaitingUploadService
  else .send

/-- Whether the message holds back what comes after it in its thread. -/
def stalls (message : MessageContent) : Bool :=
  message.isGroupCommand && !message.thread.isNone

/-- The decisions about messages in order, given the threads that are held back. -/
def decisions (uploadAvailable : Bool) (membersOf : Identity → List Identity) :
    List ThreadId → List Message → List (MessageId × Decision)
  | _, [] => []
  | stalled, message :: rest =>
    if stalled.contains message.thread then
      (message.id, .skip .stalled) :: decisions uploadAvailable membersOf stalled rest
    else
      let stalled := if stalls message.toMessageContent then message.thread :: stalled else stalled
      (message.id, decideFree uploadAvailable membersOf message.toMessageContent)
        :: decisions uploadAvailable membersOf stalled rest

end Scan

namespace Plan

/-- What is dispatched about a message, if anything is. -/
def dispatchOf? : MessageId × Decision → Option Dispatch
  | (id, .send) => some (.send id)
  | (id, .upload) => some (.upload id)
  | _ => none

def skipOf? : MessageId × Decision → Option (MessageId × SkipReason)
  | (id, .skip reason) => some (id, reason)
  | _ => none

def deleteOf? : MessageId × Decision → Option MessageId
  | (id, .delete) => some id
  | _ => none

/-- Sorts decisions into a plan. -/
def ofDecisions (decisions : List (MessageId × Decision)) : Plan where
  dispatch := decisions.filterMap dispatchOf?
  skipped := decisions.filterMap skipOf?
  delete := decisions.filterMap deleteOf?

end Plan

/-- Plans a scan over some messages. -/
def planScan (messages : List Message) (options : ScanOptions) (uploadAvailable : Bool)
    (membersOf : Identity → List Identity) : Plan :=
  .ofDecisions
    (Scan.decisions uploadAvailable membersOf [] (Scan.candidates options membersOf messages))

end Messenger

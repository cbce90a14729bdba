/-
# What the outbox does, move by move

Whatever it is asked, the outbox does one of a few things at a time: it writes to the store, posts
a message under the next name, starts a message over, makes the first attempt for a message when it is
new or when its file is prepared, scans, sends a message whose file is uploaded, publishes some other
event, or notes how the connection is.
A `Move` is one of these as data, `make` is what it does, and `Fits` is what the program has made
sure of when it does it:

    new messages       composed in a thread, a command to its group, or received   (`Drafted`)
    rows written over  a later state, a file with an address or a preview          (`Revised`)

A `Walk` is a sequence of moves that fit.  An invariant of the outbox has to be shown of the moves
only.
-/
import Messenger.Proofs.Store.Writes
import Messenger.Outbox.Service

namespace Messenger

/-- The file of the message, if it has one, is on the server. -/
def MessageContent.Ready (message : MessageContent) : Prop :=
  ∀ attachment ∈ message.attachment, attachment.remote.isSome

/-- The message is composed as its thread has it, a file being on this device; the rest of it is
free. -/
structure MessageContent.ComposedIn (content : MessageContent) (thread : Thread)
    (group : Option GroupRef) : Prop where
  thread_eq : content.thread = thread.id
  peer_eq : content.peer = thread.peer
  direction_eq : content.direction = .outgoing
  status_eq : content.status = if thread.requestStatus = .waitingReply then .pending else .sending
  group_eq : content.group = group
  plain : content.groupCommand = none
  file : ∀ attachment ∈ content.attachment, attachment.localPath.isSome

/-- A message as it is stored for the first time. -/
inductive Drafted (store : Store) (content : MessageContent) : Prop
  | composed (id : ThreadId) (thread : Thread) (group : Option GroupRef)
      (found : store.threads.get? id = some thread)
      (known : ∀ ref ∈ group, ∃ stored,
        store.group? thread.peer = some stored ∧ ref = ⟨stored.id, stored.owner⟩)
      (composed : content.ComposedIn thread group)
  | command (group : Group) (thread : Thread) (command : GroupCommand) (name : String) (now : Int)
      (found : store.threadForPeer? group.id = some thread) (thread_eq : group.thread = thread.id)
      (content_eq : content = Outbox.commandMessage group command name now)
  | received (peer : Identity) (thread : Thread) (name : String)
      (found : store.threadForPeer? peer = some thread) (thread_eq : content.thread = thread.id)
      (direction_eq : content.direction = .incoming) (name_eq : content.serverId = some name)
      (fresh : store.messageByServerId? .incoming name = none)
      (free : content.status ≠ .pending)

/-- A new message of ours waits for review or is on its way. -/
theorem Drafted.status_eq {store : Store} {content : MessageContent} (drafted : Drafted store content)
    (outgoing : content.direction = .outgoing) :
    content.status = .pending ∨ content.status = .sending := by
  cases drafted with
  | composed id thread group found known composed =>
    rw [composed.status_eq]
    split
    · exact Or.inl rfl
    · exact Or.inr rfl
  | command group thread command name now found thread_eq content_eq =>
    rw [content_eq]
    exact Or.inr rfl
  | received peer thread name found thread_eq direction_eq =>
    rw [direction_eq] at outgoing
    cases outgoing

theorem Drafted.unhanded {store : Store} {content : MessageContent} (drafted : Drafted store content)
    (outgoing : content.direction = .outgoing) : content.status.isHandedOver = false := by
  rcases drafted.status_eq outgoing with waits | sends
  · rw [waits]
    rfl
  · rw [sends]
    rfl

/-- The states to which acknowledgements move a message. -/
def Status.acknowledging : List Status := [.sent, .received, .error, .confirmed]

/-- A row that is written over another. -/
inductive Revised (old : Message) : Message → Prop
  | advanced (status : Status) (now : Int) (mem : status ∈ Status.acknowledging)
      (further : old.status.advancesTo status) :
      Revised old { old with status, statusChanged := now }
  | uploaded (attachment : Attachment) (remote : String) (found : old.attachment = some attachment) :
      Revised old { old with attachment := some { attachment with remote := some remote } }
  | prepared (preview : Option String) (length : Nat) :
      Revised old { old with attachment := old.attachment.map (Outbox.prepared preview length) }

/-- The writes that the outbox makes. -/
def Write.Ours (store : Store) : Write → Prop
  | insertMessage content => Drafted store content ∧ content.direction = .incoming
  | updateMessage message =>
    ∃ old, store.messages.get? message.id = some old ∧ Revised old message
  | updateStatuses ids status _ =>
    status = .sending ∧
      ∀ id ∈ ids, ∀ message, store.message? id = some message → message.status = .pending
  | ensureThread _ _ | setRequestStatus _ _ | saveGroup _ | markRegistered _ => True
  | _ => False

/-- A look-up of members as a scan over some messages uses it. -/
def Store.membersFor (store : Store) (messages : List Message) : Identity → List Identity :=
  if messages.any (·.group.isSome) then store.liveMembersOf else fun _ => []

namespace Outbox

/-- What a scan decides. -/
def plan (outbox : Outbox) (options : ScanOptions) : Plan :=
  planScan (outbox.store.queryMessages unsent) options outbox.uploadService
    (outbox.store.membersFor (outbox.store.queryMessages unsent))

/-- What the first attempt for a message hands over, if anything. -/
def firstAttempt (outbox : Outbox) (message : Message) : Option Dispatch :=
  if message.status = .pending then none
  else if !message.thread.isNone && outbox.store.isHeldBack message then none
  else if message.needsUpload then
    if outbox.uploadService then some (.upload message.id) else none
  else some (.send message.id)

/-- The publication of an event now. -/
def publication (outbox : Outbox) (event : Event) : Publication := ⟨event, outbox.store⟩

end Outbox

/-- Something that the outbox does. -/
inductive Move where
  | write (entry : Write)
  | post (content : MessageContent)
  | restart (id : MessageId) (now : Int)
  | attempt (id : MessageId)
  | resume (id : MessageId)
  | scan (options : ScanOptions)
  | complete (id : MessageId)
  | announce (event : Event)
  | connect (connected : Bool)
  | serve (uploadService : Bool)

/-- The message that an event asks to send, or whose file it asks to upload. -/
def Event.subject? : Event → Option MessageId
  | .sendMessageRequest id | .uploadAttachmentRequest id => some id
  | _ => none

/-- The message whose file an event asks to prepare. -/
def Event.media? : Event → Option MessageId
  | .prepareMediaRequest id _ => some id
  | _ => none

/-- The message whose row an event is about. -/
def Event.revised? : Event → Option MessageId
  | .messageSent id | .messageDelivered id | .messageFailed id | .deliveryReceiptSent id
  | .uploadCompleted id _ | .mediaPrepared id _ _ => some id
  | _ => none

/-- The state of a message when it arrives: whether a receipt is owed for it. -/
def InboundMessage.arrivalStatus (inbound : InboundMessage) : Status :=
  if inbound.requestReceipt then .received else .incoming

/-- The message is stored, and is one of ours. -/
def Store.HoldsOurs (store : Store) (id : MessageId) : Prop :=
  ∃ message, store.message? id = some message ∧ message.direction = .outgoing

/-- The message is stored, and was not handed over. -/
structure Store.HoldsOpen (store : Store) (message : Message) : Prop where
  stored : store.message? message.id = some message
  unhanded : message.status.isHandedOver = false

namespace Move

/-- What a move leaves and what it publishes. -/
def make (outbox : Outbox) : Move → Outbox × List Publication
  | write entry => ({ outbox with store := entry.after outbox.store }, [])
  | post content =>
    ({ outbox with
        store := (outbox.store.insertMessage content).store
        issued := outbox.issued + 1 }, [])
  | restart id now =>
    ({ outbox with store := (outbox.store.updateStatuses [id] .sending now).store }, [])
  | attempt id | resume id =>
    (outbox, ((outbox.store.message? id).bind outbox.firstAttempt).toList.map fun dispatch =>
      outbox.publication dispatch.event)
  | scan options =>
    let plan := outbox.plan options
    ({ outbox with
        store := if plan.delete.isEmpty then outbox.store
          else (outbox.store.deleteMessages plan.delete).store },
      plan.dispatch.map fun dispatch => outbox.publication dispatch.event)
  | complete id => (outbox, [outbox.publication (.sendMessageRequest id)])
  | announce event => (outbox, [outbox.publication event])
  | connect connected => ({ outbox with connected }, [])
  | serve uploadService => ({ outbox with uploadService }, [])

/-- A move that any input may cause. -/
def isBasic : Move → Bool
  | restart _ _ | resume _ | scan _ | complete _ | serve _ => false
  | write (.insertMessage _) | write (.updateMessage _) => false
  | write (.setRequestStatus _ status) => status ≠ .waitingReply
  | _ => true

/-- What has been made sure of before a move. -/
def Fits (host : Host) (outbox : Outbox) : Move → Prop
  | write entry => entry.Ours outbox.store
  | post content => Drafted outbox.store content ∧ content.direction = .outgoing ∧
    content.serverId = some (host.serverId outbox.issued)
  | attempt id =>
    ∃ message, outbox.store.HoldsOpen message ∧ message.id = id ∧ message.direction = .outgoing
  | resume id => ∃ message, outbox.store.HoldsOpen message ∧ message.id = id
  | complete id => ∃ message, outbox.store.message? id = some message ∧
    message.attachment.isSome ∧ message.Ready
  | announce event => event.subject? = none ∧ ∀ id ∈ event.media?, outbox.store.HoldsOurs id
  | _ => True

end Move

/-- Moves of one kind, one after the other, with all that is published. -/
inductive Walk (host : Host) (kind : Move → Prop) : Outbox → List Publication → Outbox → Prop
  | refl (outbox : Outbox) : Walk host kind outbox [] outbox
  | move {first last : Outbox} {publications : List Publication} (move : Move)
      (before : Walk host kind first publications last) (allowed : kind move)
      (fits : move.Fits host last) :
      Walk host kind first (publications ++ (move.make last).2) (move.make last).1

namespace Walk

variable {host : Host} {kind : Move → Prop} {first middle last : Outbox} {one two : List Publication}

theorem trans (before : Walk host kind first one middle) (after : Walk host kind middle two last) :
    Walk host kind first (one ++ two) last := by
  induction after with
  | refl => simpa using before
  | move move _ allowed fits ih =>
    rw [← List.append_assoc]
    exact ih.move move allowed fits

theorem keeps {holds : Outbox → Prop} (walk : Walk host kind first one last) (start : holds first)
    (step : ∀ outbox move,
      holds outbox → kind move → move.Fits host outbox → holds (move.make outbox).1) :
    holds last := by
  induction walk with
  | refl => exact start
  | move move _ allowed fits ih => exact step _ _ ih allowed fits

theorem publications {holds : Outbox → Prop} {good : Publication → Prop}
    (walk : Walk host kind first one last) (start : holds first)
    (step : ∀ outbox move, holds outbox → kind move → move.Fits host outbox →
      holds (move.make outbox).1 ∧ ∀ publication ∈ (move.make outbox).2, good publication) :
    ∀ publication ∈ one, good publication := by
  induction walk with
  | refl => exact fun _ mem => nomatch mem
  | move move before allowed fits ih =>
    intro publication mem
    have here := before.keeps start fun outbox move holds allowed fits =>
      (step outbox move holds allowed fits).1
    rcases List.mem_append.1 mem with mem | mem
    · exact ih publication mem
    · exact (step _ _ here allowed fits).2 publication mem

end Walk

end Messenger

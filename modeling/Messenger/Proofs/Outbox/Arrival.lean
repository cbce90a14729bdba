/-
# An arriving message

A message whose name is known is dropped, and nothing at all happens (`on_incoming_known`).  Any other
is stored, and what is done about it is one equation (`on_incoming`), made of

    Store.opened    the thread of its conversation
    Store.taken     its row, in that thread
    learned         the group or the contact that it tells of
    requested       the events for its file and its receipt
    summons         the signal to the person at the device

Of the store it only asks that names are looked up, threads are opened and rows are written
(`Host.Takes`).  A group that cannot be read or written, or a contact that cannot be marked, leaves the
rest as it is.
-/
import Messenger.Proofs.Group.Kicked
import Messenger.Proofs.Outbox.Runs
import Messenger.Proofs.Store.Rows
import Messenger.Proofs.Store.Writes

namespace Messenger

open Outbox

/-- The store does what an arriving message cannot do without. -/
structure Host.Takes (host : Host) : Prop where
  named : host.fault .messageByServerId = none
  opened : host.fault .ensureThread = none
  inserted : host.fault .insertMessage = none

theorem Host.Faultless.takes {host : Host} (faultless : host.Faultless) : host.Takes :=
  ⟨faultless _, faultless _, faultless _⟩

namespace Store

/-- The number of the message that a name quotes, as the index has it. -/
def quoted? (store : Store) (name : String) : Option MessageId :=
  ((store.messageByServerId? .outgoing name).or (store.messageByServerId? .incoming name)).map (·.id)

/-- The thread that takes an arriving message, made if there is none. -/
def opened (store : Store) (inbound : InboundMessage) : Committed Thread :=
  store.ensureThread (conversationOf inbound).1 (conversationOf inbound).2

/-- An arriving message as it is stored, when its body is this. -/
def taken (store : Store) (inbound : InboundMessage) (body : Octets × Bool) : Committed Message :=
  (store.opened inbound).store.insertMessage (receivedContent inbound (store.opened inbound).value.id body
    (inbound.inReplyTo.bind store.quoted?))

theorem message?_taken (store : Store) (inbound : InboundMessage) (body : Octets × Bool) (id : MessageId) :
    (store.taken inbound body).store.message? id =
      if id = (store.taken inbound body).value.id then some (store.taken inbound body).value
      else store.message? id := by
  have messages : (store.opened inbound).store.messages = store.messages := by
    rw [opened, ensureThread_store]
    split <;> rfl
  rw [message?, taken, insertMessage_messages, Table.get?_put, messages]
  rfl

end Store

namespace Outbox

open Messenger.Action

variable {host : Host} {inbound : InboundMessage} {store : Store} {run : Run}

/-! ## What is learned -/

/-- What a stored message leaves of a group or of a contact: what it says, if the store allows. -/
def learned (host : Host) (inbound : InboundMessage) (thread : ThreadId) (store : Store) :
    Committed Unit :=
  match inbound.group with
  | some group =>
    let arrival : GroupArrival := ⟨host, group, inbound.sender, thread⟩
    if arrival.Heard then
      store.saveGroup (arrival.row host.settings.selfIdentity (store.group? group.id))
    else ⟨(), store, []⟩
  | none =>
    if host.fault .markRegistered = none then
      ⟨(), (store.markRegistered inbound.sender).store, (store.markRegistered inbound.sender).changes⟩
    else ⟨(), store, []⟩

theorem on_learnFrom (thread : ThreadId) : (learnFrom inbound thread).on host run =
    .ok () { run with
      store := (learned host inbound thread run.store).store
      changes := run.changes ++ (learned host inbound thread run.store).changes } := by
  rw [learnFrom, learned]
  cases inbound.group with
  | some group =>
    have ran := on_applyInboundGroup ⟨host, group, inbound.sender, thread⟩ run
    dsimp only at ran ⊢
    rw [on_attempt]
    split at ran
    case isTrue heard =>
      rw [ran, if_pos heard]
      rfl
    case isFalse missed =>
      obtain ⟨failure, ran⟩ := ran
      rw [ran, if_neg missed]
      simp only [List.append_nil]
  | none =>
    dsimp only
    rw [on_attempt]
    cases fault : host.fault .markRegistered with
    | none => rw [on_commit_of_works fault, if_pos rfl]
    | some failure =>
      rw [on_commit_of_fault fault, if_neg (Option.some_ne_none failure)]
      simp only [List.append_nil]

theorem learned_messages (thread : ThreadId) :
    (learned host inbound thread store).store.messages = store.messages := by
  rw [learned]
  cases inbound.group with
  | some group =>
    dsimp only
    split <;> rfl
  | none =>
    dsimp only
    split
    · obtain ⟨contacts, eq⟩ := store.markRegistered_store inbound.sender
      rw [eq]
    · rfl

/-! ## What comes out -/

/-- The file of an arriving message is asked for if it is small enough to be fetched unasked. -/
def fetched (host : Host) (inbound : InboundMessage) (id : MessageId) : List Event :=
  (inbound.attachment.toList.filter fun file => host.settings.canAutoDownload file.length).map fun file =>
    .downloadAttachmentRequest id file.url

/-- What is asked for on the arrival of a message: its file, and the receipt that its sender wants. -/
def requested (host : Host) (inbound : InboundMessage) (id : MessageId) : List Event :=
  fetched host inbound id ++ if inbound.requestReceipt then [.sendDeliveryReceiptRequest id] else []

/-- How the person at the device is told: by a sound if the conversation is paused, and by a note
about the thread if it is not.  Of the commands only those that make or leave a group are told. -/
def summons (host : Host) (inbound : InboundMessage) (thread : ThreadId) : List Signal :=
  let peer := (conversationOf inbound).1
  if ∀ command ∈ inbound.groupCommand, command.isCreate ∨ command.isPart then
    [.askPaused peer, if host.paused peer then .playIncomingSound else .updateNotifications thread]
  else []

theorem on_fetchAttachment (id : MessageId) : (fetchAttachment inbound id).on host run =
    .ok () { run with publications :=
      run.publications ++ (fetched host inbound id).map fun event => ⟨event, run.store⟩ } := by
  rw [fetchAttachment, fetched]
  cases inbound.attachment with
  | none => simp
  | some file =>
    dsimp only
    rw [on_bind, on_read]
    dsimp only
    cases fits : host.settings.canAutoDownload file.length <;> simp [fits]

theorem on_notify (peer : Identity) (thread : ThreadId) : (notify peer thread).on host run =
    .ok () { run with signals := run.signals ++ [.askPaused peer,
      if host.paused peer then .playIncomingSound else .updateNotifications thread] } := by
  rw [notify, on_bind, on_signal]
  dsimp only
  rw [on_bind, on_read]
  dsimp only
  by_cases paused : host.paused peer <;> simp [paused]

theorem on_summons (thread : ThreadId) (answer : α) :
    (if isNotable inbound then do
        notify (conversationOf inbound).1 thread
        return answer
      else return answer : Action α).on host run =
      .ok answer { run with signals := run.signals ++ summons host inbound thread } := by
  have notable : isNotable inbound ↔
      ∀ command ∈ inbound.groupCommand, command.isCreate ∨ command.isPart := by
    rw [isNotable]
    cases inbound.groupCommand <;> simp
  rw [summons, on_ite]
  by_cases told : ∀ command ∈ inbound.groupCommand, command.isCreate ∨ command.isPart
  · rw [if_pos (notable.2 told), if_pos told, on_bind, on_notify]
    rfl
  · rw [if_neg fun yes => told (notable.1 yes), if_neg told, on_pure, List.append_nil]

theorem on_replyTarget (works : host.fault .messageByServerId = none) (name : String) :
    (replyTarget name).on host run = .ok (run.store.quoted? name) run := by
  rw [replyTarget, on_bind, on_look_of_works works, Store.quoted?]
  dsimp only
  cases run.store.messageByServerId? .outgoing name with
  | some message => rfl
  | none =>
    dsimp only
    rw [on_bind, on_look_of_works works]
    rfl

theorem on_incoming_known (takes : host.Takes)
    (known : (run.store.messageByServerId? .incoming inbound.serverId).isSome) :
    (incoming inbound).on host run = .ok none run := by
  rw [incoming, on_bind, on_look_of_works takes.named]
  dsimp only
  rw [if_pos known]
  rfl

/-- Everything that is done about a message that is new. -/
theorem on_incoming (takes : host.Takes)
    (unknown : run.store.messageByServerId? .incoming inbound.serverId = none) :
    let opened := run.store.opened inbound
    let taken := run.store.taken inbound (readable host.cipher inbound)
    let learned := learned host inbound opened.value.id taken.store
    let last : Run := { run with
      store := learned.store
      publications := run.publications ++
        (requested host inbound taken.value.id).map fun event => ⟨event, learned.store⟩
      changes := run.changes ++ opened.changes ++ taken.changes ++ learned.changes
      signals := run.signals ++ summons host inbound opened.value.id }
    (incoming inbound).on host run = .ok (some taken.value.id) last := by
  intro opened taken learned last
  have names : opened.store.messageByServerId? = run.store.messageByServerId? :=
    run.store.messageByServerId?_ensureThread _ _
  -- what is done after the quoted message has been looked up
  have rest : (do
      let content := receivedContent inbound opened.value.id (readable host.cipher inbound)
        (inbound.inReplyTo.bind run.store.quoted?)
      let message ← commit .insertMessage (·.insertMessage content)
      learnFrom inbound opened.value.id
      fetchAttachment inbound message.id
      if inbound.requestReceipt then publish (.sendDeliveryReceiptRequest message.id)
      if isNotable inbound then notify (conversationOf inbound).1 opened.value.id
      return some message.id : Action (Option MessageId)).on host
        { run with store := opened.store, changes := run.changes ++ opened.changes } =
      .ok (some taken.value.id) last := by
    dsimp only [last]
    rw [on_bind, on_commit_of_works takes.inserted]
    dsimp only
    rw [on_bind, on_learnFrom]
    dsimp only
    rw [on_bind, on_fetchAttachment]
    dsimp only
    rw [on_ite, requested, List.map_append, ← List.append_assoc]
    split
    · rw [on_bind, on_publish]
      dsimp only
      rw [on_summons]
      rfl
    · rw [on_summons, List.map_nil, List.append_nil]
      rfl
  rw [incoming, on_bind, on_look_of_works takes.named, unknown]
  dsimp only
  rw [Option.isSome_none, if_neg Bool.false_ne_true, on_bind, on_read]
  dsimp only
  rw [on_bind, on_commit_of_works takes.opened]
  dsimp only
  cases quoting : inbound.inReplyTo with
  | none =>
    rw [quoting] at rest
    exact rest
  | some name =>
    have quoted : opened.store.quoted? name = run.store.quoted? name := by
      rw [Store.quoted?, Store.quoted?, names]
    rw [quoting, Option.bind_some, ← quoted] at rest
    dsimp only
    rw [on_bind, on_replyTarget takes.named]
    exact rest

/-- What is left by a message that is new. -/
theorem request_new {outbox : Outbox} (takes : host.Takes)
    (unknown : outbox.store.messageByServerId? .incoming inbound.serverId = none) :
    let opened := outbox.store.opened inbound
    let taken := outbox.store.taken inbound (readable host.cipher inbound)
    let learned := learned host inbound opened.value.id taken.store
    { outbox : Service }.request host (.incoming inbound) =
      ⟨.ok (.arrived (some taken.value.id)), { outbox with store := learned.store },
        (requested host inbound taken.value.id).map fun event => ⟨event, learned.store⟩,
        opened.changes ++ taken.changes ++ learned.changes, summons host inbound opened.value.id⟩ := by
  intro opened taken learned
  have performed : (perform (.incoming inbound)).on host { outbox with } = .ok
      (.arrived (some taken.value.id)) { outbox with
        store := learned.store
        publications := [] ++
          (requested host inbound taken.value.id).map fun event => ⟨event, learned.store⟩
        changes := [] ++ opened.changes ++ taken.changes ++ learned.changes
        signals := [] ++ summons host inbound opened.value.id } := by
    show (Answer.arrived <$> incoming inbound).on host { outbox with } = _
    rw [on_map, on_incoming takes unknown]
  exact run_of_ok performed

end Outbox

end Messenger

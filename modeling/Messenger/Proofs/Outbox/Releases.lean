/-
# What an acknowledged command releases

While a group command waits for its answer it holds back what comes after it in its thread.  When the
answer comes, what waited for this command alone can go:

    it was sent         a scan for the peer of the command sends exactly that      (`Sendable`, `ClearBut`)
    it was delivered    nothing is handed over

The second line is a gap.  A command that was delivered was sent before, and usually that was said
before; but the two come from different sides, and when the word of delivery is the first to come, the
word of sending finds nothing to bring further and is dropped.  Then nothing releases what the command
held back, until some other scan comes along (`released_iff`).

What a scan for messages sends is told without the scan: what is open, needs no upload, has somebody
to go to, and no command before it (`send_mem_plan_iff`); and a scan about the peer of a message is as
good as one about all (`send_mem_plan_about`).
-/
import Messenger.Proofs.Outbox.Filters
import Messenger.Proofs.Outbox.FirstAttempts
import Messenger.Proofs.Outbox.States

namespace Messenger

/-! ## What a scan for messages sends -/

/-- Nothing about the message itself keeps it from being sent. -/
structure Store.Sendable (store : Store) (message : MessageContent) : Prop where
  status : message.status ∈ [Status.sending, .error, .notAccepted]
  uploaded : message.needsUpload = false
  somebody : ∀ group ∈ message.group, store.liveMembersOf group.id ≠ []

instance (store : Store) (message : MessageContent) : Decidable (store.Sendable message) :=
  decidable_of_iff (message.status ∈ [Status.sending, .error, .notAccepted] ∧
      message.needsUpload = false ∧ ∀ group ∈ message.group, store.liveMembersOf group.id ≠ [])
    ⟨fun ⟨status, uploaded, somebody⟩ => ⟨status, uploaded, somebody⟩,
      fun ⟨status, uploaded, somebody⟩ => ⟨status, uploaded, somebody⟩⟩

theorem Scan.statusQualifies_iff {status : Status} :
    statusQualifies {} status ↔ status ∈ [Status.sending, .error, .notAccepted] := by
  cases status <;> decide

theorem Scan.verdict_eq_send_iff {uploadAvailable : Bool} {membersOf : Identity → List Identity}
    {sought : List Message} {message : Message} :
    verdict uploadAvailable membersOf sought message = .send ↔ ¬HeldBack sought message ∧
      ¬Vacant membersOf message.toMessageContent ∧ message.needsUpload = false := by
  rw [← Bool.not_eq_true, needsUpload_iff]
  unfold verdict
  by_cases held : HeldBack sought message
  · simp [held]
  by_cases vacant : Vacant membersOf message.toMessageContent
  · by_cases outside : message.thread = .none <;> simp [held, vacant, outside]
  by_cases file : FileHere message.toMessageContent
  · cases uploadAvailable <;> simp [held, vacant, file]
  · simp [held, vacant, file]

theorem Store.not_vacant_iff {store : Store} {message : MessageContent} :
    ¬Scan.Vacant store.liveMembersOf message ↔
      ∀ group ∈ message.group, store.liveMembersOf group.id ≠ [] := by
  simp [Scan.Vacant]

namespace Outbox

section
variable {outbox : Outbox} (coherent : outbox.store.Coherent) {message : Message}
  (stored : outbox.store.message? message.id = some message)
  (outgoing : message.direction = .outgoing)
include coherent stored outgoing

/-- A scan for messages sends what can be sent and is not behind a command. -/
theorem send_mem_plan_iff : .send message.id ∈ (outbox.plan {}).dispatch ↔
    outbox.store.Sendable message.toMessageContent ∧ outbox.store.Clear message := by
  have listed : message ∈ outbox.store.messages.values := coherent.tidy.mem_messages.2 stored
  have posted := coherent.posted stored outgoing
  have puts : (outbox.plan {}).Puts message.id .send ↔ message ∈ outbox.sought {} ∧ _ :=
    plan_eq_wholePlan outbox {} ▸ puts_wholePlan coherent.tidy.messages listed
  refine puts.trans ?_
  rw [Scan.verdict_eq_send_iff, Store.not_vacant_iff]
  constructor
  · rintro ⟨sought, free, somebody, uploaded⟩
    have status := (sought_of_ready listed outgoing (posted.ready uploaded)).1 sought
    exact ⟨⟨Scan.statusQualifies_iff.1 status, uploaded, somebody⟩,
      (clear_iff_not_heldBack coherent sought).2 free⟩
  · rintro ⟨⟨status, uploaded, somebody⟩, clear⟩
    have sought : message ∈ outbox.sought {} :=
      (sought_of_ready listed outgoing (posted.ready uploaded)).2 (Scan.statusQualifies_iff.2 status)
    exact ⟨sought, (clear_iff_not_heldBack coherent sought).1 clear, somebody, uploaded⟩

omit outgoing in
theorem send_mem_plan_about {peer : Identity} (own : message.peer = peer) :
    .send message.id ∈ (outbox.plan (.forPeer peer)).dispatch ↔
      .send message.id ∈ (outbox.plan {}).dispatch := by
  have concerned : outbox.store.Concerns peer message.id := ⟨message, stored, Or.inl own⟩
  have about : outbox.wholePlan (.forPeer peer) =
      (outbox.wholePlan {}).only fun id => outbox.store.Concerns peer id :=
    wholePlan_about coherent {} peer
  rw [plan_eq_wholePlan, plan_eq_wholePlan, about]
  show Dispatch.send message.id ∈ List.filter _ _ ↔ _
  rw [List.mem_filter]
  exact and_iff_left (decide_eq_true concerned)

end

theorem exists_publication_iff {outbox : Outbox} {plan : Plan} (dispatch : Dispatch) :
    (∃ publication ∈ plan.dispatch.map fun dispatch => outbox.publication dispatch.event,
      publication.event = dispatch.event) ↔ dispatch ∈ plan.dispatch := by
  constructor
  · rintro ⟨publication, mem, asks⟩
    obtain ⟨other, planned, rfl⟩ := List.mem_map.1 mem
    cases dispatch <;> cases other <;> cases asks
    · exact planned
    · exact planned
  · intro planned
    exact ⟨_, List.mem_map_of_mem planned, rfl⟩

end Outbox

/-! ## One command less -/

namespace Store

/-- No other group command that comes earlier in the thread waits for its answer. -/
def ClearBut (store : Store) (command message : Message) : Prop :=
  ∀ earlier ∈ store.messages.values, earlier.direction = .outgoing → earlier.thread = message.thread →
    earlier.id.val < message.id.val → earlier.isGroupCommand → earlier.id ≠ command.id →
      earlier.status.isAcknowledged

instance (store : Store) (command message : Message) : Decidable (store.ClearBut command message) :=
  inferInstanceAs (Decidable (∀ earlier ∈ store.messages.values, _))

variable {store : Store}

theorem groups_revise (coherent : store.Coherent) {row old : Message}
    (found : store.message? row.id = some old) (revised : Revised old row) :
    (store.revise (some row)).groups = store.groups := by
  have home : row.thread = old.thread := by cases revised <;> rfl
  show ((Write.updateMessage row).after store).groups = _
  unfold Write.after
  cases done : (Write.updateMessage row).perform store with
  | error failure => rfl
  | ok committed =>
    have same : store.SameThreads (·.peer) committed.store :=
      .updateMessage (fun _ _ _ => rfl) coherent.tidy found home done
    exact same.groups

/-- When a command is acknowledged, what is clear is what was clear but for the command. -/
theorem clear_revise (coherent : store.Coherent) {row command : Message}
    (found : store.message? row.id = some command) (revised : Revised command row)
    (acknowledged : row.status.isAcknowledged) (message : Message) :
    (store.revise (some row)).Clear message ↔ store.ClearBut command message := by
  have own : command.id = row.id := coherent.tidy.messages.key_eq found
  have left : (store.revise (some row)).Coherent := coherent.updateMessage found revised
  have rows (id : MessageId) : (store.revise (some row)).message? id =
      if id = row.id then some row else store.message? id :=
    message?_revise (Table.has_iff.2 ⟨command, found⟩) id
  constructor
  · intro clear earlier listed outgoing home below carries differ
    have stored : store.message? earlier.id = some earlier := coherent.tidy.mem_messages.1 listed
    refine clear earlier (left.tidy.mem_messages.2 ?_) outgoing home below carries
    exact (rows earlier.id).trans ((if_neg (own ▸ differ)).trans stored)
  · intro clear earlier listed outgoing home below carries
    have stored : (store.revise (some row)).message? earlier.id = some earlier :=
      left.tidy.mem_messages.1 listed
    rw [rows] at stored
    split at stored
    · cases stored
      exact acknowledged
    case isFalse differ =>
      exact clear earlier (coherent.tidy.mem_messages.2 stored) outgoing home below carries (own ▸ differ)

end Store

/-! ## Acknowledgements of commands -/

namespace Outbox

open Messenger.Action

variable {outbox : Outbox} {host : Host}

theorem respond_messageSent (coherent : outbox.store.Coherent) (faultless : host.Faultless)
    (id : MessageId) : (outbox.respond host (.event (.messageSent id))).2 =
      (outbox.store.advanced? id .sent host.now).toList.flatMap
        { outbox with store := outbox.store.revise (outbox.store.advanced? id .sent host.now) }.released := by
  obtain ⟨next, ran, -, published⟩ := on_messageSent faultless { outbox with } coherent id
  have handled : (handle (.messageSent id)).on host { outbox with } = .ok () next := ran
  exact (congrArg Prod.snd (respond_handled rfl handled)).trans published

theorem respond_messageDelivered (coherent : outbox.store.Coherent) (faultless : host.Faultless)
    (id : MessageId) : (outbox.respond host (.event (.messageDelivered id))).2 = [] := by
  obtain ⟨next, ran, -, published⟩ :=
    on_advance faultless { outbox with } coherent.tidy.messages id .received
  have handled : (handle (.messageDelivered id)).on host { outbox with } = .ok () next := by
    rw [handle, on_discard, ran]
  exact (congrArg Prod.snd (respond_handled rfl handled)).trans published

section
variable (coherent : outbox.store.Coherent) {command : Message}
  (stored : outbox.store.message? command.id = some command)
include coherent stored

theorem advanced?_of_waiting (outgoing : command.direction = .outgoing)
    (carries : command.isGroupCommand) (waits : ¬command.status.isAcknowledged) {status : Status}
    (acknowledges : status.isAcknowledged) (mem : status ∈ Status.acknowledging) (now : Int) :
    outbox.store.advanced? command.id status now = some (command.inState status now) ∧
      Revised command (command.inState status now) := by
  have further : command.status.advancesTo status := by
    rcases (coherent.posted stored outgoing).waiting carries waits with waits | waits <;> rw [waits]
    all_goals
      revert acknowledges
      cases status <;> decide
  refine ⟨?_, .advanced status now mem further⟩
  rw [Store.advanced?, stored, Option.bind_some, if_pos further]
  rfl

/-- The scan after a command was sent sends what waited for this command alone. -/
theorem sends_released {row : Message} (own : row.id = command.id) (revised : Revised command row)
    (carries : row.isGroupCommand) (acknowledged : row.status.isAcknowledged)
    (outgoing : command.direction = .outgoing) {message : Message}
    (held : outbox.store.message? message.id = some message) (ours : message.direction = .outgoing)
    (home : message.thread = command.thread) (later : command.id.val < message.id.val) :
    (∃ publication ∈ { outbox with store := outbox.store.revise (some row) }.released row,
      publication.event = .sendMessageRequest message.id) ↔
      outbox.store.Sendable message.toMessageContent ∧ outbox.store.ClearBut command message := by
  let left : Outbox := { outbox with store := outbox.store.revise (some row) }
  have found : outbox.store.message? row.id = some command := own ▸ stored
  have coherent' : left.store.Coherent := coherent.updateMessage found revised
  have differ : message.id ≠ row.id := fun same => Int.lt_irrefl _ (own ▸ same ▸ later)
  have held' : left.store.message? message.id = some message :=
    (Store.message?_revise (Table.has_iff.2 ⟨command, found⟩) message.id).trans
      ((if_neg differ).trans held)
  have peer : message.peer = row.peer := by
    have posted := coherent.posted stored outgoing
    have posted' := coherent.posted held ours
    have same : row.peer = command.peer := by cases revised <;> rfl
    exact same ▸ Option.some.inj (posted'.peer.symm.trans (home ▸ posted.peer))
  have members : left.store.liveMembersOf = outbox.store.liveMembersOf := by
    funext id
    have groups : left.store.groups = outbox.store.groups := Store.groups_revise coherent found revised
    rw [Store.liveMembersOf, Store.liveMembersOf, Store.group?, Store.group?, groups]
  have sendable : left.store.Sendable message.toMessageContent ↔
      outbox.store.Sendable message.toMessageContent := by
    constructor
    · rintro ⟨status, uploaded, somebody⟩
      exact ⟨status, uploaded, members ▸ somebody⟩
    · rintro ⟨status, uploaded, somebody⟩
      exact ⟨status, uploaded, members.symm ▸ somebody⟩
  calc (∃ publication ∈ left.released row, publication.event = .sendMessageRequest message.id)
    _ ↔ .send message.id ∈ (left.plan (.forPeer row.peer)).dispatch := by
      rw [released, if_pos carries]
      exact exists_publication_iff (.send message.id)
    _ ↔ .send message.id ∈ (left.plan {}).dispatch := send_mem_plan_about coherent' held' peer
    _ ↔ left.store.Sendable message.toMessageContent ∧ left.store.Clear message :=
      send_mem_plan_iff coherent' held' ours
    _ ↔ outbox.store.Sendable message.toMessageContent ∧ outbox.store.ClearBut command message :=
      and_congr sendable (Store.clear_revise coherent found revised acknowledged message)

end

/-- In every life of the outbox, when a group command of ours that waits is acknowledged, a later message
of ours in its thread is asked to be sent if and only if the acknowledgement says that the command was
sent, the message can be sent, and no other command before it waits.  That the command was delivered
releases nothing; and if that comes first, nothing is released by what says that it was sent. -/
theorem released_iff {stimuli : List Stimulus}
    (faultless : ∀ stimulus ∈ stimuli, stimulus.host.Faultless) {host : Host} (here : host.Faultless)
    {command : Message} (stored : (play {} stimuli).1.store.message? command.id = some command)
    (outgoing : command.direction = .outgoing) (carries : command.isGroupCommand)
    (waits : ¬command.status.isAcknowledged) {event : Event}
    (acks : event = .messageSent command.id ∨ event = .messageDelivered command.id)
    {message : Message} (held : (play {} stimuli).1.store.message? message.id = some message)
    (ours : message.direction = .outgoing) (home : message.thread = command.thread)
    (later : command.id.val < message.id.val) :
    let before := (play {} stimuli).1
    let response := before.respond host (.event event)
    (response.1.store.message? command.id).any (·.status.isAcknowledged) ∧
    ((∃ publication ∈ response.2, publication.event = .sendMessageRequest message.id) ↔
      event = .messageSent command.id ∧ before.store.Sendable message.toMessageContent ∧
        before.store.ClearBut command message) ∧
    (event = .messageDelivered command.id → ∀ late : Host, late.Faultless →
      (response.1.respond late (.event (.messageSent command.id))).2 = []) := by
  intro before response
  have coherent : before.store.Coherent := coherent_play .empty faultless
  have row (status : Status) : (before.store.revise (some (command.inState status host.now))).message?
      command.id = some (command.inState status host.now) := by
    have found : before.store.messages.has (command.inState status host.now).id :=
      Table.has_iff.2 ⟨command, stored⟩
    exact (Store.message?_revise found command.id).trans (if_pos rfl)
  rcases acks with rfl | rfl
  · obtain ⟨written, revised⟩ := advanced?_of_waiting coherent stored outgoing carries waits
      (rfl : Status.sent.isAcknowledged) (by decide) host.now
    have left : response.1 = _ := respond_revising here coherent rfl
    have published : response.2 = _ := respond_messageSent coherent here command.id
    rw [Store.revision?, written] at left
    rw [written, Option.toList_some, List.flatMap_singleton] at published
    refine ⟨?_, ?_, nofun⟩
    · rw [left, row]
      rfl
    · have own : (command.inState .sent host.now).id = command.id := rfl
      rw [published, eq_self, true_and]
      exact sends_released coherent stored own revised carries rfl outgoing held ours home later
  · obtain ⟨written, -⟩ := advanced?_of_waiting coherent stored outgoing carries waits
      (rfl : Status.received.isAcknowledged) (by decide) host.now
    have left : response.1 = _ := respond_revising here coherent rfl
    have published : response.2 = [] := respond_messageDelivered coherent here command.id
    rw [Store.revision?, written] at left
    refine ⟨?_, ?_, fun _ late faultless' => ?_⟩
    · rw [left, row]
      rfl
    · rw [published]
      exact iff_of_false (fun ⟨_, mem, _⟩ => List.not_mem_nil mem) fun both => nomatch both.1
    · -- what was delivered is further than what was sent
      have still : response.1.store.Coherent := coherent_respond coherent here _
      have unwritten : response.1.store.advanced? command.id .sent late.now = none := by
        rw [left, Store.advanced?, row]
        rfl
      rw [respond_messageSent still faultless', unwritten]
      rfl

/-- A group is made and written to; the text goes when the command was sent, and stays when it was only
delivered. -/
theorem released_iff_overtaken :
    let host : Host := { settings := { selfIdentity := some ⟨"me@x"⟩ }, serverId := toString }
    let inputs : List Input := [.request (.createGroup ⟨"g@x"⟩ [⟨"a@x"⟩] none),
      .request (.sendText ⟨1⟩ "hello" none)]
    let stimuli := inputs.map (Stimulus.mk host)
    let before := (play {} stimuli).1
    let sends (event : Event) := ∃ publication ∈ (before.respond host (.event event)).2,
      publication.event = .sendMessageRequest ⟨2⟩
    (∀ stimulus ∈ stimuli, stimulus.host.Faultless) ∧
      sends (.messageSent ⟨1⟩) ∧ ¬sends (.messageDelivered ⟨1⟩) := by
  intro host inputs stimuli before sends
  have here : host.Faultless := fun _ => rfl
  have faultless : ∀ stimulus ∈ stimuli, stimulus.host.Faultless :=
    List.forall_mem_map.2 fun _ _ => here
  obtain ⟨command, stored⟩ : ∃ command, before.store.message? ⟨1⟩ = some command :=
    Option.isSome_iff_exists.1 (by decide +kernel)
  obtain ⟨message, held⟩ : ∃ message, before.store.message? ⟨2⟩ = some message :=
    Option.isSome_iff_exists.1 (by decide +kernel)
  have waiting : ∀ command ∈ before.store.message? ⟨1⟩, command.id = ⟨1⟩ ∧
      command.direction = .outgoing ∧ command.isGroupCommand ∧ ¬command.status.isAcknowledged := by
    decide +kernel
  have behind : ∀ command ∈ before.store.message? ⟨1⟩, ∀ message ∈ before.store.message? ⟨2⟩,
      message.id = ⟨2⟩ ∧ message.direction = .outgoing ∧ message.thread = command.thread ∧
        before.store.Sendable message.toMessageContent ∧ before.store.ClearBut command message := by
    decide +kernel
  obtain ⟨one, outgoing, carries, waits⟩ := waiting command stored
  obtain ⟨two, ours, home, sendable, clear⟩ := behind command stored message held
  have later : command.id.val < message.id.val := by
    rw [one, two]
    decide
  rw [← one] at stored
  rw [← two] at held
  have released {event : Event}
      (acks : event = .messageSent command.id ∨ event = .messageDelivered command.id) :=
    (released_iff faultless here stored outgoing carries waits acks held ours home later).2.1
  rw [one, two] at released
  refine ⟨faultless, (released (Or.inl rfl)).2 ⟨rfl, sendable, clear⟩, fun sent => ?_⟩
  cases ((released (Or.inr rfl)).1 sent).1

end Outbox

end Messenger

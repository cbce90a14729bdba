/-
# What a scan leaves

A scan looks at the messages of ours that were not handed over, and asks for the members of groups
only where one of these messages belongs to a group.  Neither makes a difference to its plan, which is
the plan over all messages that are stored (`plan_eq_wholePlan`).  It then does what the plan says:

| the plan | the scan |
| :-- | :-- |
| dispatches a message | asks for that, in the order of the plan |
| skips a message | does nothing |
| deletes a message | removes its row, and its name from the index |

What is deleted is in no thread, so no thread is counted anew; all other rows stay, and the index leads
from all other names to where it led (`resend_by_plan`).
-/
import Messenger.Proofs.Outbox.Verdicts
import Messenger.Proofs.Outbox.Walks
import Messenger.Proofs.Store.Clearing
import Messenger.Proofs.Store.Peers

namespace Messenger

/-! ## The plan over all messages -/

namespace Scan

variable {uploadAvailable : Bool} {one two : Identity → List Identity}

theorem decisions_congr {messages : List Message} (same : ∀ message ∈ messages,
      isForNobody one message.toMessageContent = isForNobody two message.toMessageContent)
    (stalled : List ThreadId) : decisions uploadAvailable one stalled messages =
      decisions uploadAvailable two stalled messages := by
  induction messages generalizing stalled with
  | nil => rfl
  | cons first rest ih =>
    have free : decideFree uploadAvailable one first.toMessageContent =
        decideFree uploadAvailable two first.toMessageContent := by
      rw [decideFree, decideFree, same first List.mem_cons_self]
    have later := ih fun message mem => same message (List.mem_cons_of_mem _ mem)
    simp only [decisions, free, later]

end Scan

namespace Outbox

variable {outbox : Outbox} {options : ScanOptions}

/-- A scan seeks the same among all messages as among those that were not handed over. -/
theorem sought_eq_candidates (outbox : Outbox) (options : ScanOptions) : outbox.sought options =
    Scan.candidates options outbox.store.liveMembersOf outbox.store.messages.values := by
  unfold sought Scan.candidates
  refine congrArg (List.mergeSort · _) ?_
  refine (List.filter_filter ..).trans (List.filter_congr fun message stored => ?_)
  by_cases unhanded : message ∈ outbox.store.queryMessages unsent
  · have admitted := (Store.mem_queryMessages.1 unhanded).2
    simp only [admitted, Bool.and_true, Store.isAddressedTo_membersFor unhanded]
  · have passed : Scan.isCandidate options message.toMessageContent = false := by
      rw [Bool.eq_false_iff]
      intro candidate
      rw [Scan.isCandidate, Bool.and_eq_true, Bool.and_eq_true, decide_eq_true_eq] at candidate
      obtain ⟨⟨outgoing, status⟩, -⟩ := candidate
      exact unhanded (Store.mem_unsent.2 ⟨stored, outgoing, Scan.unhanded_of_qualifies status⟩)
    simp only [passed, Bool.false_and]

/-- What a scan would decide over all messages that are stored, with the stored members of each
group. -/
def wholePlan (outbox : Outbox) (options : ScanOptions) : Plan :=
  planScan outbox.store.messages.values options outbox.uploadService outbox.store.liveMembersOf

theorem plan_eq_wholePlan (outbox : Outbox) (options : ScanOptions) :
    outbox.plan options = outbox.wholePlan options := by
  have decided : Scan.decisions outbox.uploadService
      (outbox.store.membersFor (outbox.store.queryMessages unsent)) [] (outbox.sought options) =
      Scan.decisions outbox.uploadService outbox.store.liveMembersOf [] (outbox.sought options) := by
    refine Scan.decisions_congr (fun message mem => ?_) []
    exact Store.isForNobody_membersFor (Scan.mem_candidates.1 mem).1
  rw [wholePlan, planScan, ← sought_eq_candidates, ← decided]
  rfl

theorem wholePlan_eq (keyed : outbox.store.messages.KeyedBy (·.id)) (options : ScanOptions) :
    outbox.wholePlan options = .ofDecisions (Scan.verdicts outbox.uploadService
      outbox.store.liveMembersOf (outbox.store.messages.values.filter fun message =>
        Scan.Seeks options outbox.store.liveMembersOf message.toMessageContent)) :=
  planScan_of_ascending keyed.ascending options

/-! ## What is deleted -/

/-- What is deleted is sought, outside any thread, and for a group without members. -/
theorem mem_plan_delete (keyed : outbox.store.messages.KeyedBy (·.id)) {id : MessageId} :
    id ∈ (outbox.plan options).delete ↔ ∃ message, outbox.store.message? id = some message ∧
      Scan.Seeks options outbox.store.liveMembersOf message.toMessageContent ∧
      message.thread = .none ∧
      Scan.Vacant outbox.store.liveMembersOf message.toMessageContent := by
  show (outbox.plan options).Puts id .delete ↔ _
  rw [plan_eq_wholePlan, wholePlan, puts_planScan keyed.keys_nodup]
  simp only [Scan.verdict_eq_delete_iff, Scan.mem_candidates, ← Scan.seeks_iff]
  constructor
  · rintro ⟨message, ⟨stored, seeks⟩, rfl, deleted⟩
    exact ⟨message, keyed.mem_values_iff.1 stored, seeks, deleted⟩
  · rintro ⟨message, stored, seeks, deleted⟩
    have own : message.id = id := keyed.key_eq stored
    subst own
    exact ⟨message, ⟨keyed.mem_values_iff.2 stored, seeks⟩, rfl, deleted⟩

theorem make_scan_of_keyed (keyed : outbox.store.messages.KeyedBy (·.id)) (options : ScanOptions) :
    ((Move.scan options).make outbox).1 = { outbox with
      store := (Store.removeMessages outbox.store (outbox.plan options).delete).1 } := by
  have threadless : ∀ id ∈ (outbox.plan options).delete, ∀ message,
      outbox.store.messages.get? id = some message → message.thread.isNone := by
    intro id deleted message stored
    obtain ⟨same, found, -, outside, -⟩ := (mem_plan_delete keyed).1 deleted
    obtain rfl : same = message := Option.some.inj (found.symm.trans stored)
    exact decide_eq_true outside
  have removed := Store.deleteMessages_of_threadless threadless
  unfold Move.make
  dsimp only
  split
  case isTrue none => rw [List.isEmpty_iff.1 none]; rfl
  case isFalse => rw [removed]

end Outbox

/-! ## Names -/

namespace Store

variable {store : Store} {ids : List MessageId}

/-- No two messages of one direction have the same name. -/
def NamesDiffer (store : Store) : Prop :=
  ∀ one two : Message, store.message? one.id = some one → store.message? two.id = some two →
    one.serverKey?.isSome → one.serverKey? = two.serverKey? → one = two

theorem serverIds_of_stays (keyed : store.messages.KeyedBy (·.id)) (differ : store.NamesDiffer)
    {message : Message} (stays : (removeMessages store ids).1.message? message.id = some message)
    {key : ServerKey} (named : message.serverKey? = some key) :
    (removeMessages store ids).1.serverIds.get? key = store.serverIds.get? key := by
  rw [message?, get?_removeMessages] at stays
  split at stays
  · cases stays
  case isFalse unlisted =>
    refine get?_serverIds_removeMessages fun other removed same => unlisted ?_
    obtain ⟨id, listed, stored⟩ := mem_removed.1 removed
    have own : other.id = id := keyed.key_eq stored
    subst own
    have eq : message = other :=
      differ message other stays stored (named ▸ rfl) (named.trans same.symm)
    exact eq ▸ listed

theorem messageByServerId?_removeMessages (keyed : store.messages.KeyedBy (·.id)) {key : ServerKey}
    (leads : (removeMessages store ids).1.serverIds.get? key = store.serverIds.get? key) :
    (removeMessages store ids).1.messageByServerId? key.direction key.serverId =
      (store.messageByServerId? key.direction key.serverId).filter (·.id ∉ ids) := by
  show ((removeMessages store ids).1.serverIds.get? key).bind _ =
    ((store.serverIds.get? key).bind _).filter _
  rw [leads]
  cases store.serverIds.get? key with
  | none => rfl
  | some id =>
    rw [Option.bind_some, Option.bind_some, get?_removeMessages]
    cases stored : store.messages.get? id with
    | none => simp
    | some found =>
      have own : found.id = id := keyed.key_eq stored
      by_cases listed : id ∈ ids <;> simp [Option.filter, own, listed]

end Store

/-! ## What a scan does -/

namespace Outbox

open Messenger.Action

variable {host : Host} {outbox : Outbox}

/-- A scan does what its plan over all stored messages says, with the stored members of each group.
It gives that plan, and asks for what the plan dispatches, in that order, and for nothing else.  What
it deletes are the messages that it seeks outside any thread whose group has no member; their rows go,
and their names.  All other rows are as they were, of messages and of everything else; and where names
differ, a name of a message that stays leads where it led. -/
theorem resend_by_plan (faultless : host.Faultless)
    (keyed : outbox.store.messages.KeyedBy (·.id)) (options : ScanOptions) :
    let store := outbox.store
    let plan := outbox.wholePlan options
    let outcome := (resend options).run host outbox
    let after := outcome.outbox.store
    outcome.result = .ok plan ∧
    outcome.publications = plan.dispatch.map (fun dispatch => ⟨dispatch.event, store⟩) ∧
    (∀ id, id ∈ plan.delete ↔ ∃ message, store.message? id = some message ∧
      Scan.Seeks options store.liveMembersOf message.toMessageContent ∧
      message.thread = .none ∧ Scan.Vacant store.liveMembersOf message.toMessageContent) ∧
    (∀ id, after.message? id = if id ∈ plan.delete then none else store.message? id) ∧
    outcome.outbox = { outbox with store :=
      { store with messages := after.messages, serverIds := after.serverIds } } ∧
    (store.NamesDiffer → ∀ message key, after.message? message.id = some message →
      message.serverKey? = some key →
      after.serverIds.get? key = store.serverIds.get? key ∧
      after.messageByServerId? key.direction key.serverId =
        (store.messageByServerId? key.direction key.serverId).filter (·.id ∉ plan.delete)) := by
  intro store plan outcome after
  have plan_eq : outbox.plan options = plan := plan_eq_wholePlan outbox options
  obtain ⟨next, ran, left, published⟩ := on_resend faultless options { outbox with }
  have left : next.toOutbox = { outbox with store := (Store.removeMessages store plan.delete).1 } :=
    left.trans (plan_eq ▸ make_scan_of_keyed keyed options)
  have outcome_eq : outcome = ⟨.ok (outbox.plan options), _, _, _, _⟩ := run_of_ok ran
  have after_eq : after = (Store.removeMessages store plan.delete).1 := by
    show outcome.outbox.store = _
    rw [outcome_eq]
    exact congrArg Outbox.store left
  have rows (id : MessageId) :
      after.message? id = if id ∈ plan.delete then none else store.message? id :=
    after_eq ▸ store.get?_removeMessages plan.delete id
  refine ⟨?_, ?_, fun id => ?_, rows, ?_, fun differ message key stays named => ?_⟩
  · rw [outcome_eq, plan_eq]
  · rw [outcome_eq]
    exact published.trans (plan_eq ▸ List.nil_append _)
  · exact plan_eq ▸ mem_plan_delete keyed
  · obtain ⟨messages, serverIds, eq⟩ := store.removeMessages_store plan.delete
    rw [after_eq, eq, outcome_eq]
    exact left.trans (by rw [eq])
  · have stays : (Store.removeMessages store plan.delete).1.message? message.id = some message :=
      after_eq ▸ stays
    have leads := Store.serverIds_of_stays keyed differ stays named
    rw [after_eq]
    exact ⟨leads, Store.messageByServerId?_removeMessages keyed leads⟩

/-- Of two messages to a group without members, the one outside any thread is deleted and the other
skipped; the message between them goes out, and what is known by its name is not touched. -/
theorem resend_by_plan_ghost :
    let host : Host := { settings := {}, serverId := toString }
    let ghost : GroupRef := ⟨⟨"g@x"⟩, ⟨"o@x"⟩⟩
    let text (thread : ThreadId) (peer : Identity) (name : String) : MessageContent :=
      { thread, peer, mime := textMime, serverId := some name, timestamp := 0 }
    let outbox : Outbox := { store := .written [.ensureThread ghost.id true,
      .insertMessage { text .none ghost.id "one" with group := some ghost },
      .insertMessage (text .none ⟨"a@x"⟩ "two"),
      .insertMessage { text ⟨1⟩ ghost.id "three" with group := some ghost }] }
    let outcome := (resend {}).run host outbox
    let after := outcome.outbox.store
    host.Faultless ∧ outbox.store.messages.KeyedBy (·.id) ∧
      outcome.result = .ok
        { dispatch := [.send ⟨2⟩], skipped := [(⟨3⟩, .emptyGroup)], delete := [⟨1⟩] } ∧
      outcome.publications = [⟨.sendMessageRequest ⟨2⟩, outbox.store⟩] ∧
      after.message? ⟨1⟩ = none ∧ after.message? ⟨2⟩ = outbox.store.message? ⟨2⟩ ∧
      after.threads = outbox.store.threads := by
  intro host ghost text outbox outcome after
  have faultless : host.Faultless := fun _ => rfl
  have keyed : outbox.store.messages.KeyedBy (·.id) := (Store.indexed_written _).messages
  have plan : outbox.wholePlan {} =
      { dispatch := [.send ⟨2⟩], skipped := [(⟨3⟩, .emptyGroup)], delete := [⟨1⟩] } := by
    rw [wholePlan_eq keyed]
    decide +kernel
  obtain ⟨result, published, -, rows, frame, -⟩ := resend_by_plan faultless keyed {}
  rw [plan] at result published rows
  refine ⟨faultless, keyed, result, published, (rows ⟨1⟩).trans (if_pos (by decide)),
    (rows ⟨2⟩).trans (if_neg (by decide)), ?_⟩
  show outcome.outbox.store.threads = outbox.store.threads
  rw [frame]

end Outbox

end Messenger

/-
# What a scan hands over

The decisions of a scan, read backwards: what has to be so of the messages for one of them to be
handed over.

    a message is handed over     no candidate before it holds back its thread     (`free_of_decided`)
    only files are looked for    no candidate holds back anything                 (`decisions_of_free`)
    all candidates have threads  nothing is deleted                               (`plan_delete`)
-/
import Messenger.Proofs.Outbox.Coherence

namespace Messenger

variable {uploadAvailable : Bool} {membersOf : Identity → List Identity}

namespace Scan

/-- A message that is not held back comes before everything that would hold it back. -/
theorem free_of_decided {stalled : List ThreadId} {messages : List Message} {id : MessageId}
    {decision : Decision}
    (decided : (id, decision) ∈ decisions uploadAvailable membersOf stalled messages)
    (free : decision ≠ .skip .stalled) :
    ∃ before message after, messages = before ++ message :: after ∧ message.id = id ∧
      decision = decideFree uploadAvailable membersOf message.toMessageContent ∧
      message.thread ∉ stalled ∧
      ∀ earlier ∈ before, stalls earlier.toMessageContent → earlier.thread ≠ message.thread := by
  induction messages generalizing stalled with
  | nil => cases decided
  | cons first rest ih =>
    unfold decisions at decided
    split at decided
    case isTrue held =>
      have held : first.thread ∈ stalled := List.contains_iff_mem.1 held
      rcases List.mem_cons.1 decided with eq | decided
      · cases eq
        exact absurd rfl free
      · obtain ⟨before, message, after, rfl, own, eq, unstalled, clear⟩ := ih decided
        refine ⟨first :: before, message, after, rfl, own, eq, unstalled, fun earlier mem holds => ?_⟩
        rcases List.mem_cons.1 mem with rfl | mem
        · exact fun same => unstalled (same ▸ held)
        · exact clear earlier mem holds
    case isFalse free' =>
      have unheld : first.thread ∉ stalled := fun mem => free' (List.contains_iff_mem.2 mem)
      rcases List.mem_cons.1 decided with eq | decided
      · cases eq
        exact ⟨[], first, rest, rfl, rfl, rfl, unheld, fun _ mem => nomatch mem⟩
      · obtain ⟨before, message, after, rfl, own, eq, unstalled, clear⟩ := ih decided
        refine ⟨first :: before, message, after, rfl, own, eq, fun mem => unstalled ?_,
          fun earlier mem holds => ?_⟩
        · split
          · exact List.mem_cons_of_mem _ mem
          · exact mem
        · rcases List.mem_cons.1 mem with rfl | mem
          · rw [if_pos holds] at unstalled
            exact fun same => unstalled (same ▸ List.mem_cons_self)
          · exact clear earlier mem holds

theorem decisions_of_free {messages : List Message}
    (free : ∀ message ∈ messages, stalls message.toMessageContent = false) :
    decisions uploadAvailable membersOf [] messages =
      messages.map fun message =>
        (message.id, decideFree uploadAvailable membersOf message.toMessageContent) := by
  induction messages with
  | nil => rfl
  | cons first rest ih =>
    have here := free first List.mem_cons_self
    unfold decisions
    rw [if_neg (by simp), here, if_neg (by simp)]
    exact congrArg _ (ih fun message mem => free message (List.mem_cons_of_mem _ mem))

theorem mem_candidates {options : ScanOptions} {messages : List Message} {message : Message} :
    message ∈ candidates options membersOf messages ↔ message ∈ messages ∧
      isCandidate options message.toMessageContent ∧
      ∀ peer ∈ options.peer, isAddressedTo membersOf peer message.toMessageContent := by
  simp [candidates, Option.all_eq_true]

theorem candidates_ascending (options : ScanOptions) (messages : List Message) :
    (candidates options membersOf messages).Pairwise fun a b => a.id.val ≤ b.id.val := by
  have transitive (a b c : Message) (ab : decide (a.id.val ≤ b.id.val) = true)
      (bc : decide (b.id.val ≤ c.id.val) = true) : decide (a.id.val ≤ c.id.val) = true :=
    decide_eq_true (Int.le_trans (of_decide_eq_true ab) (of_decide_eq_true bc))
  have total (a b : Message) :
      (decide (a.id.val ≤ b.id.val) || decide (b.id.val ≤ a.id.val)) = true := by
    rcases Int.le_total a.id.val b.id.val with le | le <;> simp [le]
  exact (List.pairwise_mergeSort transitive total _).imp fun le => of_decide_eq_true le

theorem unhanded_of_qualifies {options : ScanOptions} {status : Status}
    (qualifies : statusQualifies options status) : status.isHandedOver = false := by
  revert qualifies
  cases status <;> simp [statusQualifies, Status.isHandedOver, Status.handedOver]

theorem threadless_of_delete {message : MessageContent}
    (decided : decideFree uploadAvailable membersOf message = .delete) : message.thread.isNone := by
  unfold decideFree at decided
  split at decided
  · split at decided
    case isTrue none => exact none
    case isFalse => cases decided
  · split at decided
    · split at decided <;> cases decided
    · cases decided

end Scan

namespace Dispatch

def id : Dispatch → MessageId
  | send id | upload id => id

def decision : Dispatch → Decision
  | send _ => .send
  | upload _ => .upload

end Dispatch

/-- A message whose file is on this device only is never sent as it is. -/
theorem Scan.decideFree_of_file {message : MessageContent} (file : message.needsUpload)
    (dispatch : Dispatch) : decideFree uploadAvailable membersOf message = dispatch.decision ↔
      uploadAvailable ∧ isForNobody membersOf message = false ∧ dispatch = .upload dispatch.id := by
  rw [decideFree, file]
  cases isForNobody membersOf message with
  | true => cases message.thread.isNone <;> cases dispatch <;> simp [Dispatch.decision]
  | false => cases uploadAvailable <;> cases dispatch <;> simp [Dispatch.decision, Dispatch.id]

namespace Plan

variable {decisions : List (MessageId × Decision)}

theorem mem_dispatch {dispatch : Dispatch} :
    dispatch ∈ (ofDecisions decisions).dispatch ↔ (dispatch.id, dispatch.decision) ∈ decisions := by
  refine List.mem_filterMap.trans ⟨?_, fun mem => ⟨_, mem, by cases dispatch <;> rfl⟩⟩
  rintro ⟨⟨id, decision⟩, mem, made⟩
  cases decision <;> cases made <;> exact mem

theorem mem_skipped {id : MessageId} {reason : SkipReason} :
    (id, reason) ∈ (ofDecisions decisions).skipped ↔ (id, .skip reason) ∈ decisions := by
  refine List.mem_filterMap.trans ⟨?_, fun mem => ⟨_, mem, rfl⟩⟩
  rintro ⟨⟨own, decision⟩, mem, made⟩
  cases decision <;> cases made
  exact mem

theorem mem_delete {id : MessageId} :
    id ∈ (ofDecisions decisions).delete ↔ (id, .delete) ∈ decisions := by
  refine List.mem_filterMap.trans ⟨?_, fun mem => ⟨_, mem, rfl⟩⟩
  rintro ⟨⟨own, decision⟩, mem, made⟩
  cases decision <;> cases made
  exact mem

end Plan

namespace Store

variable {store : Store}

/-- No group command that comes earlier in the thread waits for its answer. -/
def Clear (store : Store) (message : Message) : Prop :=
  ∀ earlier ∈ store.messages.values, earlier.direction = .outgoing → earlier.thread = message.thread →
    earlier.id.val < message.id.val → earlier.isGroupCommand → earlier.status.isAcknowledged

instance (store : Store) (message : Message) : Decidable (store.Clear message) :=
  inferInstanceAs (Decidable (∀ earlier ∈ store.messages.values, _))

theorem mem_queryMessages {query : Query} {message : Message} :
    message ∈ store.queryMessages query ↔
      message ∈ store.messages.values ∧ query.admits message.toMessageContent :=
  List.mem_filter

theorem isHeldBack_eq_false_iff {message : Message} :
    store.isHeldBack message = false ↔ store.Clear message := by
  refine List.any_eq_false.trans ⟨fun free earlier stored outgoing thread before carries => ?_,
    fun clear earlier asked => ?_⟩
  · have asked : earlier ∈ store.queryMessages (Query.outgoing.inThread message.thread) :=
      mem_queryMessages.2
        ⟨stored, by simp [Query.admits, Query.outgoing, Query.inThread, outgoing, thread]⟩
    simpa [before, carries] using free earlier asked
  · obtain ⟨stored, admitted⟩ := mem_queryMessages.1 asked
    simp only [Query.admits, Query.outgoing, Query.inThread, Option.all_some, Option.all_none,
      Bool.and_true, Bool.and_eq_true, decide_eq_true_eq] at admitted
    obtain ⟨⟨outgoing, -⟩, thread⟩ := admitted
    have acknowledged := clear earlier stored outgoing.symm thread.symm
    simpa [and_imp] using acknowledged

theorem Posted.waiting {message : MessageContent} (posted : store.Posted message)
    (carries : message.isGroupCommand) (waits : ¬message.status.isAcknowledged) :
    message.status = .sending ∨ message.status = .error := by
  rcases (posted.command carries).2.2 with sending | acknowledging
  · exact Or.inl sending
  · rw [Status.acknowledging] at acknowledging
    revert waits acknowledging
    cases message.status <;> decide

theorem mem_unsent {message : Message} : message ∈ store.queryMessages Outbox.unsent ↔
    message ∈ store.messages.values ∧ message.direction = .outgoing ∧
      message.status.isHandedOver = false := by
  rw [mem_queryMessages]
  refine and_congr_right fun _ => ?_
  simp only [Query.admits, Outbox.unsent, Query.outgoing, Query.excluding, Status.isHandedOver,
    Option.all_none, Option.all_some, List.nil_append, Bool.and_true, Bool.and_eq_true,
    decide_eq_true_eq, Bool.not_eq_true']
  rw [eq_comm]

/-- All messages of ours in a thread are addressed alike, so a command is sought together with
the messages that it holds back. -/
theorem Posted.isAddressedTo {command message : MessageContent} (command_posted : store.Posted command)
    (posted : store.Posted message) (same : command.thread = message.thread)
    (carries : command.isGroupCommand) {membersOf : Identity → List Identity} {peer : Identity}
    (addressed : Scan.isAddressedTo membersOf peer message) :
    Scan.isAddressedTo membersOf peer command := by
  have peer_eq : command.peer = message.peer :=
    Option.some.inj (command_posted.peer.symm.trans (same ▸ posted.peer))
  obtain ⟨group, known⟩ := Option.isSome_iff_exists.1 (command_posted.command carries).1
  have group_id : group.id = command.peer := command_posted.group group known
  unfold Scan.isAddressedTo at addressed ⊢
  rw [peer_eq, known, Option.any_some, group_id, peer_eq]
  rw [Bool.or_eq_true] at addressed ⊢
  refine addressed.imp_right fun grouped => ?_
  obtain ⟨own, mem, has⟩ := (Option.any_eq_true _ _).1 grouped
  rw [← posted.group own mem]
  exact has

theorem Coherent.thread_ne_none (coherent : store.Coherent) {message : MessageContent}
    (posted : store.Posted message) : message.thread ≠ .none := by
  intro none
  have peer := posted.peer
  rw [none, peerOf?, coherent.tidy.threads_get?_none] at peer
  cases peer

theorem membersFor_eq {messages : List Message} {message : Message} (mem : message ∈ messages)
    {group : GroupRef} (known : message.group = some group) :
    store.membersFor messages = store.liveMembersOf := by
  rw [membersFor, if_pos (List.any_eq_true.2 ⟨message, mem, by rw [known]; rfl⟩)]

theorem isAddressedTo_membersFor {messages : List Message} {message : Message}
    (mem : message ∈ messages) (peer : Identity) :
    Scan.isAddressedTo (store.membersFor messages) peer message.toMessageContent =
      Scan.isAddressedTo store.liveMembersOf peer message.toMessageContent := by
  cases known : message.group with
  | none => rw [Scan.isAddressedTo, Scan.isAddressedTo, known, Option.any_none, Option.any_none]
  | some group => rw [membersFor_eq mem known]

theorem isForNobody_membersFor {messages : List Message} {message : Message}
    (mem : message ∈ messages) :
    Scan.isForNobody (store.membersFor messages) message.toMessageContent =
      Scan.isForNobody store.liveMembersOf message.toMessageContent := by
  cases known : message.group with
  | none => rw [Scan.isForNobody, Scan.isForNobody, known, Option.any_none, Option.any_none]
  | some group => rw [membersFor_eq mem known]

end Store

namespace Outbox

variable {outbox : Outbox} {options : ScanOptions}

/-- The messages that a scan goes through, in order. -/
def sought (outbox : Outbox) (options : ScanOptions) : List Message :=
  let messages := outbox.store.queryMessages unsent
  Scan.candidates options (outbox.store.membersFor messages) messages

theorem mem_sought {message : Message} : message ∈ outbox.sought options ↔
    message ∈ outbox.store.messages.values ∧ message.direction = .outgoing ∧
      Scan.statusQualifies options message.status ∧
      Scan.mediaQualifies options message.attachment ∧
      ∀ peer ∈ options.peer,
        Scan.isAddressedTo outbox.store.liveMembersOf peer message.toMessageContent := by
  refine Scan.mem_candidates.trans ⟨?_, ?_⟩
  · rintro ⟨unhanded, candidate, addressed⟩
    obtain ⟨mem, outgoing, -⟩ := Store.mem_unsent.1 unhanded
    rw [Scan.isCandidate, Bool.and_eq_true, Bool.and_eq_true] at candidate
    refine ⟨mem, outgoing, candidate.1.2, candidate.2, fun peer asked => ?_⟩
    rw [← Store.isAddressedTo_membersFor unhanded]
    exact addressed peer asked
  · rintro ⟨mem, outgoing, status, media, addressed⟩
    have unhanded : message ∈ outbox.store.queryMessages unsent :=
      Store.mem_unsent.2 ⟨mem, outgoing, Scan.unhanded_of_qualifies status⟩
    refine ⟨unhanded, ?_, fun peer asked => ?_⟩
    · rw [Scan.isCandidate, outgoing, status, media]
      rfl
    · rw [Store.isAddressedTo_membersFor unhanded]
      exact addressed peer asked

theorem sought_of_decided {id : MessageId} {decision : Decision} (decided : (id, decision) ∈
      Scan.decisions outbox.uploadService
        (outbox.store.membersFor (outbox.store.queryMessages unsent)) [] (outbox.sought options))
    (free : decision ≠ .skip .stalled) :
    ∃ before message after, outbox.sought options = before ++ message :: after ∧ message.id = id ∧
      decision = Scan.decideFree outbox.uploadService
        (outbox.store.membersFor (outbox.store.queryMessages unsent)) message.toMessageContent ∧
      ∀ earlier ∈ before, Scan.stalls earlier.toMessageContent → earlier.thread ≠ message.thread := by
  obtain ⟨before, message, after, eq, own, decision_eq, -, clear⟩ := Scan.free_of_decided decided free
  exact ⟨before, message, after, eq, own, decision_eq, clear⟩

/-- A command that waits is sought by every scan for messages that seeks what it holds back. -/
theorem command_sought (coherent : outbox.store.Coherent) (plain : options.retryingMedia = false)
    {command message : Message} (sought : message ∈ outbox.sought options)
    (stored : command ∈ outbox.store.messages.values) (outgoing : command.direction = .outgoing)
    (same : command.thread = message.thread) (carries : command.isGroupCommand)
    (waits : ¬command.status.isAcknowledged) : command ∈ outbox.sought options := by
  obtain ⟨mem, message_outgoing, -, -, addressed⟩ := mem_sought.1 sought
  have posted := coherent.posted (coherent.tidy.mem_messages.1 mem) message_outgoing
  have command_posted := coherent.posted (coherent.tidy.mem_messages.1 stored) outgoing
  refine mem_sought.2 ⟨stored, outgoing, ?_, ?_, fun peer asked =>
    command_posted.isAddressedTo posted same carries (addressed peer asked)⟩
  · rcases command_posted.waiting carries waits with eq | eq <;> rw [eq] <;> rfl
  · rw [(command_posted.command carries).2.1, Scan.mediaQualifies, plain]
    rfl

/-- A message that a scan for messages hands over is not held back by a command. -/
theorem clear_of_planned (coherent : outbox.store.Coherent) (plain : options.retryingMedia = false)
    {dispatch : Dispatch} (planned : dispatch ∈ (outbox.plan options).dispatch) {message : Message}
    (stored : outbox.store.message? dispatch.id = some message) : outbox.store.Clear message := by
  obtain ⟨before, picked, after, eq, own, -, free⟩ :=
    sought_of_decided (Plan.mem_dispatch.1 planned) (by cases dispatch <;> exact nofun)
  have sought : picked ∈ outbox.sought options := by simp [eq]
  obtain rfl : picked = message := by
    have found := coherent.tidy.mem_messages.1 (mem_sought.1 sought).1
    rw [own] at found
    exact Option.some.inj (found.symm.trans stored)
  intro command mem outgoing same below carries
  refine Decidable.byContradiction fun waits => ?_
  have also := command_sought coherent plain sought mem outgoing same carries waits
  rw [eq] at also
  rcases List.mem_append.1 also with earlier | later
  · refine free command earlier ?_ same
    have posted := coherent.posted (coherent.tidy.mem_messages.1 mem) outgoing
    rw [Scan.stalls, carries, ThreadId.isNone_eq_false.2 (coherent.thread_ne_none posted)]
    rfl
  · have ascending : (outbox.sought options).Pairwise fun a b => a.id.val ≤ b.id.val :=
      Scan.candidates_ascending _ _
    rw [eq] at ascending
    have tail := (List.pairwise_append.1 ascending).2.1
    rcases List.mem_cons.1 later with rfl | later
    · exact Int.lt_irrefl _ below
    · exact absurd below (Int.not_lt.2 ((List.pairwise_cons.1 tail).1 _ later))

/-- Every message of ours is in a thread, so scans delete nothing. -/
theorem plan_delete (coherent : outbox.store.Coherent) (options : ScanOptions) :
    (outbox.plan options).delete = [] := by
  refine List.eq_nil_iff_forall_not_mem.2 fun id deleted => ?_
  obtain ⟨before, picked, after, eq, -, decided, -⟩ :=
    sought_of_decided (Plan.mem_delete.1 deleted) nofun
  have sought : picked ∈ outbox.sought options := by simp [eq]
  obtain ⟨stored, outgoing, -⟩ := mem_sought.1 sought
  have posted := coherent.posted (coherent.tidy.mem_messages.1 stored) outgoing
  have threaded := ThreadId.isNone_eq_false.2 (coherent.thread_ne_none posted)
  rw [Scan.threadless_of_delete decided.symm] at threaded
  cases threaded

/-! ## Scans for files -/

/-- The messages whose files a scan for files asks to be uploaded, if it can. -/
def uploadable (outbox : Outbox) (options : ScanOptions) : List Message :=
  outbox.store.messages.values.filter fun message =>
    message.direction = .outgoing && Scan.statusQualifies options message.status
      && message.needsUpload
      && options.peer.all (Scan.isAddressedTo outbox.store.liveMembersOf · message.toMessageContent)
      && !Scan.isForNobody outbox.store.liveMembersOf message.toMessageContent

theorem mediaQualifies_of_media (media : options.retryingMedia) {message : MessageContent} :
    Scan.mediaQualifies options message.attachment = message.needsUpload := by
  unfold Scan.mediaQualifies MessageContent.needsUpload
  rw [media]
  cases message.attachment <;> rfl

theorem mem_uploadable (media : options.retryingMedia) {message : Message} :
    message ∈ outbox.uploadable options ↔ message ∈ outbox.sought options ∧
      Scan.isForNobody outbox.store.liveMembersOf message.toMessageContent = false := by
  rw [mem_sought, mediaQualifies_of_media media, uploadable, List.mem_filter]
  simp only [Bool.and_eq_true, decide_eq_true_eq, Bool.not_eq_true', Option.all_eq_true,
    Option.mem_def, and_assoc]

/-- A scan for files asks for every file that it can, whatever comes earlier in the thread. -/
theorem mem_plan_of_media (coherent : outbox.store.Coherent) (media : options.retryingMedia)
    {dispatch : Dispatch} : dispatch ∈ (outbox.plan options).dispatch ↔
      outbox.uploadService ∧ ∃ message ∈ outbox.uploadable options, dispatch = .upload message.id := by
  have files : ∀ message ∈ outbox.sought options, message.needsUpload := by
    intro message sought
    have file := (mem_sought.1 sought).2.2.2.1
    rwa [mediaQualifies_of_media media] at file
  have free : ∀ message ∈ outbox.sought options, Scan.stalls message.toMessageContent = false := by
    intro message sought
    obtain ⟨mem, outgoing, -⟩ := mem_sought.1 sought
    have posted := coherent.posted (coherent.tidy.mem_messages.1 mem) outgoing
    rw [Scan.stalls, Bool.and_eq_false_imp]
    intro carries
    have file := files message sought
    rw [MessageContent.needsUpload, (posted.command carries).2.1] at file
    cases file
  have known (message : Message) (sought : message ∈ outbox.sought options) :
      Scan.isForNobody (outbox.store.membersFor (outbox.store.queryMessages unsent))
        message.toMessageContent =
      Scan.isForNobody outbox.store.liveMembersOf message.toMessageContent :=
    Store.isForNobody_membersFor (Scan.mem_candidates.1 sought).1
  rw [plan, planScan, Plan.mem_dispatch]
  show _ ∈ Scan.decisions _ _ [] (outbox.sought options) ↔ _
  rw [Scan.decisions_of_free free, List.mem_map]
  constructor
  · rintro ⟨message, sought, eq⟩
    obtain ⟨own, decided⟩ := Prod.mk.inj eq
    obtain ⟨service, somebody, upload⟩ := (Scan.decideFree_of_file (files message sought) dispatch).1 decided
    rw [known message sought] at somebody
    exact ⟨service, message, (mem_uploadable media).2 ⟨sought, somebody⟩, own ▸ upload⟩
  · rintro ⟨service, message, mem, rfl⟩
    obtain ⟨sought, somebody⟩ := (mem_uploadable media).1 mem
    rw [← known message sought] at somebody
    refine ⟨message, sought, Prod.ext rfl ?_⟩
    exact (Scan.decideFree_of_file (files message sought) (.upload message.id)).2
      ⟨service, somebody, rfl⟩

end Outbox

end Messenger

/-
# What a scan decides about each message

A scan goes once through the messages that it seeks and remembers which threads are held back.  What
it decides can be said without that memory, of the messages that it seeks alone (`Scan.verdict`):

| a message | is |
| :-- | :-- |
| with an earlier group command in its thread | skipped, being held back |
| to a group without members, outside any thread | deleted |
| to a group without members, in a thread | skipped for that |
| with a file that is on this device only | uploaded, or skipped where no service is known |
| as all others | sent |

A command that is itself held back, or whose group is empty, still holds back what comes after it; one
outside any thread does not.  So what the scan remembers are the threads of all commands so far
(`Tracks`), and as the messages are in order, these are the commands with smaller numbers
(`decisions_eq_map`).  The plan puts every message in one place, and it is the same in whatever order
the messages come (`planScan_by_verdict`).
-/
import Messenger.Proofs.Outbox.Scans
import Mathlib.Data.List.Nodup

namespace Messenger

variable {uploadAvailable : Bool} {membersOf : Identity → List Identity}

namespace Scan

/-! ## Verdicts -/

/-- The scan picks the message up, and the message goes to the peer it is about, if it is about one:
directly, or because the peer is a member of its group. -/
def Seeks (options : ScanOptions) (membersOf : Identity → List Identity) (message : MessageContent) :
    Prop :=
  isCandidate options message ∧ ∀ peer ∈ options.peer,
    message.peer = peer ∨ ∃ group ∈ message.group, peer ∈ membersOf group.id

/-- An earlier one of some messages is a group command in the same thread. -/
def HeldBack (among : List Message) (message : Message) : Prop :=
  message.thread ≠ .none ∧ ∃ command ∈ among,
    command.isGroupCommand ∧ command.thread = message.thread ∧ command.id.val < message.id.val

/-- The message goes to a group without members. -/
def Vacant (membersOf : Identity → List Identity) (message : MessageContent) : Prop :=
  ∃ group ∈ message.group, membersOf group.id = []

/-- The file of the message is on this device and not on the server. -/
def FileHere (message : MessageContent) : Prop :=
  ∃ attachment ∈ message.attachment, attachment.localPath.isSome ∧ attachment.remote = none

instance (options : ScanOptions) (message : MessageContent) :
    Decidable (Seeks options membersOf message) :=
  inferInstanceAs (Decidable (_ ∧ _))

instance (among : List Message) (message : Message) : Decidable (HeldBack among message) :=
  inferInstanceAs (Decidable (_ ∧ _))

instance (message : MessageContent) : Decidable (Vacant membersOf message) :=
  inferInstanceAs (Decidable (∃ _ ∈ message.group, _))

instance (message : MessageContent) : Decidable (FileHere message) :=
  inferInstanceAs (Decidable (∃ _ ∈ message.attachment, _))

/-- What a scan should decide about one of the messages that it seeks. -/
def verdict (uploadAvailable : Bool) (membersOf : Identity → List Identity) (sought : List Message)
    (message : Message) : Decision :=
  if HeldBack sought message then .skip .stalled
  else if Vacant membersOf message.toMessageContent then
    if message.thread = .none then .delete else .skip .emptyGroup
  else if FileHere message.toMessageContent then
    if uploadAvailable then .upload else .skip .awaitingUploadService
  else .send

theorem isAddressedTo_iff {peer : Identity} {message : MessageContent} :
    isAddressedTo membersOf peer message ↔
      message.peer = peer ∨ ∃ group ∈ message.group, peer ∈ membersOf group.id := by
  simp [isAddressedTo, Option.any_eq_true]

theorem seeks_iff {options : ScanOptions} {message : MessageContent} :
    Seeks options membersOf message ↔ isCandidate options message ∧
      ∀ peer ∈ options.peer, isAddressedTo membersOf peer message :=
  and_congr_right fun _ => forall₂_congr fun _ _ => isAddressedTo_iff.symm

theorem isForNobody_iff {message : MessageContent} :
    isForNobody membersOf message ↔ Vacant membersOf message := by
  simp [Vacant, isForNobody, Option.any_eq_true]

theorem needsUpload_iff {message : MessageContent} : message.needsUpload ↔ FileHere message := by
  simp [FileHere, MessageContent.needsUpload, Attachment.needsUpload, Option.any_eq_true]

theorem verdict_eq (sought : List Message) (message : Message) :
    verdict uploadAvailable membersOf sought message =
      if HeldBack sought message then .skip .stalled
      else decideFree uploadAvailable membersOf message.toMessageContent := by
  unfold verdict decideFree
  simp only [isForNobody_iff, needsUpload_iff, ThreadId.isNone, decide_eq_true_eq]

/-- All that is deleted is outside any thread, where nothing is held back. -/
theorem verdict_eq_delete_iff {sought : List Message} {message : Message} :
    verdict uploadAvailable membersOf sought message = .delete ↔
      message.thread = .none ∧ Vacant membersOf message.toMessageContent := by
  unfold verdict
  constructor
  · intro deleted
    split at deleted
    · cases deleted
    split at deleted
    case isTrue vacant =>
      split at deleted
      case isTrue outside => exact ⟨outside, vacant⟩
      case isFalse => cases deleted
    case isFalse =>
      split at deleted
      · split at deleted <;> cases deleted
      · cases deleted
  · rintro ⟨outside, vacant⟩
    rw [if_neg fun held => held.1 outside, if_pos vacant, if_pos outside]

theorem heldBack_congr {one two : List Message} (same : ∀ message, message ∈ one ↔ message ∈ two)
    (message : Message) : HeldBack one message ↔ HeldBack two message := by
  simp only [HeldBack, same]

theorem verdict_congr {one two : List Message} (same : ∀ message, message ∈ one ↔ message ∈ two)
    (message : Message) : verdict uploadAvailable membersOf one message =
      verdict uploadAvailable membersOf two message := by
  simp only [verdict, heldBack_congr same]

/-! ## What a scan remembers -/

/-- The numbers of the messages ascend. -/
def Ascending (messages : List Message) : Prop := messages.Pairwise fun a b => a.id.val < b.id.val

/-- What is held back are the threads of the commands that came so far. -/
def Tracks (stalled : List ThreadId) (before : List Message) : Prop :=
  ∀ thread, thread ∈ stalled ↔ thread ≠ .none ∧
    ∃ command ∈ before, command.isGroupCommand ∧ command.thread = thread

namespace Tracks

variable {stalled : List ThreadId} {before : List Message}

theorem nil : Tracks [] [] := by simp [Tracks]

theorem snoc (tracks : Tracks stalled before) {message : Message} {next : List ThreadId}
    (holds : ∀ thread, thread ∈ next ↔
      thread ∈ stalled ∨ stalls message.toMessageContent ∧ thread = message.thread) :
    Tracks next (before ++ [message]) := by
  intro thread
  rw [holds, tracks thread]
  constructor
  · rintro (⟨real, command, mem, carries, home⟩ | ⟨holds, rfl⟩)
    · exact ⟨real, command, List.mem_append_left _ mem, carries, home⟩
    · rw [stalls, Bool.and_eq_true, Bool.not_eq_true', ThreadId.isNone_eq_false] at holds
      exact ⟨holds.2, message, by simp, holds.1, rfl⟩
  · rintro ⟨real, command, mem, carries, home⟩
    rcases List.mem_append.1 mem with mem | mem
    · exact Or.inl ⟨real, command, mem, carries, home⟩
    · obtain rfl := List.mem_singleton.1 mem
      refine Or.inr ⟨?_, home.symm⟩
      rw [stalls, carries, home, ThreadId.isNone_eq_false.2 real]
      rfl

/-- In order, what comes before a message is what has a smaller number. -/
theorem heldBack_iff (tracks : Tracks stalled before) {message : Message} {rest : List Message}
    (ascending : Ascending (before ++ message :: rest)) :
    message.thread ∈ stalled ↔ HeldBack (before ++ message :: rest) message := by
  obtain ⟨-, later, across⟩ := List.pairwise_append.1 ascending
  rw [tracks message.thread, HeldBack]
  refine and_congr_right fun _ => exists_congr fun command => ?_
  constructor
  · rintro ⟨mem, carries, home⟩
    exact ⟨List.mem_append_left _ mem, carries, home, across command mem message List.mem_cons_self⟩
  · rintro ⟨mem, carries, home, below⟩
    refine ⟨?_, carries, home⟩
    rcases List.mem_append.1 mem with mem | mem
    · exact mem
    rcases List.mem_cons.1 mem with rfl | mem
    · exact absurd below (Int.lt_irrefl _)
    · exact absurd below (Int.lt_asymm ((List.pairwise_cons.1 later).1 command mem))

end Tracks

/-- The verdicts about all messages that a scan seeks, in their order. -/
def verdicts (uploadAvailable : Bool) (membersOf : Identity → List Identity)
    (sought : List Message) : List (MessageId × Decision) :=
  sought.map fun message => (message.id, verdict uploadAvailable membersOf sought message)

theorem verdicts_ids (sought : List Message) :
    (verdicts uploadAvailable membersOf sought).map (·.1) = sought.map (·.id) := by
  simp [verdicts]

theorem Ascending.distinct {messages : List Message} (ascending : Ascending messages) :
    (messages.map (·.id)).Nodup := by
  refine List.pairwise_map.2 (ascending.imp fun {a b} below => ?_)
  intro (same : a.id = b.id)
  exact Int.lt_irrefl _ (same ▸ below)

theorem Ascending.eq_of_id {messages : List Message} (ascending : Ascending messages)
    {a b : Message} (one : a ∈ messages) (two : b ∈ messages) (same : a.id = b.id) : a = b :=
  List.inj_on_of_nodup_map ascending.distinct one two same

/-- The decisions about messages in order are the verdicts. -/
theorem decisions_eq_map {stalled : List ThreadId} {before messages : List Message}
    (ascending : Ascending (before ++ messages)) (tracks : Tracks stalled before) :
    decisions uploadAvailable membersOf stalled messages = messages.map fun message =>
      (message.id, verdict uploadAvailable membersOf (before ++ messages) message) := by
  -- the messages so far grow, and what is remembered with them; all messages together stay the same
  induction messages generalizing stalled before with
  | nil => rfl
  | cons first rest ih =>
    have held := tracks.heldBack_iff ascending
    have all : before ++ first :: rest = (before ++ [first]) ++ rest := by simp
    rw [decisions, List.map_cons, verdict_eq]
    dsimp only
    split
    case isTrue mem =>
      have mem : first.thread ∈ stalled := List.contains_iff_mem.1 mem
      have next : Tracks stalled (before ++ [first]) := by
        refine tracks.snoc fun thread => ⟨Or.inl, ?_⟩
        rintro (mem | ⟨-, rfl⟩)
        · exact mem
        · exact mem
      rw [if_pos (held.1 mem), ih (all ▸ ascending) next, all]
    case isFalse free =>
      have free : first.thread ∉ stalled := fun mem => free (List.contains_iff_mem.2 mem)
      have next : Tracks (if stalls first.toMessageContent then first.thread :: stalled else stalled)
          (before ++ [first]) := by
        refine tracks.snoc fun thread => ?_
        split
        case isTrue holds => simp [holds, or_comm]
        case isFalse plain => simp [plain]
      rw [if_neg (mt held.2 free), ih (all ▸ ascending) next, all]

theorem decisions_eq_verdicts {messages : List Message} (ascending : Ascending messages) :
    decisions uploadAvailable membersOf [] messages =
      verdicts uploadAvailable membersOf messages := by
  have all : Ascending ([] ++ messages) := ascending
  exact decisions_eq_map all .nil

/-! ## What is sought, in order -/

theorem candidates_perm (options : ScanOptions) (messages : List Message) :
    (candidates options membersOf messages).Perm
      (messages.filter fun message => Seeks options membersOf message.toMessageContent) := by
  refine (List.mergeSort_perm _ _).trans (List.Perm.of_eq (List.filter_congr fun message _ => ?_))
  rw [Bool.eq_iff_iff, decide_eq_true_iff, seeks_iff, Bool.and_eq_true, Option.all_eq_true]
  exact Iff.rfl

theorem ascending_candidates {messages : List Message} (distinct : (messages.map (·.id)).Nodup)
    (options : ScanOptions) : Ascending (candidates options membersOf messages) := by
  have once : ((candidates options membersOf messages).map (·.id)).Nodup := by
    refine ((List.mergeSort_perm _ _).map _).nodup_iff.2 ?_
    exact distinct.sublist (List.filter_sublist.map _)
  refine ((candidates_ascending options messages).and (List.pairwise_map.1 once)).imp ?_
  rintro a b ⟨le, differ⟩
  exact Int.lt_iff_le_and_ne.2 ⟨le, fun same => differ (congrArg MessageId.mk same)⟩

theorem Ascending.eq_of_perm {one two : List Message} (ascending : Ascending one)
    (ascending' : Ascending two) (perm : one.Perm two) : one = two :=
  perm.eq_of_pairwise (fun _ _ _ _ lt gt => absurd lt (Int.lt_asymm gt)) ascending ascending'

theorem candidates_eq_of_perm {one two : List Message} (distinct : (one.map (·.id)).Nodup)
    (perm : one.Perm two) (options : ScanOptions) :
    candidates options membersOf one = candidates options membersOf two := by
  have distinct' : (two.map (·.id)).Nodup := (perm.map _).nodup_iff.1 distinct
  refine (ascending_candidates distinct options).eq_of_perm (ascending_candidates distinct' options) ?_
  exact (candidates_perm options one).trans
    ((perm.filter _).trans (candidates_perm options two).symm)

theorem candidates_eq_filter {messages : List Message} (ascending : Ascending messages)
    (options : ScanOptions) : candidates options membersOf messages =
      messages.filter fun message => Seeks options membersOf message.toMessageContent :=
  (ascending_candidates ascending.distinct options).eq_of_perm (ascending.sublist List.filter_sublist)
    (candidates_perm options messages)

end Scan

/-! ## Plans -/

namespace Plan

/-- The plan has the message where the decision puts it. -/
def Puts (plan : Plan) (id : MessageId) : Decision → Prop
  | .send => .send id ∈ plan.dispatch
  | .upload => .upload id ∈ plan.dispatch
  | .skip reason => (id, reason) ∈ plan.skipped
  | .delete => id ∈ plan.delete

def ids (plan : Plan) : List MessageId :=
  plan.dispatch.map (·.id) ++ plan.skipped.map (·.1) ++ plan.delete

variable (decisions : List (MessageId × Decision))

theorem puts_ofDecisions {id : MessageId} {decision : Decision} :
    (ofDecisions decisions).Puts id decision ↔ (id, decision) ∈ decisions := by
  cases decision with
  | send => exact mem_dispatch
  | upload => exact mem_dispatch
  | skip reason => exact mem_skipped
  | delete => exact mem_delete

theorem ids_ofDecisions : (ofDecisions decisions).ids.Perm (decisions.map (·.1)) := by
  induction decisions with
  | nil => exact .nil
  | cons first rest ih =>
    obtain ⟨id, decision⟩ := first
    have put : (ofDecisions ((id, decision) :: rest)).ids.Perm (id :: (ofDecisions rest).ids) := by
      cases decision with
      | send => exact .refl _
      | upload => exact .refl _
      | skip reason => exact List.perm_middle.append_right _
      | delete => exact List.perm_middle
    exact put.trans (ih.cons id)

theorem dispatchOf?_id {decided : MessageId × Decision} {dispatch : Dispatch}
    (made : dispatchOf? decided = some dispatch) : dispatch.id = decided.1 := by
  obtain ⟨id, decision⟩ := decided
  cases decision <;> cases made <;> rfl

theorem skipOf?_id {decided : MessageId × Decision} {skip : MessageId × SkipReason}
    (made : skipOf? decided = some skip) : skip.1 = decided.1 := by
  obtain ⟨id, decision⟩ := decided
  cases decision <;> cases made
  rfl

theorem deleteOf?_id {decided : MessageId × Decision} {id : MessageId}
    (made : deleteOf? decided = some id) : id = decided.1 := by
  obtain ⟨own, decision⟩ := decided
  cases decision <;> cases made
  rfl

theorem filterMap_sublist {made? : MessageId × Decision → Option α} {idOf : α → MessageId}
    (own : ∀ {decided item}, made? decided = some item → idOf item = decided.1) :
    ((decisions.filterMap made?).map idOf).Sublist (decisions.map (·.1)) := by
  induction decisions with
  | nil => exact .slnil
  | cons first rest ih =>
    rw [List.filterMap_cons]
    cases made : made? first with
    | none => exact ih.cons _
    | some item =>
      rw [List.map_cons, List.map_cons, own made]
      exact ih.cons_cons _

theorem dispatch_sublist :
    ((ofDecisions decisions).dispatch.map (·.id)).Sublist (decisions.map (·.1)) :=
  filterMap_sublist decisions dispatchOf?_id

theorem skipped_sublist :
    ((ofDecisions decisions).skipped.map (·.1)).Sublist (decisions.map (·.1)) :=
  filterMap_sublist decisions skipOf?_id

theorem delete_sublist : (ofDecisions decisions).delete.Sublist (decisions.map (·.1)) := by
  have taken : ((ofDecisions decisions).delete.map id).Sublist (decisions.map (·.1)) :=
    filterMap_sublist decisions deleteOf?_id
  rwa [List.map_id] at taken

end Plan

/-- A scan is the verdicts about what it seeks, sorted into a plan. -/
theorem planScan_eq {messages : List Message} (distinct : (messages.map (·.id)).Nodup)
    (options : ScanOptions) : planScan messages options uploadAvailable membersOf =
      .ofDecisions (Scan.verdicts uploadAvailable membersOf
        (Scan.candidates options membersOf messages)) :=
  congrArg Plan.ofDecisions
    (Scan.decisions_eq_verdicts (Scan.ascending_candidates distinct options))

theorem planScan_of_ascending {messages : List Message} (ascending : Scan.Ascending messages)
    (options : ScanOptions) : planScan messages options uploadAvailable membersOf =
      .ofDecisions (Scan.verdicts uploadAvailable membersOf
        (messages.filter fun message => Scan.Seeks options membersOf message.toMessageContent)) := by
  rw [planScan_eq ascending.distinct, Scan.candidates_eq_filter ascending]

/-- A scan puts what it seeks where the verdict about it puts it. -/
theorem puts_planScan {messages : List Message} (distinct : (messages.map (·.id)).Nodup)
    {options : ScanOptions} {id : MessageId} {decision : Decision} :
    (planScan messages options uploadAvailable membersOf).Puts id decision ↔
      ∃ message ∈ Scan.candidates options membersOf messages, message.id = id ∧
        Scan.verdict uploadAvailable membersOf (Scan.candidates options membersOf messages) message =
          decision := by
  rw [planScan_eq distinct, Plan.puts_ofDecisions, Scan.verdicts, List.mem_map]
  simp only [Prod.mk.injEq]

/-- A scan puts a message in one place only. -/
theorem puts_unique {messages : List Message} (distinct : (messages.map (·.id)).Nodup)
    {options : ScanOptions} {id : MessageId} {one two : Decision}
    (first : (planScan messages options uploadAvailable membersOf).Puts id one)
    (second : (planScan messages options uploadAvailable membersOf).Puts id two) : one = two := by
  obtain ⟨message, mem, own, rfl⟩ := (puts_planScan distinct).1 first
  obtain ⟨other, listed, same, rfl⟩ := (puts_planScan distinct).1 second
  have eq : message = other :=
    (Scan.ascending_candidates distinct options).eq_of_id mem listed (own.trans same.symm)
  rw [eq]

/-- A scan of messages with different numbers puts each of the messages that it seeks in exactly one
place, which is the one of the verdict about it; every list of the plan ascends, and the plan is the
same in whatever order the messages come. -/
theorem planScan_by_verdict (options : ScanOptions) (uploadAvailable : Bool)
    (membersOf : Identity → List Identity) {messages : List Message}
    (distinct : (messages.map (·.id)).Nodup) :
    let sought := messages.filter fun message =>
      Scan.Seeks options membersOf message.toMessageContent
    let plan := planScan messages options uploadAvailable membersOf
    plan.ids.Perm (sought.map (·.id)) ∧
    (plan.dispatch.map (·.id)).Pairwise (·.val < ·.val) ∧
    (plan.skipped.map (·.1)).Pairwise (·.val < ·.val) ∧
    plan.delete.Pairwise (·.val < ·.val) ∧
    (∀ message ∈ sought, ∀ decision, plan.Puts message.id decision ↔
      decision = Scan.verdict uploadAvailable membersOf sought message) ∧
    ∀ other, messages.Perm other → planScan other options uploadAvailable membersOf = plan := by
  intro sought plan
  have perm : (Scan.candidates options membersOf messages).Perm sought :=
    Scan.candidates_perm options messages
  have ascending : Scan.Ascending (Scan.candidates options membersOf messages) :=
    Scan.ascending_candidates distinct options
  have order : ((Scan.verdicts uploadAvailable membersOf
      (Scan.candidates options membersOf messages)).map (·.1)).Pairwise (·.val < ·.val) := by
    rw [Scan.verdicts_ids, List.pairwise_map]
    exact ascending
  have plan_eq : plan = .ofDecisions _ := planScan_eq distinct options
  refine ⟨?_, ?_, ?_, ?_, fun message mem decision => ?_, fun other same => ?_⟩
  · rw [plan_eq]
    refine (Plan.ids_ofDecisions _).trans ?_
    rw [Scan.verdicts_ids]
    exact perm.map _
  · exact plan_eq ▸ order.sublist (Plan.dispatch_sublist _)
  · exact plan_eq ▸ order.sublist (Plan.skipped_sublist _)
  · exact plan_eq ▸ order.sublist (Plan.delete_sublist _)
  · have mem : message ∈ Scan.candidates options membersOf messages := perm.mem_iff.2 mem
    rw [← Scan.verdict_congr fun _ => perm.mem_iff, puts_planScan distinct]
    constructor
    · rintro ⟨other, listed, own, rfl⟩
      rw [ascending.eq_of_id listed mem own]
    · rintro rfl
      exact ⟨message, mem, rfl, rfl⟩
  · exact congrArg (fun candidates => Plan.ofDecisions
      (Scan.decisions uploadAvailable membersOf [] candidates))
      (Scan.candidates_eq_of_perm distinct same options).symm

/-- A command to a group without members holds back a text in its thread, though the text comes first
in the list, and what is outside any thread is deleted. -/
theorem planScan_by_verdict_unsorted :
    let ghost : GroupRef := ⟨⟨"g@x"⟩, ⟨"o@x"⟩⟩
    let message (id : MessageId) (thread : ThreadId) (command : Option GroupCommand) : Message :=
      { id, thread, peer := ghost.id, mime := textMime, group := some ghost, groupCommand := command
        timestamp := 0, statusChanged := 0 }
    let text := message ⟨3⟩ ⟨1⟩ none
    let outside := message ⟨2⟩ .none (some .part)
    let command := message ⟨1⟩ ⟨1⟩ (some .part)
    let messages := [text, outside, command]
    let plan := planScan messages {} false fun _ => []
    (messages.map (·.id)).Nodup ∧ plan.Puts text.id (.skip .stalled) ∧
      plan.Puts command.id (.skip .emptyGroup) ∧ plan.Puts outside.id .delete ∧
      planScan [command, outside, text] {} false (fun _ => []) = plan := by
  intro ghost message text outside command messages plan
  have distinct : (messages.map (·.id)).Nodup := by decide
  obtain ⟨-, -, -, -, places, any_order⟩ :=
    planScan_by_verdict {} false (fun _ => []) distinct
  refine ⟨distinct, ?_, ?_, ?_, any_order _ (List.reverse_perm messages).symm⟩
  · exact (places text (by decide +kernel) _).2 (by decide +kernel)
  · exact (places command (by decide +kernel) _).2 (by decide +kernel)
  · exact (places outside (by decide +kernel) _).2 (by decide +kernel)

end Messenger

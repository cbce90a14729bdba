/-
# Scans about one peer

A scan may be about one peer only.  It then leaves out messages before it decides, and could leave out
the very command that holds back a message that it keeps.  In a life of the outbox it does not:

    all messages of ours in a thread have the peer of the thread      (`Posted.peer`)
    a command is for the group that is this peer                      (`Posted.group`)
    so what goes to a person by a group's message goes to that person
    by every command in the same thread                               (`Posted.isAddressedTo`)

So the plan about one peer is that part of the plan about all which is about messages to the peer
(`plan_about_peer`).
-/
import Messenger.Proofs.Outbox.Effects
import Messenger.Proofs.Outbox.Lives

namespace Messenger

namespace Scan

variable {uploadAvailable : Bool} {membersOf : Identity → List Identity}

/-- What is kept together with the commands that hold it back is decided about as before; nothing is
held back outside any thread. -/
theorem verdicts_filter {keep : Message → Bool} {sought : List Message}
    (closed : ∀ message ∈ sought, keep message → message.thread ≠ .none → ∀ command ∈ sought,
      command.isGroupCommand → command.thread = message.thread → keep command) :
    verdicts uploadAvailable membersOf (sought.filter keep) = (sought.filter keep).map fun message =>
      (message.id, verdict uploadAvailable membersOf sought message) := by
  refine List.map_congr_left fun message mem => ?_
  obtain ⟨listed, kept⟩ := List.mem_filter.1 mem
  have held : HeldBack (sought.filter keep) message ↔ HeldBack sought message := by
    refine and_congr_right fun threaded => exists_congr fun command => ?_
    constructor
    · rintro ⟨mem, carries, home, below⟩
      exact ⟨(List.mem_filter.1 mem).1, carries, home, below⟩
    · rintro ⟨mem, carries, home, below⟩
      have also := closed message listed kept threaded command mem carries home
      exact ⟨List.mem_filter.2 ⟨mem, also⟩, carries, home, below⟩
  simp only [verdict, held]

end Scan

namespace Plan

/-- The part of a plan that is about some messages. -/
def only (plan : Plan) (about : MessageId → Bool) : Plan where
  dispatch := plan.dispatch.filter fun dispatch => about dispatch.id
  skipped := plan.skipped.filter fun skip => about skip.1
  delete := plan.delete.filter about

theorem filterMap_filter {made? : MessageId × Decision → Option α} {idOf : α → MessageId}
    (own : ∀ {decided item}, made? decided = some item → idOf item = decided.1)
    (decisions : List (MessageId × Decision)) (about : MessageId → Bool) :
    (decisions.filter fun decided => about decided.1).filterMap made? =
      (decisions.filterMap made?).filter fun item => about (idOf item) := by
  rw [List.filterMap_filter, List.filter_filterMap]
  refine List.filterMap_congr fun decided _ => ?_
  cases made : made? decided with
  | none => simp
  | some item => simp [Option.filter, own made]

theorem ofDecisions_filter (decisions : List (MessageId × Decision)) (about : MessageId → Bool) :
    ofDecisions (decisions.filter fun decided => about decided.1) =
      (ofDecisions decisions).only about := by
  have dispatch := filterMap_filter dispatchOf?_id decisions about
  have skipped := filterMap_filter skipOf?_id decisions about
  have delete := filterMap_filter deleteOf?_id decisions about
  rw [ofDecisions, dispatch, skipped, delete]
  rfl

end Plan

namespace Store

/-- The message goes to the peer, directly or because the peer is a member of its group. -/
def Concerns (store : Store) (peer : Identity) (id : MessageId) : Prop :=
  ∃ message ∈ store.message? id,
    message.peer = peer ∨ ∃ group ∈ message.group, peer ∈ store.liveMembersOf group.id

instance (store : Store) (peer : Identity) (id : MessageId) : Decidable (store.Concerns peer id) :=
  inferInstanceAs (Decidable (∃ _ ∈ store.message? id, _))

variable {store : Store} {peer : Identity}

theorem concerns_iff (keyed : store.messages.KeyedBy (·.id)) {message : Message}
    (stored : message ∈ store.messages.values) : store.Concerns peer message.id ↔
      Scan.isAddressedTo store.liveMembersOf peer message.toMessageContent := by
  have found : store.message? message.id = some message := keyed.mem_values_iff.1 stored
  rw [Scan.isAddressedTo_iff]
  simp [Concerns, found]

theorem Coherent.concerns_command (coherent : store.Coherent) {message command : Message}
    (stored : message ∈ store.messages.values) (outgoing : message.direction = .outgoing)
    (stored' : command ∈ store.messages.values) (outgoing' : command.direction = .outgoing)
    (carries : command.isGroupCommand) (home : command.thread = message.thread)
    (concerned : store.Concerns peer message.id) : store.Concerns peer command.id := by
  have keyed := coherent.tidy.messages
  have posted := coherent.posted (keyed.mem_values_iff.1 stored) outgoing
  have posted' := coherent.posted (keyed.mem_values_iff.1 stored') outgoing'
  rw [concerns_iff keyed stored] at concerned
  rw [concerns_iff keyed stored']
  exact posted'.isAddressedTo posted home carries concerned

end Store

namespace Outbox

variable {outbox : Outbox}

theorem outgoing_of_seeks {options : ScanOptions} {membersOf : Identity → List Identity}
    {message : MessageContent} (seeks : Scan.Seeks options membersOf message) :
    message.direction = .outgoing := by
  have candidate := seeks.1
  rw [Scan.isCandidate, Bool.and_eq_true, Bool.and_eq_true, decide_eq_true_eq] at candidate
  exact candidate.1.1

theorem seeks_about {store : Store} (keyed : store.messages.KeyedBy (·.id)) {message : Message}
    (stored : message ∈ store.messages.values) (options : ScanOptions) (peer : Identity) :
    Scan.Seeks { options with peer := some peer } store.liveMembersOf message.toMessageContent ↔
      store.Concerns peer message.id ∧
        Scan.Seeks { options with peer := none } store.liveMembersOf message.toMessageContent := by
  rw [Store.concerns_iff keyed stored, Scan.isAddressedTo_iff]
  constructor
  · rintro ⟨candidate, addressed⟩
    exact ⟨addressed peer rfl, candidate, nofun⟩
  · rintro ⟨addressed, candidate, -⟩
    refine ⟨candidate, fun other asked => ?_⟩
    rwa [← Option.some.inj asked]

/-- The plan about one peer is that part of the plan about all which is about messages to the peer. -/
theorem wholePlan_about (coherent : outbox.store.Coherent) (options : ScanOptions)
    (peer : Identity) : outbox.wholePlan { options with peer := some peer } =
      (outbox.wholePlan { options with peer := none }).only fun id =>
        outbox.store.Concerns peer id := by
  have keyed := coherent.tidy.messages
  let all := outbox.store.messages.values.filter fun message =>
    Scan.Seeks { options with peer := none } outbox.store.liveMembersOf message.toMessageContent
  have kept : (outbox.store.messages.values.filter fun message =>
      Scan.Seeks { options with peer := some peer } outbox.store.liveMembersOf
        message.toMessageContent) =
      all.filter fun message => outbox.store.Concerns peer message.id := by
    rw [List.filter_filter]
    refine List.filter_congr fun message stored => ?_
    rw [Bool.eq_iff_iff, Bool.and_eq_true]
    simp only [decide_eq_true_eq]
    exact seeks_about keyed stored options peer
  rw [wholePlan_eq keyed, wholePlan_eq keyed, ← Plan.ofDecisions_filter, kept, Scan.verdicts_filter,
    Scan.verdicts, List.filter_map]
  · rfl
  -- what keeps a message keeps the commands of its thread
  intro message mem concerned _ command listed carries home
  obtain ⟨stored, seeks⟩ := List.mem_filter.1 mem
  obtain ⟨stored', seeks'⟩ := List.mem_filter.1 listed
  refine decide_eq_true ?_
  exact coherent.concerns_command stored (outgoing_of_seeks (of_decide_eq_true seeks)) stored'
    (outgoing_of_seeks (of_decide_eq_true seeks')) carries home (of_decide_eq_true concerned)

/-- In every life of the outbox, the plan of a scan about one peer is that part of the plan about all
peers which is about messages to this peer or to a group of which the peer is a member; so nothing goes
out in a scan about one peer that a scan about all would hold back. -/
theorem plan_about_peer {stimuli : List Stimulus}
    (faultless : ∀ stimulus ∈ stimuli, stimulus.host.Faultless) (options : ScanOptions)
    (peer : Identity) :
    let outbox := (play {} stimuli).1
    let about := outbox.wholePlan { options with peer := some peer }
    let all := outbox.wholePlan { options with peer := none }
    about = all.only (fun id => outbox.store.Concerns peer id) ∧
      ∀ id, (id, .stalled) ∈ all.skipped → ∀ dispatch ∈ about.dispatch, dispatch.id ≠ id := by
  intro outbox about all
  have coherent : outbox.store.Coherent := coherent_play .empty faultless
  have restricted : about = all.only fun id => outbox.store.Concerns peer id :=
    wholePlan_about coherent options peer
  refine ⟨restricted, fun id stalled dispatch mem same => ?_⟩
  subst same
  rw [restricted] at mem
  have dispatched : dispatch ∈ all.dispatch := (List.mem_filter.1 mem).1
  have sent : all.Puts dispatch.id dispatch.decision := by
    cases dispatch <;> exact dispatched
  have held : all.Puts dispatch.id (.skip .stalled) := stalled
  have both := puts_unique coherent.tidy.messages.keys_nodup sent held
  cases dispatch <;> cases both

/-- A group is created and written to, and so is one of its two members.  For the other member the
scan finds the command, which goes to the group, and the text that it holds back. -/
theorem plan_about_peer_member :
    let host : Host := { settings := { selfIdentity := some ⟨"me@x"⟩ }, serverId := toString }
    let inputs : List Input := [.request (.createGroup ⟨"g@x"⟩ [⟨"a@x"⟩, ⟨"b@x"⟩] none),
      .request (.sendText ⟨1⟩ "hello" none), .openThread ⟨"b@x"⟩ false,
      .request (.sendText ⟨2⟩ "hello" none)]
    let stimuli := inputs.map (Stimulus.mk host)
    let outbox := (play {} stimuli).1
    (∀ stimulus ∈ stimuli, stimulus.host.Faultless) ∧
      outbox.wholePlan {} = { dispatch := [.send ⟨1⟩, .send ⟨3⟩], skipped := [(⟨2⟩, .stalled)] } ∧
      outbox.wholePlan (.forPeer ⟨"a@x"⟩) =
        { dispatch := [.send ⟨1⟩], skipped := [(⟨2⟩, .stalled)] } := by
  intro host inputs stimuli outbox
  have faultless : ∀ stimulus ∈ stimuli, stimulus.host.Faultless :=
    List.forall_mem_map.2 fun _ _ _ => rfl
  have coherent : outbox.store.Coherent := coherent_play .empty faultless
  have all : outbox.wholePlan {} =
      { dispatch := [.send ⟨1⟩, .send ⟨3⟩], skipped := [(⟨2⟩, .stalled)] } := by
    rw [wholePlan_eq coherent.tidy.messages]
    decide +kernel
  have restricted : outbox.wholePlan (.forPeer ⟨"a@x"⟩) =
      (outbox.wholePlan {}).only fun id => outbox.store.Concerns ⟨"a@x"⟩ id :=
    (plan_about_peer faultless {} ⟨"a@x"⟩).1
  refine ⟨faultless, all, ?_⟩
  rw [restricted, all]
  decide +kernel

end Outbox

end Messenger

/-
# Whatever the outbox is asked

The remaining actions are walks too: group commands, arriving messages, retries, and what is done
about events.  So every response of the outbox is a walk (`walk_respond`), and a life of the
outbox, whatever it is asked in whatever order, is one response after the other (`play`).
-/
import Messenger.Proofs.Outbox.Walks

namespace Messenger.Action.Walks

open Outbox

variable {host : Host} {kind : Move → Prop} {before : Outbox → Prop} (faultless : host.Faultless)
  (basic : ∀ {move : Move}, move.isBasic → kind move)
include faultless basic

/-! ## Groups -/

omit basic in
theorem save (group : Group) (allowed : kind (.write (.saveGroup group))) :
    Walks host kind before (save group) fun _ outbox => ∃ earlier, before earlier ∧
      outbox = { earlier with store := (earlier.store.saveGroup group).store } := by
  unfold Outbox.save
  refine Walks.mono (commit faultless (.saveGroup group) allowed (fun _ _ => trivial) ?_)
    (fun _ holds => holds) ?_
  · exact fun _ => rfl
  · rintro _ outbox ⟨earlier, holds, -, eq⟩
    exact ⟨earlier, holds, eq⟩

omit basic in
theorem moveToThread (group : Group) (thread : Thread)
    (allowed : ∀ moved, kind (.write (.saveGroup moved))) :
    Walks host kind before (moveToThread group thread) fun moved outbox => moved.id = group.id ∧
      moved.thread = thread.id ∧ ∃ earlier, before earlier ∧ (outbox = earlier ∧ moved = group ∨
        outbox = { earlier with store := (earlier.store.saveGroup moved).store }) := by
  unfold Outbox.moveToThread
  split
  case isTrue same => exact pure fun outbox start => ⟨rfl, same.symm, outbox, start, Or.inl ⟨rfl, rfl⟩⟩
  case isFalse =>
    refine (save faultless _ (allowed _)).bind fun _ => pure ?_
    rintro outbox ⟨earlier, start, rfl⟩
    exact ⟨rfl, rfl, earlier, start, Or.inr rfl⟩

omit faultless basic in
theorem drafted_command {earlier outbox : Outbox} {group moved : Group} {thread : Thread}
    (found : earlier.store.threadForPeer? group.id = some thread) (same : moved.id = group.id)
    (home : moved.thread = thread.id) (left : outbox = earlier ∧ moved = group ∨
      outbox = { earlier with store := (earlier.store.saveGroup moved).store })
    (command : GroupCommand) (name : String) (now : Int) :
    Drafted outbox.store (commandMessage moved command name now) := by
  have housed : outbox.store.threadForPeer? group.id = some thread := by
    rcases left with ⟨rfl, -⟩ | rfl <;> exact found
  exact .command moved thread command name now (same ▸ housed) home rfl

theorem sendGroupCommand (group : Group) (command : GroupCommand) :
    Walks host kind before (sendGroupCommand group command) fun _ _ => True := by
  refine (ensureThread faultless group.id true (basic rfl)).bind fun thread => ?_
  refine (moveToThread faultless group thread fun _ => basic rfl).bind fun moved => ?_
  rw [issueServerId_read]
  refine read.bind fun host => ?_
  rw [← bind_assoc]
  refine Walks.answer (enqueue faultless basic ?_ (fun _ => rfl) fun _ => rfl)
  rintro outbox name ⟨-, same, home, earlier, ⟨found, -⟩, moved⟩
  exact drafted_command found same home moved command name host.now

omit faultless basic in
theorem selfIdentity : Walks host kind before selfIdentity fun _ => before := by
  refine read.bind fun host => ?_
  split
  · exact pure fun _ holds => holds.2
  · exact fail _

theorem createGroup (id : Identity) (people : List Identity) (subject : Option String) :
    Walks host kind before (createGroup id people subject) fun _ _ => True := by
  refine selfIdentity.bind fun me => ?_
  refine (ensureThread faultless id true (basic rfl)).bind fun thread => ?_
  refine (save faultless _ (basic rfl)).bind fun _ => ?_
  exact (sendGroupCommand faultless basic _ _).answer

theorem addGroupMembers (id : Identity) (people : List Identity) :
    Walks host kind before (addGroupMembers id people) fun _ _ => True := by
  refine selfIdentity.bind fun me => ?_
  refine (loadGroup faultless id).bind fun group => ?_
  refine (save faultless _ (basic rfl)).bind fun _ => ?_
  exact (sendGroupCommand faultless basic _ _).answer

theorem removeGroupMembers (id : Identity) (people : List Identity) :
    Walks host kind before (removeGroupMembers id people) fun _ _ => True := by
  refine (loadGroup faultless id).bind fun group => ?_
  refine (save faultless _ (basic rfl)).bind fun _ => ?_
  exact (sendGroupCommand faultless basic _ _).answer

theorem setGroupSubject (id : Identity) (subject : String) :
    Walks host kind before (setGroupSubject id subject) fun _ _ => True := by
  refine (loadGroup faultless id).bind fun group => ?_
  refine (save faultless _ (basic rfl)).bind fun _ => ?_
  exact (sendGroupCommand faultless basic _ _).answer

theorem leaveGroup (id : Identity) : Walks host kind before (leaveGroup id) fun _ _ => True := by
  refine (loadGroup faultless id).bind fun group => ?_
  refine (sendGroupCommand faultless basic _ _).bind fun sent => ?_
  exact ((save faultless _ (basic rfl)).mono (fun _ h => h) fun _ _ _ => trivial).answer

/-! ## Arriving messages -/

theorem applyInboundGroup (group : InboundGroup) (sender : Identity) (thread : ThreadId) :
    Walks host kind before (applyInboundGroup group sender thread) fun _ _ => True := by
  refine read.bind fun host => ?_
  refine (look faultless _ _).bind fun known => ?_
  exact (save faultless _ (basic rfl)).mono (fun _ h => h) fun _ _ _ => trivial

theorem learnFrom (inbound : InboundMessage) (thread : ThreadId) :
    Walks host kind before (learnFrom inbound thread) fun _ _ => True := by
  unfold Outbox.learnFrom
  split
  · exact (applyInboundGroup faultless basic _ _ _).attempt
  · refine Walks.attempt (Walks.mono (commit faultless (.markRegistered inbound.sender) (basic rfl)
      (fun _ _ => trivial) ?_) (fun _ h => h) fun _ _ _ => trivial)
    exact fun _ => rfl

omit faultless in
theorem fetchAttachment (inbound : InboundMessage) (id : MessageId) :
    Walks host kind before (fetchAttachment inbound id) fun _ => before := by
  unfold Outbox.fetchAttachment
  split
  · exact pure fun _ holds => holds
  · refine read.bind fun host => ?_
    split
    · exact (tell (basic rfl) rfl rfl).mono (fun _ holds => holds.2) fun _ _ h => h
    · exact pure fun _ holds => holds.2

omit basic in
theorem replyTarget (serverId : String) : Walks host kind before (replyTarget serverId) fun _ => before := by
  refine (look faultless _ _).bind fun found => ?_
  split
  · exact pure fun _ holds => holds.2
  · exact (look faultless _ _).bind fun _ => pure fun _ holds => holds.2.2

omit faultless basic in
theorem notify (peer : Identity) (thread : ThreadId) :
    Walks host kind before (notify peer thread) fun _ => before := by
  refine (signal _).bind fun _ => read.bind fun host => ?_
  split
  · exact (signal _).mono (fun _ holds => holds.2) fun _ _ h => h
  · exact (signal _).mono (fun _ holds => holds.2) fun _ _ h => h

theorem incoming (inbound : InboundMessage) (enters : ∀ content : MessageContent,
      content.status = inbound.arrivalStatus → kind (.write (.insertMessage content))) :
    Walks host kind before (incoming inbound) fun _ _ => True := by
  refine (look faultless _ _).bind fun known => ?_
  split
  case isTrue => exact pure fun _ _ => trivial
  case isFalse unknown =>
  refine read.bind fun host => ?_
  refine (ensureThread faultless _ _ (basic rfl)).bind fun thread => ?_
  -- With and without a quoted message, what follows is the same.
  rcases inbound.inReplyTo with _ | serverId <;> dsimp only
  refine skip.bind fun inReplyTo => ?_
  rotate_left
  refine (replyTarget faultless serverId).bind fun inReplyTo => ?_
  all_goals
    refine (insertMessage faultless (enters _ rfl) (fun outbox holds => ?_) rfl).bind fun message => ?_
    · obtain ⟨found, earlier, ⟨-, eq, -⟩, ensured⟩ := holds
      refine .received _ thread inbound.serverId found rfl rfl rfl ?_ ?_
      · rw [ensured, Store.messageByServerId?_ensureThread, ← eq]
        exact Option.not_isSome_iff_eq_none.1 unknown
      · unfold receivedContent
        split <;> exact nofun
    refine (learnFrom faultless basic _ _).bind fun _ => ?_
    refine (fetchAttachment basic _ _).bind fun _ => ?_
    split
    · refine (tell (basic rfl) rfl rfl).bind fun _ => ?_
      split
      · exact (notify _ _).answer
      · exact pure fun _ _ => trivial
    · split
      · exact (notify _ _).answer
      · exact pure fun _ _ => trivial

/-! ## Trying again -/

omit basic in
theorem restart (id : MessageId) (now : Int) (restarts : kind (.restart id now)) :
    Walks host kind before (Action.commit .updateStatuses (·.updateStatuses [id] .sending now))
      fun _ _ => True := by
  refine of_move (fun _ => .restart id now) (fun _ _ => restarts) (fun _ _ => trivial) fun run _ => ?_
  refine ⟨_, _, on_commit faultless _ _, rfl, ?_, trivial⟩
  simp [Move.make]

omit basic in
theorem retryMessage (id : MessageId) (restarts : ∀ now, kind (.restart id now))
    (scans : ∀ peer, kind (.scan (.forPeer peer))) :
    Walks host kind before (retryMessage id) fun _ _ => True := by
  refine (look faultless _ _).bind fun found => ?_
  split
  · exact fail _
  · refine read.bind fun host => (restart faultless id _ (restarts _)).bind fun _ => ?_
    exact (resend faultless _ (scans _)).answer

theorem startHeld {ids : List MessageId} (now : Int) (held : ∀ outbox, before outbox →
      ∀ id ∈ ids, ∀ message, outbox.store.message? id = some message → message.status = .pending) :
    Walks host kind before (Action.commit .updateStatuses (·.updateStatuses ids .sending now))
      fun _ _ => True := by
  refine Walks.mono (commit faultless (.updateStatuses ids .sending now) (basic rfl)
    (fun outbox start => ⟨rfl, held outbox start⟩) ?_) (fun _ h => h) fun _ _ _ => trivial
  exact fun _ => rfl

theorem retryHeld (query : Query) (options : ScanOptions) (scans : kind (.scan options))
    (keyed : ∀ outbox, before outbox → outbox.store.messages.KeyedBy (·.id))
    (pending : query.statuses = some [.pending]) :
    Walks host kind before (retryHeld query options) fun _ _ => True := by
  refine (look faultless _ _).bind fun found => read.bind fun host => ?_
  refine (startHeld faultless basic _ ?_).bind fun count => (resend faultless _ scans).answer
  rintro outbox ⟨-, rfl, start⟩ id mem message stored
  obtain ⟨row, queried, rfl⟩ := List.mem_map.1 mem
  obtain ⟨listed, admitted⟩ := List.mem_filter.1 queried
  have found := (keyed outbox start).mem_values_iff.1 listed
  obtain rfl : row = message := Option.some.inj (found.symm.trans stored)
  simp only [Query.admits, pending, Bool.and_eq_true] at admitted
  simpa using admitted.1.1.1.2

theorem resendReceipts : Walks host kind before resendReceipts fun _ => before := by
  refine (look faultless _ _).bind fun messages => ?_
  refine Walks.mono (forM fun message _ => tell (basic rfl) rfl rfl) (fun _ holds => holds)
    fun _ _ holds => holds.2

theorem setRequestStatus (id : ThreadId) {status : RequestStatus} (settled : status ≠ .waitingReply) :
    Walks host kind before (Action.commit .setRequestStatus (·.setRequestStatus id status))
      fun _ _ => True := by
  refine Walks.mono (commit faultless (.setRequestStatus id status)
    (basic (decide_eq_true settled)) (fun _ _ => trivial) ?_) (fun _ h => h) fun _ _ _ => trivial
  exact fun _ => rfl

theorem sendSubscriptionReply (thread : Thread) :
    Walks host kind before (sendSubscriptionReply thread) fun _ _ => True := by
  unfold Outbox.sendSubscriptionReply
  split
  · exact pure fun _ _ => trivial
  · exact (tell (basic rfl) rfl rfl).bind fun _ => setRequestStatus faultless basic _ (by decide)

theorem sendSubscriptionReplies :
    Walks host kind before sendSubscriptionReplies fun _ _ => True := by
  refine (look faultless _ _).bind fun threads => ?_
  refine Walks.mono (forM fun thread _ => sendSubscriptionReply faultless basic thread)
    (fun _ _ => trivial) fun _ _ h => h

theorem replySubscription (thread : ThreadId) (action : PrivacyAction) :
    Walks host kind before (replySubscription thread action) fun _ _ => True := by
  refine (loadThread faultless thread).bind fun row => ?_
  have answered : RequestStatus.ofReply action ≠ .waitingReply := by cases action <;> exact nofun
  refine (setRequestStatus faultless basic _ answered).bind fun _ => ?_
  refine outbox.bind fun now => ?_
  split
  · exact sendSubscriptionReplies faultless basic
  · exact pure fun _ _ => trivial

/-! ## Events -/

omit basic in
theorem dispatchPrepared (message : Message) (unhanded : message.status.isHandedOver = false)
    (resumes : kind (.resume message.id)) :
    Walks host kind (fun outbox => outbox.store.message? message.id = some message)
      (Outbox.dispatchFresh message) fun _ _ => True :=
  (dispatchFresh faultless (.resume message.id) (fun _ => rfl) resumes
    (fun _ stored => ⟨stored, unhanded⟩) fun _ stored => ⟨message, ⟨stored, unhanded⟩, rfl⟩).mono
    (fun _ stored => stored) fun _ _ _ => trivial

section
variable (keyed : ∀ outbox, before outbox → outbox.store.messages.KeyedBy (·.id))
include keyed
omit basic

theorem advance (id : MessageId) {status : Status} (mem : status ∈ Status.acknowledging)
    (revises : ∀ message : Message, message.id = id → kind (.write (.updateMessage message))) :
    Walks host kind before (advance id status) fun _ _ => True := by
  refine (look faultless _ _).bind fun found => ?_
  split
  case h_1 => exact pure fun _ _ => trivial
  case h_2 message =>
    split
    case isTrue further =>
      refine Walks.given (fun _ holds => (keyed _ holds.2).key_eq holds.1.symm) fun own => ?_
      subst own
      refine read.bind fun host => ?_
      refine Walks.answer (Walks.mono (updateMessage faultless (revises _ rfl) ?_) (fun _ h => h)
        fun _ _ _ => trivial)
      rintro outbox ⟨-, stored, -⟩
      exact ⟨message, stored.symm, .advanced status host.now mem further⟩
    case isFalse => exact pure fun _ _ => trivial

theorem messageSent (id : MessageId) (scans : ∀ peer, kind (.scan (.forPeer peer)))
    (revises : ∀ message : Message, message.id = id → kind (.write (.updateMessage message))) :
    Walks host kind before (messageSent id) fun _ _ => True := by
  refine (advance faultless keyed id (by decide) revises).bind fun sent => ?_
  split
  · exact pure fun _ _ => trivial
  · split
    · exact (resend faultless _ (scans _)).answer
    · exact pure fun _ _ => trivial

theorem uploadCompleted (id : MessageId) (remote : String) (completes : kind (.complete id))
    (revises : ∀ message : Message, message.id = id → kind (.write (.updateMessage message))) :
    Walks host kind before (uploadCompleted id remote) fun _ _ => True := by
  refine (look faultless _ _).bind fun found => ?_
  split
  case h_1 => exact pure fun _ _ => trivial
  case h_2 message =>
    split
    case h_1 => exact pure fun _ _ => trivial
    case h_2 attachment has =>
      refine Walks.given (fun _ holds => (keyed _ holds.2).key_eq holds.1.symm) fun own => ?_
      subst own
      refine Walks.bind (updateMessage faultless (revises _ rfl) ?_) fun _ => ?_
      · rintro outbox ⟨stored, -⟩
        exact ⟨message, stored.symm, .uploaded attachment remote has⟩
      · refine (complete completes fun outbox stored => ?_).mono (fun _ h => h) fun _ _ _ => trivial
        refine ⟨_, stored, rfl, fun file mem => ?_⟩
        rw [← Option.some.inj mem]
        rfl

theorem mediaPrepared (id : MessageId) (preview : Option String) (length : Nat)
    (resumes : kind (.resume id))
    (revises : ∀ message : Message, message.id = id → kind (.write (.updateMessage message))) :
    Walks host kind before (mediaPrepared id preview length) fun _ _ => True := by
  refine (look faultless _ _).bind fun found => ?_
  split
  case h_1 => exact pure fun _ _ => trivial
  case h_2 message =>
    refine Walks.given (fun _ holds => (keyed _ holds.2).key_eq holds.1.symm) fun own => ?_
    subst own
    refine Walks.bind (updateMessage faultless (revises _ rfl) ?_) fun _ => ?_
    · rintro outbox ⟨stored, -⟩
      exact ⟨message, stored.symm, .prepared preview length⟩
    · dsimp only
      split
      case isTrue => exact pure fun _ _ => trivial
      case isFalse unhanded =>
        have unhanded := Bool.eq_false_iff.2 unhanded
        exact dispatchPrepared faultless
          { message with attachment := message.attachment.map (prepared preview length) } unhanded resumes

end

theorem userSubscribed (identity : Identity)
    (scans : kind (.scan (ScanOptions.forPeer identity).forced)) :
    Walks host kind before (userSubscribed identity) fun _ _ => True := by
  refine (look faultless _ _).bind fun found => ?_
  split
  · split
    · exact (setRequestStatus faultless basic _ (by decide)).bind fun _ =>
        (resend faultless _ scans).answer
    · exact (resend faultless _ scans).answer
  · exact (resend faultless _ scans).answer

omit faultless in
theorem setConnected (connected : Bool) :
    Walks host kind before (setConnected connected) fun _ _ => True :=
  of_move (fun _ => .connect connected) (fun _ _ => basic rfl) (fun _ _ => trivial) fun run _ =>
    ⟨_, _, on_setConnected connected, rfl, by simp [Move.make], trivial⟩

omit faultless basic in
theorem setUploadService (known : Bool) (serves : kind (.serve known)) :
    Walks host kind before (setUploadService known) fun _ _ => True :=
  of_move (fun _ => .serve known) (fun _ _ => serves) (fun _ _ => trivial) fun run _ =>
    ⟨_, _, on_setUploadService known, rfl, by simp [Move.make], trivial⟩

theorem onConnected (scans : kind (.scan {})) : Walks host kind before onConnected fun _ _ => True := by
  refine (setConnected basic true).bind fun _ => (resend faultless _ scans).bind fun _ => ?_
  exact (resendReceipts faultless basic).bind fun _ => sendSubscriptionReplies faultless basic

omit faultless in
theorem onDisconnected (serves : kind (.serve false)) :
    Walks host kind before onDisconnected fun _ _ => True :=
  (setConnected basic false).bind fun _ => setUploadService false serves

theorem onRosterLoaded (scans : kind (.scan {})) :
    Walks host kind before onRosterLoaded fun _ _ => True :=
  (resend faultless _ scans).bind fun _ => resendReceipts faultless basic

omit basic in
theorem onUploadServiceFound (serves : kind (.serve true)) (scans : kind (.scan .mediaRetry)) :
    Walks host kind before onUploadServiceFound fun _ _ => True :=
  (setUploadService true serves).bind fun _ => (resend faultless _ scans).answer

end Messenger.Action.Walks

namespace Messenger

/-! ## Inputs -/

/-- What the outbox can be told: requests, events, and what the rest of the program does to the
threads. -/
inductive Input where
  | request (request : Outbox.Request)
  | event (event : Event)
  | openThread (peer : Identity) (isGroup : Bool)
  | awaitReply (thread : ThreadId)

namespace Input

/-- The scans that an input starts. -/
def Scans : Input → ScanOptions → Prop
  | request (.resend given), options => options = given
  | request (.retryMessage _), options | event (.messageSent _), options =>
    ∃ peer, options = .forPeer peer
  | request (.retryMessagesTo peer), options | event (.groupCreated peer), options =>
    options = .forPeer peer
  | request .retryAll, options | event .connected, options | event .rosterLoaded, options =>
    options = {}
  | event .uploadServiceFound, options => options = .mediaRetry
  | event (.userSubscribed identity), options => options = (ScanOptions.forPeer identity).forced
  | _, _ => False

/-- The moves by which the outbox responds to an input. -/
def Causes (input : Input) : Move → Prop
  | .write (.insertMessage content) => ∃ inbound,
    input = .request (.incoming inbound) ∧ content.status = inbound.arrivalStatus
  | .write (.updateMessage message) => ∃ event, input = .event event ∧ event.revised? = some message.id
  | .scan options => input.Scans options
  | .complete id => ∃ remote, input = .event (.uploadCompleted id remote)
  | .resume id => ∃ preview length, input = .event (.mediaPrepared id preview length)
  | .restart id _ => input = .request (.retryMessage id)
  | .serve known => input = .event (if known then .uploadServiceFound else .disconnected)
  | .write (.setRequestStatus id status) => status = .waitingReply → input = .awaitReply id
  | _ => True

theorem causes_of_isBasic {input : Input} {move : Move} (basic : move.isBasic) : input.Causes move := by
  cases move with
  | restart | resume | scan | complete | serve => cases basic
  | write entry =>
    cases entry with
    | insertMessage | updateMessage => cases basic
    | setRequestStatus id status => exact fun waiting => absurd waiting (of_decide_eq_true basic)
    | _ => trivial
  | _ => trivial

end Input

namespace Outbox

/-- What the outbox, as a service that runs and listens, does about an input. -/
def respond (outbox : Outbox) (host : Host) : Input → Outbox × List Publication
  | .request request =>
    let outcome := { outbox : Service }.request host request
    (outcome.outbox, outcome.publications)
  | .event event =>
    let outcome := { outbox : Service }.deliver host event
    (outcome.outbox, outcome.publications)
  | .openThread peer isGroup =>
    ({ outbox with store := (outbox.store.ensureThread peer isGroup).store }, [])
  | .awaitReply thread =>
    ({ outbox with store := (outbox.store.setRequestStatus thread .waitingReply).store }, [])

theorem respond_handled {outbox : Outbox} {host : Host} {event : Event} {next : Run}
    (wanted : wants event = true) (handled : (handle event).on host { outbox with } = .ok () next) :
    outbox.respond host (.event event) = (next.toOutbox, next.publications) := by
  have done : (Action.attempt (handle event)).on host { outbox with } = .ok () next := by
    rw [Action.on_attempt, handled]
  have delivered : { outbox : Service }.deliver host event = _ :=
    (if_pos (by simpa using wanted)).trans (Action.run_of_ok done)
  exact Prod.ext (congrArg Outcome.outbox delivered) (congrArg Outcome.publications delivered)

/-- What is left when there is a connection: a scan, receipts that were asked for again, and answers. -/
theorem respond_connected_of {outbox : Outbox} {host : Host} {plan : Plan} {scanned receipted last : Run}
    (scans : (resend {}).on host { outbox with connected := true } = .ok plan scanned)
    (receipts : resendReceipts.on host scanned = .ok () receipted)
    (replies : sendSubscriptionReplies.on host receipted = .ok () last) :
    outbox.respond host (.event .connected) = (last.toOutbox, last.publications) := by
  refine respond_handled rfl ?_
  rw [handle, onConnected, Action.on_bind, Action.on_setConnected]
  dsimp only
  rw [Action.on_bind, scans]
  dsimp only
  rw [Action.on_bind, receipts]
  dsimp only
  rw [replies]

open Messenger.Action (Walks)

variable {host : Host} (faultless : host.Faultless)
include faultless

theorem walks_perform (request : Request) : Walks host (Input.request request).Causes
    (fun outbox => outbox.store.messages.KeyedBy (·.id)) (perform request) fun _ _ => True := by
  have basic {move : Move} (basic : move.isBasic) : (Input.request request).Causes move :=
    Input.causes_of_isBasic basic
  have keyed (outbox : Outbox) (keyed : outbox.store.messages.KeyedBy (·.id)) :
      outbox.store.messages.KeyedBy (·.id) := keyed
  cases request with
  | sendText thread text inReplyTo => exact (Walks.sendText faultless basic _ _ _).map
  | sendLocation thread location => exact (Walks.sendLocation faultless basic _ _).map
  | sendBinary thread binary => exact (Walks.sendBinary faultless basic _ _).map
  | createGroup group people subject => exact (Walks.createGroup faultless basic _ _ _).map
  | addGroupMembers group people => exact (Walks.addGroupMembers faultless basic _ _).map
  | removeGroupMembers group people => exact (Walks.removeGroupMembers faultless basic _ _).map
  | setGroupSubject group subject => exact (Walks.setGroupSubject faultless basic _ _).map
  | leaveGroup group => exact (Walks.leaveGroup faultless basic _).map
  | retryMessage id => exact (Walks.retryMessage faultless id (fun _ => rfl) fun peer => ⟨peer, rfl⟩).map
  | retryMessagesTo peer =>
    exact (Walks.retryHeld faultless basic _ _ rfl keyed rfl).map
  | retryAll => exact (Walks.retryHeld faultless basic _ _ rfl keyed rfl).map
  | replySubscription thread action => exact (Walks.replySubscription faultless basic _ _).map
  | incoming message =>
    exact (Walks.incoming faultless basic _ fun content status => ⟨message, rfl, status⟩).map
  | resend options =>
    have scans : (Input.request (.resend options)).Causes (.scan options) := rfl
    exact Walks.map (Walks.resend faultless options scans)

theorem walks_handle (event : Event) : Walks host (Input.event event).Causes
    (fun outbox => outbox.store.messages.KeyedBy (·.id)) (handle event) fun _ _ => True := by
  have basic {move : Move} (basic : move.isBasic) : (Input.event event).Causes move :=
    Input.causes_of_isBasic basic
  have keyed (outbox : Outbox) (keyed : outbox.store.messages.KeyedBy (·.id)) :
      outbox.store.messages.KeyedBy (·.id) := keyed
  have revises {id : MessageId} (about : event.revised? = some id) (message : Message)
      (own : message.id = id) : (Input.event event).Causes (.write (.updateMessage message)) :=
    ⟨event, rfl, own ▸ about⟩
  unfold handle
  split
  case h_1 => exact Walks.onConnected faultless basic rfl
  case h_2 => exact Walks.onDisconnected basic rfl
  case h_3 => exact Walks.onRosterLoaded faultless basic rfl
  case h_4 => exact Walks.onUploadServiceFound faultless rfl rfl
  case h_5 group =>
    have scans : (Input.event (.groupCreated group)).Causes (.scan (.forPeer group)) := rfl
    exact Walks.map (Walks.resend faultless _ scans)
  case h_6 identity => exact Walks.userSubscribed faultless basic identity rfl
  case h_7 id =>
    exact Walks.messageSent faultless keyed id (fun peer => ⟨peer, rfl⟩) (revises rfl)
  case h_8 id => exact (Walks.advance faultless keyed id (by decide) (revises rfl)).map
  case h_9 id => exact (Walks.advance faultless keyed id (by decide) (revises rfl)).map
  case h_10 id => exact (Walks.advance faultless keyed id (by decide) (revises rfl)).map
  case h_11 id remote =>
    exact Walks.uploadCompleted faultless keyed id remote ⟨remote, rfl⟩ (revises rfl)
  case h_12 id preview length =>
    exact Walks.mediaPrepared faultless keyed id preview length ⟨preview, length, rfl⟩ (revises rfl)
  case h_13 => exact Walks.pure fun _ _ => trivial

omit faultless in
theorem walk_run {action : Action α} {kind : Move → Prop} {before : Outbox → Prop}
    {after : α → Outbox → Prop} (walks : Walks host kind before action after) {outbox : Outbox}
    (start : before outbox) :
    Walk host kind outbox (action.run host outbox).publications (action.run host outbox).outbox := by
  have walked := walks { outbox with } start
  cases ran : action.on host { outbox with } with
  | ok a next =>
    rw [ran] at walked
    obtain ⟨⟨published, eq, walk⟩, -⟩ := walked
    rw [List.nil_append] at eq
    rw [Action.run_of_ok ran, eq]
    exact walk
  | error failure next =>
    rw [ran] at walked
    obtain ⟨published, eq, walk⟩ := walked
    rw [List.nil_append] at eq
    rw [Action.run_of_error ran, eq]
    exact walk

theorem walk_respond {outbox : Outbox} (keyed : outbox.store.messages.KeyedBy (·.id)) (input : Input) :
    Walk host input.Causes outbox (outbox.respond host input).2 (outbox.respond host input).1 := by
  cases input with
  | request request => exact walk_run (walks_perform faultless request) keyed
  | event event =>
    unfold respond Service.deliver
    dsimp only
    split
    · exact walk_run (walks_handle faultless event).attempt keyed
    · exact .refl outbox
  | openThread peer isGroup =>
    exact (Walk.refl outbox).move (.write (.ensureThread peer isGroup)) trivial trivial
  | awaitReply thread =>
    exact (Walk.refl outbox).move (.write (.setRequestStatus thread .waitingReply)) (fun _ => rfl) trivial

end Outbox

/-! ## Lives of the outbox -/

/-- Something that the outbox is told, and what surrounds it at that time. -/
structure Stimulus where
  host : Host
  input : Input

/-- What the outbox is after having been told all this, and all that it has published. -/
def Outbox.play (outbox : Outbox) : List Stimulus → Outbox × List Publication
  | [] => (outbox, [])
  | stimulus :: rest =>
    let (next, publications) := outbox.respond stimulus.host stimulus.input
    let (last, later) := next.play rest
    (last, publications ++ later)

namespace Outbox

variable {outbox : Outbox}

theorem mem_play {stimuli : List Stimulus} {publication : Publication} :
    publication ∈ (outbox.play stimuli).2 ↔ ∃ before stimulus after,
      stimuli = before ++ stimulus :: after ∧
        publication ∈ ((outbox.play before).1.respond stimulus.host stimulus.input).2 := by
  induction stimuli generalizing outbox with
  | nil => simp [play]
  | cons first rest ih =>
    have split : (outbox.play (first :: rest)).2 = (outbox.respond first.host first.input).2 ++
        ((outbox.respond first.host first.input).1.play rest).2 := rfl
    rw [split, List.mem_append, ih]
    constructor
    · rintro (now | ⟨before, stimulus, after, rfl, later⟩)
      · exact ⟨[], first, rest, rfl, now⟩
      · exact ⟨first :: before, stimulus, after, rfl, later⟩
    · rintro ⟨before, stimulus, after, eq, mem⟩
      cases before with
      | nil =>
        cases eq
        exact Or.inl mem
      | cons head before =>
        cases eq
        exact Or.inr ⟨before, stimulus, after, rfl, mem⟩

end Outbox

end Messenger

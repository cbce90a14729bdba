/-
# Whatever fails

One lemma for each action of the outbox, under the action's own name: it does deeds, whatever the host
makes fail on the way.  So does every response to an input (`deeds_respond`).
-/
import Messenger.Proofs.Outbox.Deeds

namespace Messenger

/-- An action does deeds from any store in order. -/
def Action.Acts (host : Host) (free : Prop) (action : Action α) : Prop :=
  Action.Does host free (fun _ => True) action fun _ _ => True

theorem Action.Acts.map {host : Host} {free : Prop} {action : Action α} (acts : action.Acts host free)
    (f : α → β) : Acts host free (f <$> action) :=
  Does.map acts

theorem threadless_of_planned {store : Store} (filed : store.Filed) {options : ScanOptions}
    {uploadAvailable : Bool} {membersOf : Identity → List Identity} {query : Query} {id : MessageId}
    (mem : id ∈ (planScan (store.queryMessages query) options uploadAvailable membersOf).delete)
    {message : Message} (stored : store.messages.get? id = some message) : message.thread.isNone := by
  obtain ⟨before, picked, after, eq, rfl, decided, -⟩ :=
    Scan.free_of_decided (Plan.mem_delete.1 mem) nofun
  have sought : picked ∈ Scan.candidates options membersOf (store.queryMessages query) := by simp [eq]
  have listed := (Store.mem_queryMessages.1 (Scan.mem_candidates.1 sought).1).1
  obtain rfl : picked = message :=
    Option.some.inj ((filed.messages.mem_values_iff.1 listed).symm.trans stored)
  exact Scan.threadless_of_delete decided.symm

namespace Store

variable {host : Host} {free : Prop} {store : Store}

theorem ensureThread_amends (store : Store) (peer : Identity) (isGroup : Bool) :
    Amends host free store (store.ensureThread peer isGroup).store := by
  rw [ensureThread_store]
  cases known : store.threadForPeer? peer with
  | some thread => exact .refl
  | none => exact .one (.found peer isGroup) trivial known

theorem setRequestStatus_amends (filed : store.Filed) (id : ThreadId) (status : RequestStatus)
    (may : ∀ row, store.threads.get? id = some row →
      free ∨ row.requestStatus.pendingReply = none ∧ status.pendingReply = none) :
    Amends host free store (store.setRequestStatus id status).store := by
  unfold setRequestStatus
  cases found : store.threads.get? id with
  | none => exact .refl
  | some row =>
    have own : row.id = id := filed.threads.key_eq found
    subst own
    exact .one (.answer row status) (may row found) found

end Store

/-! ## What plain edits keep -/

theorem stable_true : Stable fun _ => True := fun _ _ _ _ => trivial

theorem stable_groups (holds : Table Identity Group → Prop) : Stable fun store => holds store.groups := by
  intro store edit start plain
  cases edit <;> first | exact start | cases plain

theorem stable_threadOf (holds : Table Identity ThreadId → Prop) :
    Stable fun store => holds store.threadOf := by
  intro store edit start plain
  cases edit <;> first | exact start | cases plain

namespace Action.Does

open Outbox

variable {host : Host} {free : Prop} {before : Store → Prop}

/-! ## Handing over -/

theorem reads (call : StoreCall) (f : Store → α) :
    Does host free before (Action.look call f) fun _ => before :=
  (look call f).post fun _ _ holds => holds.2

theorem threadStalled (message : Message) :
    Does host free before (threadStalled message) fun _ => before := by
  unfold Outbox.threadStalled
  split
  · exact pure fun _ holds => holds
  · exact reads _ _

theorem dispatchFresh (message : Message) :
    Does host free before (dispatchFresh message) fun _ => before := by
  unfold Outbox.dispatchFresh
  split
  · exact pure fun _ holds => holds
  refine (threadStalled message).bind fun stalled => ?_
  split
  · exact pure fun _ holds => holds
  split
  · refine outbox.bind fun now => ?_
    split
    · exact publish (Or.inr rfl)
    · exact pure fun _ holds => holds
  · exact publish (Or.inr rfl)

theorem membersFor (messages : List Message) :
    Does host free before (membersFor messages) fun _ => before := by
  unfold Outbox.membersFor
  split
  · exact reads _ _
  · exact pure fun _ holds => holds

theorem resend (stable : Stable before) (options : ScanOptions) :
    Does host free before (resend options) fun _ => before := by
  refine (look _ _).bind fun messages => ?_
  refine (membersFor messages).bind fun membersOf => outbox.bind fun now => ?_
  refine Does.bind (forM fun dispatch _ => publish (Or.inr (by cases dispatch <;> rfl))) fun _ => ?_
  split
  · exact pure fun _ holds => holds.2
  · refine answer (plain (fun store filed holds => ?_) (fun _ holds => holds.2) stable)
    refine Store.deleteMessages_edits_of_threadless filed fun id mem message stored => ?_
    rw [holds.1] at mem
    exact threadless_of_planned filed mem stored

/-! ## New messages -/

theorem loadThread (id : ThreadId) : Does host free before (loadThread id) fun _ => before := by
  refine (reads _ _).bind fun found => ?_
  cases found with
  | none => exact fail _
  | some thread => exact pure fun _ holds => holds

theorem loadGroup (id : Identity) : Does host free before (loadGroup id)
    fun group store => store.group? id = some group ∧ before store := by
  refine (look _ _).bind fun found => ?_
  cases found with
  | none => exact fail _
  | some group => exact pure fun _ holds => ⟨holds.1.symm, holds.2⟩

theorem groupRefOf (thread : Thread) : Does host free before (groupRefOf thread) fun _ _ => True := by
  unfold Outbox.groupRefOf
  split
  · exact (loadGroup _).bind fun _ => pure fun _ _ => trivial
  · exact pure fun _ _ => trivial

theorem compose (thread : Thread) (mime : String) :
    Does host free before (compose thread mime) fun _ _ => True :=
  (groupRefOf thread).bind fun _ => read.bind fun _ => issueServerId.bind fun _ =>
    pure fun _ _ => trivial

theorem insertMessage (stable : Stable before) (content : MessageContent) :
    Does host free before (Action.commit .insertMessage (·.insertMessage content)) fun _ => before :=
  plain (fun _ filed _ => Store.insertMessage_edits filed content) (fun _ holds => holds) stable

theorem enqueue (stable : Stable before) (content : MessageContent) :
    Does host free before (enqueue content) fun _ => before :=
  (insertMessage stable content).bind fun message => (dispatchFresh message).bind fun _ =>
    pure fun _ holds => holds

theorem sendText (thread : ThreadId) (text : String) (inReplyTo : Option MessageId) :
    Acts host free (sendText thread text inReplyTo) :=
  (loadThread thread).bind fun _ => (compose _ _).bind fun _ => enqueue stable_true _

theorem sendLocation (thread : ThreadId) (location : Location) :
    Acts host free (sendLocation thread location) :=
  (loadThread thread).bind fun _ => (compose _ _).bind fun _ => enqueue stable_true _

theorem sendBinary (thread : ThreadId) (binary : Binary) : Acts host free (sendBinary thread binary) := by
  refine (loadThread thread).bind fun row => (compose row binary.mime).bind fun content => ?_
  refine read.bind fun host => ?_
  dsimp only
  split
  · refine ((insertMessage stable_true _).pre fun _ _ _ => trivial).bind fun message => ?_
    exact (publish (Or.inr rfl)).bind fun _ => pure fun _ _ => trivial
  · exact (enqueue stable_true _).pre fun _ _ _ => trivial

/-! ## Groups -/

theorem selfIdentity : Does host free before selfIdentity fun me store =>
    host.settings.selfIdentity = some me ∧ before store := by
  refine read.bind fun here => ?_
  cases known : here.settings.selfIdentity with
  | none => exact fail _
  | some me => exact pure fun _ holds => ⟨holds.1 ▸ known, holds.2⟩

theorem save (group : Group) (saved : ∀ store, store.Filed → before store →
      group.Saved host.settings.selfIdentity store) :
    Does host free before (save group) fun _ store =>
      ∃ earlier, before earlier ∧ store = (earlier.saveGroup group).store := by
  refine (commit fun store filed start =>
    .one (.group group) (saved store filed start) trivial).post ?_
  rintro _ store ⟨earlier, -, start, -, rfl⟩
  exact ⟨earlier, start, rfl⟩

theorem ensureThread (peer : Identity) (isGroup : Bool) :
    Does host free before (Action.commit .ensureThread (·.ensureThread peer isGroup))
      fun thread store => store.threadOf.get? peer = some thread.id ∧
        ∃ earlier, before earlier ∧ store = (earlier.ensureThread peer isGroup).store := by
  refine (commit fun store _ _ => store.ensureThread_amends peer isGroup).post ?_
  rintro _ _ ⟨earlier, filed, start, rfl, rfl⟩
  obtain ⟨id, leads, found⟩ :=
    Option.bind_eq_some_iff.1 (earlier.threadForPeer?_ensureThread peer isGroup)
  have later : (earlier.ensureThread peer isGroup).store.Filed :=
    filed.after (.ensureThread peer isGroup)
  exact ⟨(later.threads.key_eq found).symm ▸ leads, earlier, start, rfl⟩

/-- The group is stored, under whatever name. -/
def Keeps (group : Group) (store : Store) : Prop := ∃ key, store.group? key = some group

theorem keeps_saved (store : Store) (group : Group) : Keeps group (store.saveGroup group).store :=
  ⟨group.id, by simp [Store.group?, Store.saveGroup]⟩

theorem moveToThread (group : Group) (thread : Thread) :
    Does host free (fun store => Keeps group store ∧ store.threadOf.get? group.id = some thread.id)
      (moveToThread group thread) Keeps := by
  unfold Outbox.moveToThread
  split
  · exact pure fun _ holds => holds.1
  · refine (save _ fun store _ holds => ?_).bind fun _ => pure ?_
    · obtain ⟨⟨key, stored⟩, home⟩ := holds
      exact .moved stored thread.id home
    · rintro _ ⟨earlier, -, rfl⟩
      exact keeps_saved earlier _

theorem sendGroupCommand (group : Group) (command : GroupCommand) :
    Does host free (Keeps group) (sendGroupCommand group command)
      fun sent => Keeps sent.2 := by
  refine (ensureThread group.id true).bind fun thread => ?_
  refine ((moveToThread group thread).pre ?_).bind fun moved => ?_
  · rintro _ - ⟨home, earlier, ⟨key, stored⟩, rfl⟩
    exact ⟨⟨key, by rw [Store.group?, Store.groups_ensureThread]; exact stored⟩, home⟩
  · refine issueServerId.bind fun name => read.bind fun here => ?_
    exact ((enqueue (stable_groups fun groups => ∃ key, groups.get? key = some moved) _).pre
      fun _ _ holds => holds.2).bind fun id => pure fun _ holds => holds

theorem saveAndSend (group : Group) (command : GroupCommand)
    (saved : ∀ store, store.Filed → before store → group.Saved host.settings.selfIdentity store) :
    Does host free before (do
      Outbox.save group
      return (← Outbox.sendGroupCommand group command).1) fun _ _ => True := by
  refine (save group saved).bind fun _ => ?_
  refine ((sendGroupCommand group command).mono ?_ fun _ _ _ => trivial).answer
  rintro _ - ⟨earlier, -, rfl⟩
  exact keeps_saved earlier group

theorem createGroup (id : Identity) (people : List Identity) (subject : Option String) :
    Acts host free (createGroup id people subject) := by
  refine selfIdentity.bind fun me => Does.bind (ensureThread id true) fun thread => ?_
  refine saveAndSend _ _ fun store _ holds => ?_
  obtain ⟨home, earlier, ⟨own, -⟩, -⟩ := holds
  exact .founded id me people subject thread.id own home

theorem addGroupMembers (id : Identity) (people : List Identity) :
    Acts host free (addGroupMembers id people) := by
  refine selfIdentity.bind fun me => (loadGroup id).bind fun group => ?_
  exact saveAndSend _ _ fun store _ holds => .enlarged holds.1 holds.2.1 people

theorem removeGroupMembers (id : Identity) (people : List Identity) :
    Acts host free (removeGroupMembers id people) :=
  (loadGroup id).bind fun _ => saveAndSend _ _ fun _ _ holds => .reduced holds.1 people

theorem setGroupSubject (id : Identity) (subject : String) :
    Acts host free (setGroupSubject id subject) :=
  (loadGroup id).bind fun _ => saveAndSend _ _ fun _ _ holds => .renamed holds.1 subject

theorem leaveGroup (id : Identity) : Acts host free (leaveGroup id) := by
  refine (loadGroup id).bind fun group => ?_
  refine ((sendGroupCommand group .part).pre fun _ _ holds => ⟨id, holds.1⟩).bind
    fun sent => ?_
  refine ((save _ fun store _ holds => ?_).post fun _ _ _ => trivial).answer
  obtain ⟨key, stored⟩ := holds
  exact .parted stored

/-! ## Arriving messages -/

theorem applyInboundGroup (group : InboundGroup) (sender : Identity) (thread : ThreadId) :
    Does host free (fun store => store.threadOf.get? group.id = some thread)
      (applyInboundGroup group sender thread) fun _ _ => True := by
  refine read.bind fun here => (look _ _).bind fun known => ?_
  refine (save _ fun store _ holds => ?_).post fun _ _ _ => trivial
  obtain ⟨rfl, rfl, home⟩ := holds
  exact .received group.id group.owner sender group.command thread home

theorem learnFrom (inbound : InboundMessage) (thread : ThreadId) :
    Does host free (fun store => ∀ group ∈ inbound.group, store.threadOf.get? group.id = some thread)
      (learnFrom inbound thread) fun _ _ => True := by
  unfold Outbox.learnFrom
  cases known : inbound.group with
  | some group =>
    refine attempt ((applyInboundGroup group inbound.sender thread).pre ?_)
    exact fun _ _ home => home group rfl
  | none =>
    exact attempt (plain (fun store _ _ => store.markRegistered_edits _) (fun _ _ => trivial) stable_true)

theorem fetchAttachment (inbound : InboundMessage) (id : MessageId) :
    Acts host free (fetchAttachment inbound id) := by
  unfold Outbox.fetchAttachment
  split
  · exact pure fun _ holds => holds
  · refine read.bind fun here => ?_
    split
    · exact (publish (Or.inr rfl)).pre fun _ _ holds => holds.2
    · exact pure fun _ _ => trivial

theorem replyTarget (serverId : String) :
    Does host free before (replyTarget serverId) fun _ => before := by
  refine (reads _ _).bind fun found => ?_
  split
  · exact pure fun _ holds => holds
  · exact (reads _ _).bind fun _ => pure fun _ holds => holds

theorem notify (peer : Identity) (thread : ThreadId) : Acts host free (notify peer thread) := by
  refine (signal _).bind fun _ => read.bind fun here => ?_
  split
  · exact (signal _).pre fun _ _ holds => holds.2
  · exact (signal _).pre fun _ _ holds => holds.2

theorem incoming (inbound : InboundMessage) : Acts host free (incoming inbound) := by
  refine (reads _ _).bind fun known => ?_
  split
  · exact pure fun _ holds => holds
  refine read.bind fun here => (ensureThread _ _).bind fun thread => ?_
  -- With and without a quoted message, what follows is the same.
  rcases inbound.inReplyTo with _ | serverId <;> dsimp only
  refine skip.bind fun inReplyTo => ?_
  rotate_left
  refine (replyTarget serverId).bind fun inReplyTo => ?_
  all_goals
    -- The thread is that of the group, if the message is for one, and stays so.
    refine ((insertMessage (stable_threadOf fun index => ∀ group ∈ inbound.group,
      index.get? group.id = some thread.id) _).pre ?_).bind fun message => ?_
    · rintro store - ⟨leads, -⟩ group mem
      rw [Option.mem_def] at mem
      rw [mem] at leads
      exact leads
    refine (learnFrom inbound thread.id).bind fun _ => (fetchAttachment inbound _).bind fun _ => ?_
    split
    · refine (publish (Or.inr rfl)).bind fun _ => ?_
      split
      · exact (notify _ _).answer
      · exact pure fun _ _ => trivial
    · split
      · exact (notify _ _).answer
      · exact pure fun _ _ => trivial

/-! ## Trying again -/

theorem updateStatuses (stable : Stable before) (ids : List MessageId) (status : Status) (now : Int) :
    Does host free before (Action.commit .updateStatuses (·.updateStatuses ids status now))
      fun _ => before :=
  plain (fun _ filed _ => Store.updateStatuses_edits filed ids status now) (fun _ holds => holds) stable

theorem retryMessage (id : MessageId) : Acts host free (retryMessage id) := by
  refine (reads _ _).bind fun found => ?_
  split
  · exact fail _
  · refine read.bind fun here => ?_
    refine Does.bind ((updateStatuses stable_true _ _ _).pre fun _ _ _ => trivial) fun _ => ?_
    exact (resend stable_true _).answer

theorem retryHeld (query : Query) (options : ScanOptions) : Acts host free (retryHeld query options) := by
  refine (reads _ _).bind fun held => read.bind fun here => ?_
  refine Does.bind ((updateStatuses stable_true _ _ _).pre fun _ _ _ => trivial) fun _ => ?_
  exact (resend stable_true _).answer

theorem resendReceipts : Acts host free resendReceipts :=
  (reads _ _).bind fun _ => forM fun _ _ => publish (Or.inr rfl)

theorem setRequestStatus (id : ThreadId) (status : RequestStatus)
    (may : ∀ store row, store.Filed → before store → store.threads.get? id = some row →
      free ∨ row.requestStatus.pendingReply = none ∧ status.pendingReply = none) :
    Does host free before (Action.commit .setRequestStatus (·.setRequestStatus id status))
      fun _ _ => True := by
  refine (commit fun store filed start => ?_).post fun _ _ _ => trivial
  exact Store.setRequestStatus_amends filed id status fun row => may store row filed start

section
variable (may : free)
include may

theorem sendSubscriptionReply (thread : Thread) : Acts host free (sendSubscriptionReply thread) := by
  unfold Outbox.sendSubscriptionReply
  split
  · exact pure fun _ holds => holds
  · exact (publish (Or.inl may)).bind fun _ => setRequestStatus _ _ fun _ _ _ _ _ => Or.inl may

theorem sendSubscriptionReplies : Acts host free sendSubscriptionReplies :=
  (reads _ _).bind fun _ => forM fun thread _ => sendSubscriptionReply may thread

theorem replySubscription (thread : ThreadId) (action : PrivacyAction) :
    Acts host free (replySubscription thread action) := by
  refine (loadThread thread).bind fun row => ?_
  refine (setRequestStatus _ _ fun _ _ _ _ _ => Or.inl may).bind fun _ => outbox.bind fun now => ?_
  split
  · exact sendSubscriptionReplies may
  · exact pure fun _ holds => holds

end

/-! ## Events -/

theorem updateMessage (message : Message) :
    Does host free before (Action.commit? .updateMessage (·.updateMessage message)) fun _ _ => True :=
  commit? fun _ _ filed _ done => (Store.updateMessage_edits filed done).amends

theorem advance (id : MessageId) (status : Status) : Acts host free (advance id status) := by
  refine (reads _ _).bind fun found => ?_
  split
  · exact pure fun _ holds => holds
  · split
    · exact read.bind fun here => (updateMessage _).answer
    · exact pure fun _ holds => holds

theorem messageSent (id : MessageId) : Acts host free (messageSent id) := by
  refine (advance id .sent).bind fun sent => ?_
  split
  · exact pure fun _ holds => holds
  · split
    · exact (resend stable_true _).answer
    · exact pure fun _ holds => holds

theorem uploadCompleted (id : MessageId) (remote : String) :
    Acts host free (uploadCompleted id remote) := by
  refine (reads _ _).bind fun found => ?_
  split
  · exact pure fun _ holds => holds
  · split
    · exact pure fun _ holds => holds
    · exact (updateMessage _).bind fun _ => publish (Or.inr rfl)

theorem mediaPrepared (id : MessageId) (preview : Option String) (length : Nat) :
    Acts host free (mediaPrepared id preview length) := by
  refine (reads _ _).bind fun found => ?_
  split
  · exact pure fun _ holds => holds
  · refine (updateMessage _).bind fun _ => ?_
    split
    · exact pure fun _ holds => holds
    · exact dispatchFresh _

theorem userSubscribed (identity : Identity) : Acts host free (userSubscribed identity) := by
  refine (look _ _).bind fun found => ?_
  split
  case h_1 thread =>
    split
    case isTrue waits =>
      refine (setRequestStatus _ _ fun store row filed holds stands => Or.inr ⟨?_, rfl⟩).bind fun _ =>
        (resend stable_true _).answer
      obtain ⟨id, leads, known⟩ := Option.bind_eq_some_iff.1 holds.1.symm
      rw [filed.threads.key_eq known, known] at stands
      rw [← Option.some.inj stands, waits]
      rfl
    case isFalse => exact ((resend stable_true _).pre fun _ _ _ => trivial).answer
  case h_2 => exact ((resend stable_true _).pre fun _ _ _ => trivial).answer

theorem onConnected (may : free) : Acts host free onConnected :=
  (setConnected may true).bind fun _ => (resend stable_true _).bind fun _ =>
    resendReceipts.bind fun _ => sendSubscriptionReplies may

theorem onDisconnected (may : free) : Acts host free onDisconnected :=
  (setConnected may false).bind fun _ => setUploadService false

theorem onRosterLoaded : Acts host free onRosterLoaded :=
  (resend stable_true _).bind fun _ => resendReceipts

theorem onUploadServiceFound : Acts host free onUploadServiceFound :=
  (setUploadService true).bind fun _ => (resend stable_true _).answer

end Action.Does

/-! ## Inputs -/

/-- An input that neither gives an answer to a conversation request nor tells how the connection is. -/
def Input.IsCalm : Input → Prop
  | .request (.replySubscription _ _) | .event .connected | .event .disconnected | .awaitReply _ => False
  | _ => True

namespace Outbox

open Messenger.Action

variable {host : Host} {free : Prop}

theorem acts_perform (request : Request) (may : free ∨ (Input.request request).IsCalm) :
    Acts host free (perform request) := by
  cases request with
  | sendText thread text inReplyTo => exact (Does.sendText _ _ _).map _
  | sendLocation thread location => exact (Does.sendLocation _ _).map _
  | sendBinary thread binary => exact (Does.sendBinary _ _).map _
  | createGroup group people subject => exact (Does.createGroup _ _ _).map _
  | addGroupMembers group people => exact (Does.addGroupMembers _ _).map _
  | removeGroupMembers group people => exact (Does.removeGroupMembers _ _).map _
  | setGroupSubject group subject => exact (Does.setGroupSubject _ _).map _
  | leaveGroup group => exact (Does.leaveGroup _).map _
  | retryMessage id => exact (Does.retryMessage _).map _
  | retryMessagesTo peer => exact (Does.retryHeld _ _).map _
  | retryAll => exact (Does.retryHeld _ _).map _
  | replySubscription thread action => exact (Does.replySubscription (may.resolve_right id) _ _).map _
  | incoming message => exact (Does.incoming _).map _
  | resend options => exact Acts.map (Does.resend stable_true _) _

theorem acts_handle (event : Event) (may : free ∨ (Input.event event).IsCalm) :
    Acts host free (handle event) := by
  unfold handle
  split
  case h_1 => exact Does.onConnected (may.resolve_right id)
  case h_2 => exact Does.onDisconnected (may.resolve_right id)
  case h_3 => exact Does.onRosterLoaded
  case h_4 => exact Does.onUploadServiceFound
  case h_5 group => exact Acts.map (Does.resend stable_true _) _
  case h_6 identity => exact Does.userSubscribed identity
  case h_7 id => exact Does.messageSent id
  case h_8 id => exact (Does.advance id _).map _
  case h_9 id => exact (Does.advance id _).map _
  case h_10 id => exact (Does.advance id _).map _
  case h_11 id remote => exact Does.uploadCompleted id remote
  case h_12 id preview length => exact Does.mediaPrepared id preview length
  case h_13 => exact Does.pure fun _ holds => holds

/-- What is left by an action, whether it came to its end or failed. -/
theorem deeds_run {action : Action α} (acts : Acts host free action) {outbox : Outbox}
    (filed : outbox.store.Filed) : ∃ next : Run, Deeds host free { outbox with } next ∧
      (action.run host outbox).outbox = next.toOutbox ∧
      (action.run host outbox).publications = next.publications := by
  have done := acts { outbox with } filed trivial
  cases ran : action.on host { outbox with } with
  | ok a next =>
    rw [ran] at done
    exact ⟨next, done.1, by rw [run_of_ok ran], by rw [run_of_ok ran]⟩
  | error failure next =>
    rw [ran] at done
    exact ⟨next, done, by rw [run_of_error ran], by rw [run_of_error ran]⟩

theorem deeds_respond {outbox : Outbox} (filed : outbox.store.Filed) {input : Input}
    (may : free ∨ input.IsCalm) : ∃ next : Run, Deeds host free { outbox with } next ∧
      outbox.respond host input = (next.toOutbox, next.publications) := by
  cases input with
  | request request =>
    obtain ⟨next, deeds, left, published⟩ := deeds_run (acts_perform request may) filed
    exact ⟨next, deeds, Prod.ext left published⟩
  | event event =>
    unfold respond Service.deliver
    dsimp only
    split
    · obtain ⟨next, deeds, left, published⟩ := deeds_run (Does.attempt (acts_handle event may)) filed
      exact ⟨next, deeds, Prod.ext left published⟩
    · exact ⟨{ outbox with }, .refl, rfl⟩
  | openThread peer isGroup =>
    refine ⟨{ outbox with store := (outbox.store.ensureThread peer isGroup).store }, ?_, rfl⟩
    exact .of_amends (outbox.store.ensureThread_amends peer isGroup) rfl rfl
  | awaitReply thread =>
    refine ⟨{ outbox with store := (outbox.store.setRequestStatus thread .waitingReply).store }, ?_, rfl⟩
    exact .of_amends (Store.setRequestStatus_amends filed thread _ fun _ _ =>
      Or.inl (may.resolve_right id)) rfl rfl

/-- What every allowed edit keeps is kept in a life of the outbox, whatever fails. -/
theorem holds_play {holds : Store → Prop} {outbox : Outbox} {stimuli : List Stimulus}
    (filed : outbox.store.Filed) (start : holds outbox.store)
    (step : ∀ stimulus ∈ stimuli, ∀ (store : Store) (edit : Edit), holds store →
      edit.Allowed stimulus.host True store → edit.Fits store → holds (edit.make store)) :
    holds (outbox.play stimuli).1.store := by
  induction stimuli generalizing outbox with
  | nil => exact start
  | cons first rest ih =>
    obtain ⟨next, deeds, responds⟩ :=
      @deeds_respond first.host True outbox filed first.input (Or.inl trivial)
    have left : (outbox.respond first.host first.input).1 = next.toOutbox := congrArg Prod.fst responds
    show holds ((outbox.respond first.host first.input).1.play rest).1.store
    rw [left]
    exact ih (deeds.filed filed) (deeds.keeps start (step first List.mem_cons_self))
      fun stimulus mem => step stimulus (List.mem_cons_of_mem _ mem)

end Outbox

end Messenger

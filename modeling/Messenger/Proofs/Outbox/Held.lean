/-
# What is held for review stays held

A message to somebody who has not answered our request yet is stored as held (`Status.pending`).  Of
the ways to hand a message over, the first attempts pass it by, and so do all scans but those that
look for what is held, too:

    userSubscribed    looks for what is held for that person, or for a group with them
    resend            looks for what it is asked to look for

The end of an upload looks at no state at all; but the upload was asked for earlier, when the message
was held already, so a scan of one of the two kinds had selected it then.  Hence a message that is
still held is handed over only if such a scan selected it, now or earlier (`Released`), and nothing
becomes held but a new message in a thread that waits for a reply (`held_until_released`).
-/
import Messenger.Proofs.Outbox.Requests

namespace Messenger

/-! ## Scans for what is held -/

/-- The scans for what is held, too, that an input starts. -/
def Input.Forces : Input → ScanOptions → Prop
  | event (.userSubscribed identity), options => options = (ScanOptions.forPeer identity).forced
  | request (.resend given), options => options = given ∧ given.forcePending = true
  | _, _ => False

/-- The input starts a scan for what is held, too, and the scan selects the message. -/
def Outbox.Releases (outbox : Outbox) (input : Input) (id : MessageId) : Prop :=
  ∃ options message, input.Forces options ∧ outbox.store.message? id = some message ∧
    Scan.isCandidate options message.toMessageContent ∧
    ∀ peer ∈ options.peer, Scan.isAddressedTo outbox.store.liveMembersOf peer message.toMessageContent

/-- One of the stimuli released the message. -/
def Released (id : MessageId) (stimuli : List Stimulus) : Prop :=
  ∃ early stimulus late, stimuli = early ++ stimulus :: late ∧
    (Outbox.play {} early).1.Releases stimulus.input id

theorem Released.append {id : MessageId} {stimuli : List Stimulus} (released : Released id stimuli)
    (more : List Stimulus) : Released id (stimuli ++ more) := by
  obtain ⟨early, stimulus, late, rfl, releases⟩ := released
  exact ⟨early, stimulus, late ++ more, by simp, releases⟩

/-- A scan that looks for what is held was asked to. -/
theorem Input.forces_of_scans {input : Input} {options : ScanOptions} (scans : input.Scans options)
    (forced : options.forcePending = true) : input.Forces options := by
  unfold Scans at scans
  split at scans
  case h_1 => exact ⟨scans, scans ▸ forced⟩
  case h_2 | h_3 =>
    obtain ⟨peer, rfl⟩ := scans
    cases forced
  case h_10 => exact scans
  case h_11 => cases scans
  all_goals
    subst scans
    cases forced

theorem Store.setRequestStatus_same (store : Store) (id : ThreadId) (status : RequestStatus) :
    (store.setRequestStatus id status).store.messages = store.messages ∧
      (store.setRequestStatus id status).store.groups = store.groups := by
  unfold Store.setRequestStatus
  split <;> exact ⟨rfl, rfl⟩

namespace Outbox

open Messenger.Action

variable {outbox : Outbox} {host : Host} (faultless : host.Faultless)
include faultless

theorem on_resend_last (options : ScanOptions) (run : Run) (silent : run.publications = []) :
    ∃ next, (resend options >>= fun _ => pure ()).on host run = .ok () next ∧
      next.publications = (run.toOutbox.plan options).dispatch.map fun dispatch =>
        run.toOutbox.publication dispatch.event := by
  obtain ⟨next, ran, -, published⟩ := on_resend faultless options run
  refine ⟨next, ?_, ?_⟩
  · rw [on_bind, ran]
    rfl
  · rw [published, silent]
    rfl

/-- When somebody has subscribed, a scan hands over what is open for them; what the scan looks at has
not changed before. -/
theorem respond_userSubscribed (outbox : Outbox) (identity : Identity) : ∃ opened : Outbox,
    opened.store.messages = outbox.store.messages ∧ opened.store.groups = outbox.store.groups ∧
      (outbox.respond host (.event (.userSubscribed identity))).2 =
        (opened.plan (ScanOptions.forPeer identity).forced).dispatch.map fun dispatch =>
          opened.publication dispatch.event := by
  obtain ⟨opened, next, messages, groups, handled, published⟩ : ∃ (opened : Outbox) (next : Run),
      opened.store.messages = outbox.store.messages ∧ opened.store.groups = outbox.store.groups ∧
      (handle (.userSubscribed identity)).on host { outbox with } = .ok () next ∧
      next.publications = (opened.plan (ScanOptions.forPeer identity).forced).dispatch.map
        fun dispatch => opened.publication dispatch.event := by
    have same := on_resend_last faultless (ScanOptions.forPeer identity).forced { outbox with } rfl
    obtain ⟨next, ran, published⟩ := same
    rw [handle, userSubscribed, on_bind, on_look faultless]
    dsimp only
    cases outbox.store.threadForPeer? identity with
    | none =>
      exact ⟨outbox, next, rfl, rfl, ran, published⟩
    | some thread =>
      dsimp only
      by_cases waits : thread.requestStatus = .waitingReply
      case pos =>
        obtain ⟨next, ran, published⟩ := on_resend_last faultless
          (ScanOptions.forPeer identity).forced { outbox with
            store := (outbox.store.setRequestStatus thread.id .none).store
            changes := (outbox.store.setRequestStatus thread.id .none).changes } rfl
        obtain ⟨messages, groups⟩ := outbox.store.setRequestStatus_same thread.id .none
        refine ⟨_, next, messages, groups, ?_, published⟩
        rw [if_pos waits, on_bind, on_commit faultless]
        exact ran
      case neg =>
        refine ⟨outbox, next, rfl, rfl, ?_, published⟩
        rw [if_neg waits]
        exact ran
  exact ⟨opened, messages, groups, (congrArg Prod.snd (respond_handled rfl handled)).trans published⟩

theorem releases_of_forced (coherent : outbox.store.Coherent) {input : Input} {options : ScanOptions}
    (forces : input.Forces options) {publication : Publication}
    (mem : publication ∈ (outbox.respond host input).2) {id : MessageId}
    (subject : publication.event.subject? = some id) : outbox.Releases input id := by
  obtain ⟨opened, messages, groups, published⟩ : ∃ opened : Outbox,
      opened.store.messages = outbox.store.messages ∧ opened.store.groups = outbox.store.groups ∧
      (outbox.respond host input).2 = (opened.plan options).dispatch.map fun dispatch =>
        opened.publication dispatch.event := by
    unfold Input.Forces at forces
    split at forces
    case h_1 identity =>
      subst forces
      exact respond_userSubscribed faultless outbox identity
    case h_2 given =>
      obtain ⟨rfl, -⟩ := forces
      exact ⟨outbox, rfl, rfl, respond_resend faultless options⟩
    case h_3 => cases forces
  rw [published] at mem
  obtain ⟨dispatch, planned, rfl⟩ := List.mem_map.1 mem
  obtain rfl : dispatch.id = id := Option.some.inj (dispatch.event_subject?.symm.trans subject)
  obtain ⟨message, sought, own, -⟩ := suits_of_planned planned
  obtain ⟨stored, outgoing, status, media, addressed⟩ := mem_sought.1 sought
  have members : opened.store.liveMembersOf = outbox.store.liveMembersOf := by
    funext group
    rw [Store.liveMembersOf, Store.liveMembersOf, Store.group?, Store.group?, groups]
  rw [messages] at stored
  rw [members] at addressed
  refine ⟨options, message, forces, own ▸ coherent.tidy.mem_messages.1 stored, ?_, addressed⟩
  rw [Scan.isCandidate, outgoing, status, media]
  rfl

end Outbox

/-! ## What is held is not handed over otherwise -/

/-- A message is stored, and is held for review. -/
def Store.HoldsPending (store : Store) (id : MessageId) : Prop :=
  ∃ message, store.message? id = some message ∧ message.status = .pending

theorem Store.HoldsPending.back {store other : Store} {restarted : MessageId → Prop} {id : MessageId}
    (held : other.HoldsPending id) (keeps : store.Keeps restarted other)
    (stored : ∃ message, store.message? id = some message) : store.HoldsPending id := by
  obtain ⟨new, found, pending⟩ := held
  obtain ⟨old, before⟩ := stored
  obtain ⟨same, after, follows⟩ := keeps id old before
  obtain rfl : new = same := Option.some.inj (found.symm.trans after)
  exact ⟨old, before, follows.held pending⟩

/-- Whatever a publication hands over was released, if it is held. -/
def Publication.AfterRelease (publication : Publication) (stimuli : List Stimulus) : Prop :=
  ∀ id, publication.event.subject? = some id → publication.store.HoldsPending id →
    Released id stimuli

namespace Outbox

/-- One response: what it hands over was released by the same input, or it is the end of an upload
that was asked for before. -/
theorem released_respond {before : List Stimulus} {stimulus : Stimulus}
    (faultless : ∀ other ∈ before ++ [stimulus], other.host.Faultless)
    (answering : Answering (before ++ [stimulus]))
    (released : ∀ publication ∈ (play {} before).2, publication.AfterRelease before) :
    ∀ publication ∈ ((play {} before).1.respond stimulus.host stimulus.input).2,
      publication.AfterRelease (before ++ [stimulus]) := by
  intro publication mem id subject held
  obtain ⟨coherent, here⟩ := coherent_before faultless rfl
  obtain ⟨later, move, led, made⟩ := made_of_published coherent here mem
  obtain ⟨message, found, rfl, -, hands⟩ :=
    Move.handsOver_of_made led.coherent made.fits made.mem subject
  rw [Move.store_of_made made.mem] at held
  have pending : message.status = .pending := by
    obtain ⟨same, stored, pending⟩ := held
    obtain rfl : same = message := Option.some.inj (stored.symm.trans found)
    exact pending
  cases hands with
  | attempt _ _ free => exact absurd pending free
  | resume _ free => exact absurd pending free
  | scan options sought =>
    have forced : options.forcePending = true := by
      have status := (mem_sought.1 sought).2.2.1
      rwa [pending] at status
    have forces := Input.forces_of_scans made.causes forced
    exact ⟨before, stimulus, [], rfl, releases_of_forced here coherent forces mem subject⟩
  | complete =>
    -- The upload was asked for when the message was held already.
    obtain ⟨past, answers⟩ := answering_snoc.1 answering
    obtain ⟨remote, eq⟩ := made.causes
    obtain ⟨earlier, asked, asks⟩ := answers (.upload message.id) (by rw [eq]; rfl)
    have uploads : earlier.event.subject? = some message.id := by
      revert asks
      cases earlier.event <;> simp [Event.asks?, Event.subject?]
    have faultless : ∀ other ∈ before, other.host.Faultless :=
      fun other mem => faultless other (List.mem_append_left _ mem)
    obtain ⟨row, stored, -⟩ :=
      ours_of_published faultless past earlier asked message.id (Or.inl uploads)
    have keeps := (keeps_published .empty faultless asked).trans led.keeps
    exact (released earlier asked message.id uploads (held.back keeps ⟨row, stored⟩)).append _

theorem released_of_published {stimuli : List Stimulus}
    (faultless : ∀ stimulus ∈ stimuli, stimulus.host.Faultless) (answering : Answering stimuli) :
    ∀ publication ∈ (play {} stimuli).2, publication.AfterRelease stimuli :=
  forall_published (fun released id subject held => (released id subject held).append _)
    released_respond faultless answering

end Outbox

/-! ## What becomes held -/

/-- The thread waits for a reply to our request. -/
def Store.IsWaiting (store : Store) (id : ThreadId) : Prop :=
  (store.threads.get? id).map (·.requestStatus) = some .waitingReply

namespace Store

variable {store other : Store}

theorem SameThreads.waiting (same : store.SameThreads (·.requestStatus) other) {id : ThreadId}
    (waits : other.IsWaiting id) : store.IsWaiting id :=
  (same.parts id).symm.trans waits

theorem waiting_ensureThread {peer : Identity} {isGroup : Bool} {id : ThreadId}
    (waits : (store.ensureThread peer isGroup).store.IsWaiting id) : store.IsWaiting id := by
  rw [ensureThread_store] at waits
  split at waits
  case isTrue => exact waits
  case isFalse =>
    rw [IsWaiting, found, Table.get?_put] at waits
    split at waits
    case isTrue => cases waits
    case isFalse => exact waits

theorem waiting_setRequestStatus {thread : ThreadId} {status : RequestStatus}
    (settled : status ≠ .waitingReply) {id : ThreadId}
    (waits : (store.setRequestStatus thread status).store.IsWaiting id) : store.IsWaiting id := by
  unfold setRequestStatus at waits
  split at waits
  case h_1 => exact waits
  case h_2 row found =>
    rw [IsWaiting, putThread, Table.get?_put] at waits
    split at waits
    case isTrue => exact absurd (Option.some.inj waits) settled
    case isFalse => exact waits

end Store

namespace Move

variable {outbox : Outbox} {host : Host} {move : Move}

theorem waiting_make (coherent : outbox.store.Coherent) (fits : move.Fits host outbox)
    (settles : ∀ thread, move ≠ .write (.setRequestStatus thread .waitingReply)) {id : ThreadId}
    (waits : (move.make outbox).1.store.IsWaiting id) : outbox.store.IsWaiting id := by
  have inserted {content : MessageContent} (drafted : Drafted outbox.store content)
      (waits : (outbox.store.insertMessage content).store.IsWaiting id) :
      outbox.store.IsWaiting id :=
    (Store.SameThreads.insertMessage (fun _ _ _ => rfl) coherent.tidy
      (Or.inr (coherent.home_of_drafted drafted))).waiting waits
  have restarted {ids : List MessageId} {status : Status} {now : Int}
      (waits : (outbox.store.updateStatuses ids status now).store.IsWaiting id) :
      outbox.store.IsWaiting id :=
    (Store.SameThreads.updateStatuses (fun _ _ _ => rfl) coherent.tidy ids status now).waiting waits
  cases move with
  | write entry =>
    cases entry with
    | insertMessage content => exact inserted fits.1 waits
    | updateMessage message =>
      obtain ⟨old, found, revised⟩ := fits
      have home : message.thread = old.thread := by cases revised <;> rfl
      obtain ⟨committed, done, after⟩ :=
        Write.after_updateMessage message (Table.has_iff.2 ⟨old, found⟩)
      have waits : ((Write.updateMessage message).after outbox.store).IsWaiting id := waits
      rw [after] at waits
      exact (Store.SameThreads.updateMessage (fun _ _ _ => rfl) coherent.tidy found home done).waiting
        waits
    | updateStatuses ids status now => exact restarted waits
    | ensureThread peer isGroup => exact Store.waiting_ensureThread waits
    | setRequestStatus thread status =>
      refine Store.waiting_setRequestStatus ?_ waits
      rintro rfl
      exact settles thread rfl
    | saveGroup group => exact waits
    | markRegistered identity =>
      obtain ⟨contacts, eq⟩ := outbox.store.markRegistered_store identity
      have waits : (outbox.store.markRegistered identity).store.IsWaiting id := waits
      rw [eq] at waits
      exact waits
    | _ => exact fits.elim
  | post content => exact inserted fits.1 waits
  | restart own now =>
    have waits : (outbox.store.updateStatuses [own] .sending now).store.IsWaiting id := waits
    exact restarted waits
  | scan options =>
    rw [make_scan coherent] at waits
    exact waits
  | _ => exact waits

theorem drafted_of_entered {content : MessageContent} (fits : move.Fits host outbox)
    (entered : move.entered? = some content) : Drafted outbox.store content := by
  unfold entered? at entered
  split at entered
  · cases entered
    exact fits.1
  · cases entered
    exact fits.1
  · cases entered

end Move

/-- Only in a thread that waits is a message drafted as held. -/
theorem Drafted.waiting {store : Store} {content : MessageContent} (drafted : Drafted store content)
    (coherent : store.Coherent) (held : content.status = .pending) : store.IsWaiting content.thread := by
  cases drafted with
  | composed id thread group found known composed =>
    rw [composed.status_eq] at held
    split at held
    case isTrue waits =>
      rw [Store.IsWaiting, composed.thread_eq, coherent.tidy.threads.key_eq found, found,
        Option.map_some, waits]
    case isFalse => cases held
  | command group thread command name now found thread_eq content_eq =>
    rw [content_eq] at held
    cases held
  | received peer thread name found thread_eq direction_eq name_eq fresh free => exact absurd held free

namespace Outbox

variable {outbox later : Outbox} {host : Host} {input : Input}

/-- What is held later was held before, or is new in a thread that waited. -/
structure HoldsOnly (outbox later : Outbox) : Prop where
  waiting : ∀ {id : ThreadId}, later.store.IsWaiting id → outbox.store.IsWaiting id
  held : ∀ {id : MessageId} {message : Message}, later.store.message? id = some message →
    message.status = .pending → outbox.store.HoldsPending id ∨
      outbox.store.message? id = none ∧ outbox.store.IsWaiting message.thread

theorem holdsOnly_refl (outbox : Outbox) : outbox.HoldsOnly outbox where
  waiting := fun waits => waits
  held := fun found pending => Or.inl ⟨_, found, pending⟩

theorem HoldsOnly.make {move : Move} (holds : outbox.HoldsOnly later) (led : outbox.LedTo input later)
    (fits : move.Fits host later)
    (settles : ∀ thread, move ≠ .write (.setRequestStatus thread .waitingReply)) :
    outbox.HoldsOnly (move.make later).1 where
  waiting := fun waits => holds.waiting (Move.waiting_make led.coherent fits settles waits)
  held := by
    intro id message found pending
    cases entered : move.entered? with
    | none =>
      obtain ⟨old, before, follows⟩ := (Move.rewritten_make led.coherent fits entered).back found
      rw [follows.thread_eq]
      exact holds.held before (follows.held pending)
    | some content =>
      rw [Move.entered_make entered, Store.message?, Store.insertMessage_messages,
        Table.get?_put] at found
      split at found
      case isTrue new =>
        cases found
        have unknown : outbox.store.message? id = none := new ▸ led.free
        have drafted := Move.drafted_of_entered fits entered
        exact Or.inr ⟨unknown, holds.waiting (drafted.waiting led.coherent pending)⟩
      case isFalse => exact holds.held found pending

/-- A response leaves nothing held that was not, but a new message in a thread that waited. -/
theorem held_respond (coherent : outbox.store.Coherent) (faultless : host.Faultless) (input : Input)
    {id : MessageId} {message : Message}
    (found : (outbox.respond host input).1.store.message? id = some message)
    (pending : message.status = .pending) : outbox.store.HoldsPending id ∨
      outbox.store.message? id = none ∧ outbox.store.IsWaiting message.thread := by
  by_cases opens : ∃ thread, input = .awaitReply thread
  case pos =>
    -- A thread begins to wait, and no message is touched.
    obtain ⟨thread, rfl⟩ := opens
    have stored : (outbox.store.setRequestStatus thread .waitingReply).store.message? id =
        some message := found
    rw [Store.message?, (outbox.store.setRequestStatus_same thread .waitingReply).1] at stored
    exact Or.inl ⟨message, stored, pending⟩
  case neg =>
    let holds (later : Outbox) : Prop := outbox.LedTo input later ∧ outbox.HoldsOnly later
    have start : holds outbox := ⟨led_refl coherent input, holdsOnly_refl outbox⟩
    have ends : holds (outbox.respond host input).1 := by
      refine (walk_respond faultless coherent.tidy.messages input).keeps start ?_
      rintro later move ⟨led, only⟩ causes fits
      refine ⟨led.make causes fits, only.make led fits ?_⟩
      rintro thread rfl
      exact opens ⟨thread, causes rfl⟩
    exact ends.2.held found pending

/-- In every life of the outbox in which only work that was asked for is reported, a message that is
held is handed over, or its file is, only after a scan for what is held selected it; and nothing
becomes held but a new message in a thread that waits for a reply. -/
theorem held_until_released {stimuli : List Stimulus}
    (faultless : ∀ stimulus ∈ stimuli, stimulus.host.Faultless) (answering : Answering stimuli) :
    ∀ before stimulus after, stimuli = before ++ stimulus :: after →
      let outbox := (play {} before).1
      let response := outbox.respond stimulus.host stimulus.input
      (∀ publication ∈ response.2, ∀ id message, publication.event.subject? = some id →
        publication.store.message? id = some message → message.status = .pending →
          Released id (before ++ [stimulus])) ∧
      ∀ id new, response.1.store.message? id = some new → new.status = .pending →
        match outbox.store.message? id with
        | some old => old.status = .pending
        | none => outbox.store.IsWaiting new.thread := by
  intro before stimulus after eq outbox response
  obtain ⟨coherent, here⟩ := coherent_before faultless eq
  constructor
  · intro publication mem id message subject found pending
    have until_now : stimuli = (before ++ [stimulus]) ++ after := by simp [eq]
    have now : ∀ other ∈ before ++ [stimulus], other.host.Faultless :=
      fun other mem => faultless other (until_now ▸ List.mem_append_left _ mem)
    have answers : Answering (before ++ [stimulus]) := by
      intro early other late split
      exact answering early other (late ++ after) (by rw [until_now, split]; simp)
    have published : publication ∈ (play {} (before ++ [stimulus])).2 := by
      rw [published_snoc]
      exact List.mem_append_right _ mem
    exact released_of_published now answers publication published id subject ⟨message, found, pending⟩
  · intro id new found pending
    rcases held_respond coherent here stimulus.input found pending with held | ⟨unknown, waits⟩
    · obtain ⟨old, stored, pending⟩ := held
      rw [stored]
      exact pending
    · rw [unknown]
      exact waits

/-- A file that is held is uploaded when a scan for what is held asks for it, and its message, which is
still held, is sent at the end of the upload. -/
theorem held_until_released_uploaded :
    let host : Host := { settings := {}, serverId := toString }
    let inputs : List Input := [.openThread ⟨"a@x"⟩ false, .awaitReply ⟨1⟩, .event .uploadServiceFound,
      .request (.sendBinary ⟨1⟩ ⟨"/f", "application/pdf", 10, false⟩),
      .request (.resend { retryingMedia := true, forcePending := true })]
    let before := inputs.map (Stimulus.mk host)
    let uploaded : Stimulus := ⟨host, .event (.uploadCompleted ⟨1⟩ "u1")⟩
    ∃ publication ∈ ((play {} before).1.respond host uploaded.input).2,
      publication.event.subject? = some ⟨1⟩ ∧
      (publication.store.message? ⟨1⟩).map (·.status) = some .pending ∧
      Released ⟨1⟩ (before ++ [uploaded]) := by
  intro host inputs before uploaded
  have faultless : ∀ stimulus ∈ before ++ [uploaded], stimulus.host.Faultless := by
    simp [before, inputs, uploaded, Host.Faultless, host]
  have asked : ∃ publication ∈ (play {} before).2,
      publication.event.asks? = some (.upload ⟨1⟩) := by
    decide +kernel
  have answering : Answering (before ++ [uploaded]) := by
    refine answering_snoc.2 ⟨answering_of_silent (by decide +kernel), fun work reports => ?_⟩
    cases reports
    exact asked
  have sent : ∃ publication ∈ ((play {} before).1.respond host uploaded.input).2,
      publication.event.subject? = some ⟨1⟩ ∧
        (publication.store.message? ⟨1⟩).map (·.status) = some .pending := by
    decide +kernel
  obtain ⟨publication, mem, subject, state⟩ := sent
  obtain ⟨message, found, pending⟩ := Option.map_eq_some_iff.1 state
  have held := (held_until_released faultless answering before uploaded [] rfl).1
  exact ⟨publication, mem, subject, state, held publication mem ⟨1⟩ message subject found pending⟩

end Outbox

end Messenger

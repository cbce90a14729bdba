/-
# What a response makes of the state of a message

Whatever the outbox is told, there are few ways in which a stored message comes to another state:

    acknowledged    the state that an acknowledgement tells, if that is further
    restarted       sending, if it is to be started over, whatever it is
    started         sending, if it was held
    kept            the same

and a new message is held or sending if it is one of ours, and as it arrived if it came to us.  This is
`Store.Becomes`, and `becomes_respond` is where it is shown of every input.  An event about a message
writes one row at most (`Store.revision?`), so what it does is known exactly.  Of the other inputs it is
enough to know the moves: none of them asks for another state (`Move.IsCalm`).
-/
import Messenger.Proofs.Outbox.Handovers
import Messenger.Proofs.Outbox.Progress

namespace Messenger

/-! ## Events about a message -/

/-- What an acknowledgement tells: the message is in this state, and it is one of this direction. -/
structure Acknowledgement where
  id : MessageId
  status : Status
  direction : Direction

/-- What an event acknowledges. -/
def Event.acknowledgement? : Event → Option Acknowledgement
  | .messageSent id => some ⟨id, .sent, .outgoing⟩
  | .messageDelivered id => some ⟨id, .received, .outgoing⟩
  | .messageFailed id => some ⟨id, .error, .outgoing⟩
  | .deliveryReceiptSent id => some ⟨id, .confirmed, .incoming⟩
  | _ => none

theorem Event.revised?_of_acks {event : Event} {ack : Acknowledgement}
    (acks : event.acknowledgement? = some ack) : event.revised? = some ack.id := by
  cases event <;> cases acks <;> rfl

theorem Event.acks_outgoing {event : Event} {ack : Acknowledgement}
    (acks : event.acknowledgement? = some ack) (outgoing : ack.direction = .outgoing) :
    ack.status ≠ .incoming ∧ ack.status ≠ .confirmed := by
  cases event with
  | messageSent | messageDelivered | messageFailed =>
    cases acks
    exact ⟨nofun, nofun⟩
  | deliveryReceiptSent =>
    cases acks
    cases outgoing
  | _ => cases acks

theorem Event.acks_incoming {event : Event} {ack : Acknowledgement}
    (acks : event.acknowledgement? = some ack) (incoming : ack.direction = .incoming) :
    event = .deliveryReceiptSent ack.id ∧ ack.status = .confirmed := by
  cases event with
  | messageSent | messageDelivered | messageFailed =>
    cases acks
    cases incoming
  | deliveryReceiptSent =>
    cases acks
    exact ⟨rfl, rfl⟩
  | _ => cases acks

theorem Status.confirmed_of_last {status : Status} (last : status.advancesTo .confirmed = false) :
    status = .confirmed := by
  cases status <;> first | rfl | cases last

namespace Store

/-- The row that an acknowledgement writes, if it brings the message further. -/
def advanced? (store : Store) (id : MessageId) (status : Status) (now : Int) : Option Message :=
  (store.message? id).bind fun message =>
    if message.status.advancesTo status then some { message with status, statusChanged := now }
    else none

/-- The row that an event about a message writes. -/
def revision? (store : Store) (now : Int) : Event → Option Message
  | .messageSent id => store.advanced? id .sent now
  | .messageDelivered id => store.advanced? id .received now
  | .messageFailed id => store.advanced? id .error now
  | .deliveryReceiptSent id => store.advanced? id .confirmed now
  | .uploadCompleted id remote => Outbox.uploaded? store id remote
  | .mediaPrepared id preview length => (store.message? id).map fun message =>
    { message with attachment := message.attachment.map (Outbox.prepared preview length) }
  | _ => none

variable {store : Store}

theorem message?_revise {row : Message} (stored : store.messages.has row.id) (id : MessageId) :
    (store.revise (some row)).message? id = if id = row.id then some row else store.message? id := by
  obtain ⟨committed, done, after⟩ := Write.after_updateMessage row stored
  rw [revise, after, message?, updateMessage_messages done, Table.get?_put]
  rfl

theorem of_advanced? (keyed : store.messages.KeyedBy (·.id)) {id : MessageId} {status : Status}
    {now : Int} {row : Message} (written : store.advanced? id status now = some row) : ∃ old,
      store.message? row.id = some old ∧ row.id = id ∧ old.status.advancesTo status ∧
        row = { old with status, statusChanged := now } := by
  obtain ⟨old, found, advances⟩ := Option.bind_eq_some_iff.1 written
  have own : old.id = id := keyed.key_eq found
  split at advances
  case isTrue further =>
    cases advances
    exact ⟨old, own ▸ found, own, further, rfl⟩
  case isFalse => cases advances

theorem of_revision? (keyed : store.messages.KeyedBy (·.id)) {now : Int} {event : Event} {row : Message}
    (written : store.revision? now event = some row) : ∃ old,
      store.message? row.id = some old ∧ Revised old row ∧
        match event.acknowledgement? with
        | some ack => ack.id = row.id ∧ row.status = ack.status
        | none => row.status = old.status := by
  have advances (id : MessageId) (status : Status) (mem : status ∈ Status.acknowledging)
      (written : store.advanced? id status now = some row) : ∃ old,
        store.message? row.id = some old ∧ Revised old row ∧ id = row.id ∧ row.status = status := by
    obtain ⟨old, found, own, further, eq⟩ := of_advanced? keyed written
    exact ⟨old, found, eq ▸ .advanced status now mem further, own.symm, eq ▸ rfl⟩
  cases event with
  | messageSent id => exact advances id .sent (by decide) written
  | messageDelivered id => exact advances id .received (by decide) written
  | messageFailed id => exact advances id .error (by decide) written
  | deliveryReceiptSent id => exact advances id .confirmed (by decide) written
  | uploadCompleted id remote =>
    obtain ⟨old, found, filled⟩ := Option.bind_eq_some_iff.1 written
    obtain ⟨attachment, file, rfl⟩ := Option.map_eq_some_iff.1 filled
    exact ⟨old, (keyed.key_eq found).symm ▸ found, .uploaded attachment remote file, rfl⟩
  | mediaPrepared id preview length =>
    obtain ⟨old, found, rfl⟩ := Option.map_eq_some_iff.1 written
    exact ⟨old, (keyed.key_eq found).symm ▸ found, .prepared preview length, rfl⟩
  | _ => cases written

end Store

namespace Outbox

open Messenger.Action

variable {outbox : Outbox} {host : Host} (faultless : host.Faultless)
include faultless

theorem on_advance (run : Run) (keyed : run.store.messages.KeyedBy (·.id)) (id : MessageId)
    (status : Status) : ∃ next,
      (advance id status).on host run = .ok (run.store.advanced? id status host.now) next ∧
        next.toOutbox = { run.toOutbox with
          store := run.store.revise (run.store.advanced? id status host.now) } ∧
        next.publications = run.publications := by
  rw [advance, on_bind, on_look faultless]
  dsimp only [Store.advanced?]
  cases found : run.store.message? id with
  | none => exact ⟨run, rfl, rfl, rfl⟩
  | some message =>
    dsimp only [Option.bind_some]
    have own : message.id = id := keyed.key_eq found
    by_cases further : message.status.advancesTo status
    case neg =>
      rw [if_neg further, if_neg further]
      exact ⟨run, rfl, rfl, rfl⟩
    case pos =>
      rw [if_pos further, if_pos further]
      have stored : run.store.messages.has message.id := Table.has_iff.2 ⟨message, own ▸ found⟩
      obtain ⟨next, ran, left, published⟩ :=
        on_updateMessage faultless { message with status, statusChanged := host.now } stored
      refine ⟨next, ?_, left, published⟩
      rw [on_bind, on_read]
      dsimp only
      rw [on_bind, ran]
      rfl

omit faultless in
/-- What is handed over once a row says that its message has reached the server. -/
def released (outbox : Outbox) (row : Message) : List Publication :=
  if row.isGroupCommand then
    (outbox.plan (.forPeer row.peer)).dispatch.map fun dispatch => outbox.publication dispatch.event
  else []

theorem on_messageSent (run : Run) (coherent : run.store.Coherent) (id : MessageId) :
    let row := run.store.advanced? id .sent host.now
    let left := { run.toOutbox with store := run.store.revise row }
    ∃ next, (messageSent id).on host run = .ok () next ∧ next.toOutbox = left ∧
      next.publications = run.publications ++ row.toList.flatMap left.released := by
  obtain ⟨next, ran, left, published⟩ := on_advance faultless run coherent.tidy.messages id .sent
  rw [messageSent, on_bind, ran]
  cases written : run.store.advanced? id .sent host.now with
  | none =>
    rw [written] at left
    exact ⟨next, rfl, left, by simp [published]⟩
  | some row =>
    rw [written] at left
    by_cases command : row.isGroupCommand
    case neg => exact ⟨next, by simp [command], left, by simp [published, released, command]⟩
    case pos =>
      obtain ⟨old, found, -, further, rfl⟩ := Store.of_advanced? coherent.tidy.messages written
      have still : next.store.Coherent := by
        rw [show next.store = _ from congrArg (·.store) left]
        exact coherent.updateMessage found (.advanced .sent host.now (by decide) further)
      obtain ⟨last, scanned, same, resent⟩ := on_resend faultless (.forPeer old.peer) next
      rw [Move.make_scan still, left] at same
      refine ⟨last, by simp [command, scanned], same, ?_⟩
      rw [resent, published, left]
      simp [released, command, Move.make]

theorem on_mediaPrepared (run : Run) (keyed : run.store.messages.KeyedBy (·.id)) (id : MessageId)
    (preview : Option String) (length : Nat) : ∃ next,
      (mediaPrepared id preview length).on host run = .ok () next ∧
        next.toOutbox = { run.toOutbox with
          store := run.store.revise
            (run.store.revision? host.now (.mediaPrepared id preview length)) } := by
  rw [mediaPrepared, on_bind, on_look faultless]
  dsimp only [Store.revision?]
  cases found : run.store.message? id with
  | none => exact ⟨run, rfl, rfl⟩
  | some message =>
    have own : message.id = id := keyed.key_eq found
    have stored : run.store.messages.has message.id := Table.has_iff.2 ⟨message, own ▸ found⟩
    let row : Message := { message with attachment := message.attachment.map (prepared preview length) }
    obtain ⟨next, ran, left, -⟩ := on_updateMessage faultless row stored
    dsimp only [Option.map_some]
    rw [on_bind, ran]
    dsimp only
    rw [on_ite, on_dispatchFresh faultless]
    split
    · exact ⟨_, rfl, left⟩
    · exact ⟨_, rfl, left⟩

theorem respond_revising (coherent : outbox.store.Coherent) {event : Event}
    (revises : event.revised?.isSome) : (outbox.respond host (.event event)).1 =
      { outbox with store := outbox.store.revise (outbox.store.revision? host.now event) } := by
  have keyed : outbox.store.messages.KeyedBy (·.id) := coherent.tidy.messages
  obtain ⟨next, handled, left⟩ : ∃ next,
      (handle event).on host { outbox with } = .ok () next ∧ next.toOutbox =
        { outbox with store := outbox.store.revise (outbox.store.revision? host.now event) } := by
    have advances (id : MessageId) (status : Status) : ∃ next,
        (discard (advance id status)).on host { outbox with } = .ok () next ∧ next.toOutbox =
          { outbox with store := outbox.store.revise (outbox.store.advanced? id status host.now) } := by
      obtain ⟨next, ran, left, -⟩ := on_advance faultless { outbox with } keyed id status
      exact ⟨next, by rw [on_discard, ran], left⟩
    cases event with
    | messageSent id =>
      obtain ⟨next, ran, left, -⟩ := on_messageSent faultless { outbox with } coherent id
      exact ⟨next, ran, left⟩
    | messageDelivered id => exact advances id .received
    | messageFailed id => exact advances id .error
    | deliveryReceiptSent id => exact advances id .confirmed
    | uploadCompleted id remote =>
      obtain ⟨next, ran, left, -⟩ := on_uploadCompleted faultless { outbox with } keyed id remote
      exact ⟨next, ran, left⟩
    | mediaPrepared id preview length =>
      exact on_mediaPrepared faultless { outbox with } keyed id preview length
    | _ => cases revises
  have wanted : wants event = true := by
    cases event <;> first | rfl | cases revises
  exact (congrArg Prod.fst (respond_handled wanted handled)).trans left

end Outbox

/-! ## What becomes of a state -/

/-- What an input makes of the state of a stored message. -/
inductive Restated (input : Input) (id : MessageId) (old new : Message) : Prop
  /-- Nothing asks for another state, and an acknowledgement brings nothing new. -/
  | kept (same : new.status = old.status) (plain : input ≠ .request (.retryMessage id))
      (late : ∀ event ack, input = .event event → event.acknowledgement? = some ack → ack.id = id →
        old.status.advancesTo ack.status = false)
  | started (held : old.status = .pending) (sending : new.status = .sending)
  | restarted (asked : input = .request (.retryMessage id)) (sending : new.status = .sending)
  | acknowledged (event : Event) (ack : Acknowledgement) (told : input = .event event)
      (acks : event.acknowledgement? = some ack) (about : ack.id = id)
      (status : new.status = ack.status)

/-- A message as a response to an input enters it. -/
inductive Entered (input : Input) (new : MessageContent) : Prop
  | ours (outgoing : new.direction = .outgoing)
      (fresh : new.status = .pending ∨ new.status = .sending)
  | arrived (inbound : InboundMessage) (asked : input = .request (.incoming inbound))
      (incoming : new.direction = .incoming) (status : new.status = inbound.arrivalStatus)

/-- What a row has become, or where it comes from. -/
def Store.Becomes (store : Store) (input : Input) (id : MessageId) (new : Message) : Prop :=
  match store.message? id with
  | some old => new.direction = old.direction ∧ Restated input id old new
  | none => Entered input new.toMessageContent

theorem Store.becomes_stored {store : Store} {input : Input} {id : MessageId} {old new : Message}
    (stored : store.message? id = some old) :
    store.Becomes input id new ↔ new.direction = old.direction ∧ Restated input id old new := by
  simp only [Becomes, stored]

theorem Store.becomes_unknown {store : Store} {input : Input} {id : MessageId} {new : Message}
    (unknown : store.message? id = none) :
    store.Becomes input id new ↔ Entered input new.toMessageContent := by
  simp only [Becomes, unknown]

theorem Store.late_of_revision? {store : Store} {now : Int} {event : Event} {ack : Acknowledgement}
    {old : Message} (unwritten : store.revision? now event = none)
    (acks : event.acknowledgement? = some ack) (found : store.message? ack.id = some old) :
    old.status.advancesTo ack.status = false := by
  have stays (id : MessageId) (status : Status) (unwritten : store.advanced? id status now = none)
      (found : store.message? id = some old) : old.status.advancesTo status = false := by
    simpa [advanced?, found] using unwritten
  cases event with
  | messageSent | messageDelivered | messageFailed | deliveryReceiptSent =>
    cases acks
    exact stays _ _ unwritten found
  | _ => cases acks

namespace Outbox

variable {outbox : Outbox} {host : Host} (coherent : outbox.store.Coherent) (faultless : host.Faultless)
include coherent faultless

theorem becomes_of_revising {event : Event} (revises : event.revised?.isSome) {id : MessageId}
    {new : Message} (found : (outbox.respond host (.event event)).1.store.message? id = some new) :
    outbox.store.Becomes (.event event) id new := by
  rw [respond_revising faultless coherent revises] at found
  dsimp only at found
  cases written : outbox.store.revision? host.now event with
  | none =>
    rw [written] at found
    have found : outbox.store.message? id = some new := found
    refine (Store.becomes_stored found).2 ⟨rfl, .kept rfl nofun fun other ack told acks about => ?_⟩
    cases told
    exact Store.late_of_revision? written acks (about ▸ found)
  | some row =>
    obtain ⟨old, stored, revised, state⟩ := Store.of_revision? coherent.tidy.messages written
    rw [written, Store.message?_revise (Table.has_iff.2 ⟨old, stored⟩)] at found
    split at found
    case isTrue same =>
      cases found
      subst same
      refine (Store.becomes_stored stored).2 ⟨by cases revised <;> rfl, ?_⟩
      cases acks : event.acknowledgement? with
      | none =>
        rw [acks] at state
        refine .kept state nofun fun other ack told acknowledges => ?_
        cases told
        cases acks.symm.trans acknowledges
      | some ack =>
        rw [acks] at state
        exact .acknowledged event ack rfl acks state.1 state.2
    case isFalse other =>
      refine (Store.becomes_stored found).2 ⟨rfl, .kept rfl nofun fun same ack told acks about => ?_⟩
      cases told
      rw [acks] at state
      exact absurd (about.symm.trans state.1) other

/-- Starting a message over gives it a state that is the same for both directions. -/
theorem becomes_of_retryMessage {asked id : MessageId} {new : Message}
    (found : (outbox.respond host (.request (.retryMessage asked))).1.store.message? id = some new) :
    outbox.store.Becomes (.request (.retryMessage asked)) id new := by
  cases stored : outbox.store.message? asked with
  | none =>
    have outcome := request_retryMessage_unknown faultless stored
    replace found : outbox.store.message? id = some new :=
      (congrArg (·.outbox.store.message? id) outcome).symm.trans found
    refine (Store.becomes_stored found).2 ⟨rfl, .kept rfl ?_ fun _ _ told => nomatch told⟩
    intro asks
    cases asks
    cases stored.symm.trans found
  | some message =>
    obtain ⟨-, left⟩ := request_retryMessage coherent faultless stored
    replace found : (outbox.store.updateStatuses [asked] .sending host.now).store.messages.get? id =
        some new := (congrArg (·.store.messages.get? id) left).symm.trans found
    rw [Store.get?_updateStatuses coherent.tidy.messages] at found
    split at found
    case isTrue listed =>
      obtain rfl := List.mem_singleton.1 listed
      obtain ⟨old, before, rfl⟩ := Option.map_eq_some_iff.1 found
      exact (Store.becomes_stored before).2 ⟨rfl, .restarted rfl rfl⟩
    case isFalse other =>
      refine (Store.becomes_stored found).2 ⟨rfl, .kept rfl ?_ fun _ _ told => nomatch told⟩
      intro asks
      cases asks
      exact other List.mem_cons_self

end Outbox

/-! ## Moves that ask for no other state -/

namespace Move

variable {outbox : Outbox} {host : Host} {move : Move}

/-- The moves that neither enter a message nor ask for another state of one. -/
def IsCalm : Move → Prop
  | restart _ _ | post _ | write (.insertMessage _) | write (.updateMessage _) => False
  | _ => True

/-- A calm move changes no state, but that it starts what is held. -/
theorem status_of_calm (coherent : outbox.store.Coherent) (fits : move.Fits host outbox)
    (calm : move.IsCalm) {id : MessageId} {new : Message}
    (found : (move.make outbox).1.store.message? id = some new) : ∃ old,
      outbox.store.message? id = some old ∧ new.direction = old.direction ∧
        (new.status = old.status ∨ old.status = .pending ∧ new.status = .sending) := by
  have of_same (same : (move.make outbox).1.store.messages = outbox.store.messages) : ∃ old,
      outbox.store.message? id = some old ∧ new.direction = old.direction ∧
        (new.status = old.status ∨ old.status = .pending ∧ new.status = .sending) := by
    rw [Store.message?, same] at found
    exact ⟨new, found, rfl, Or.inl rfl⟩
  cases move with
  | restart | post => cases calm
  | scan options => exact of_same (by rw [make_scan coherent])
  | write entry =>
    cases entry with
    | insertMessage | updateMessage => cases calm
    | updateStatuses ids status now =>
      obtain ⟨rfl, held⟩ := fits
      replace found : (outbox.store.updateStatuses ids .sending now).store.messages.get? id = some new :=
        found
      rw [Store.get?_updateStatuses coherent.tidy.messages] at found
      split at found
      case isTrue listed =>
        obtain ⟨old, before, rfl⟩ := Option.map_eq_some_iff.1 found
        exact ⟨old, before, rfl, Or.inr ⟨held id listed old before, rfl⟩⟩
      case isFalse => exact ⟨new, found, rfl, Or.inl rfl⟩
    | ensureThread peer isGroup =>
      refine of_same ?_
      show (outbox.store.ensureThread peer isGroup).store.messages = _
      rw [Store.ensureThread_store]
      split <;> rfl
    | setRequestStatus thread status =>
      refine of_same ?_
      show (outbox.store.setRequestStatus thread status).store.messages = _
      unfold Store.setRequestStatus
      split <;> rfl
    | saveGroup => exact of_same rfl
    | markRegistered identity =>
      refine of_same ?_
      obtain ⟨contacts, eq⟩ := outbox.store.markRegistered_store identity
      show (outbox.store.markRegistered identity).store.messages = _
      rw [eq]
    | _ => exact fits.elim
  | _ => exact of_same rfl

theorem entered_of_fits {input : Input} (causes : input.Causes move) (fits : move.Fits host outbox)
    {content : MessageContent} (enters : move.entered? = some content) : Entered input content := by
  unfold entered? at enters
  split at enters
  case h_1 =>
    cases enters
    obtain ⟨inbound, asked, status⟩ := causes
    exact .arrived inbound asked fits.2 status
  case h_2 =>
    cases enters
    refine .ours fits.2.1 ?_
    cases fits.1 with
    | composed id thread group found known composed =>
      rw [composed.status_eq]
      split
      · exact Or.inl rfl
      · exact Or.inr rfl
    | command group thread command name now found thread_eq content_eq =>
      rw [content_eq]
      exact Or.inr rfl
    | received peer thread name found thread_eq direction_eq =>
      cases direction_eq.symm.trans fits.2.1
  case h_3 => cases enters

end Move

theorem InboundMessage.arrivalStatus_ne_pending (inbound : InboundMessage) :
    inbound.arrivalStatus ≠ .pending := by
  unfold arrivalStatus
  split <;> exact nofun

namespace Outbox

variable {outbox later : Outbox} {host : Host} {input : Input}

/-- What a row has become if nothing asked for another state: what was held may have been started. -/
def Calmed (outbox : Outbox) (input : Input) (id : MessageId) (new : Message) : Prop :=
  match outbox.store.message? id with
  | some old => new.direction = old.direction ∧
    (new.status = old.status ∨ old.status = .pending ∧ new.status = .sending)
  | none => Entered input new.toMessageContent

theorem calmed_stored {id : MessageId} {old new : Message}
    (stored : outbox.store.message? id = some old) :
    outbox.Calmed input id new ↔ new.direction = old.direction ∧
      (new.status = old.status ∨ old.status = .pending ∧ new.status = .sending) := by
  simp only [Calmed, stored]

theorem calmed_unknown {id : MessageId} {new : Message}
    (unknown : outbox.store.message? id = none) :
    outbox.Calmed input id new ↔ Entered input new.toMessageContent := by
  simp only [Calmed, unknown]

theorem Calmed.make {move : Move} (led : outbox.LedTo input later)
    (calmed : ∀ id row, later.store.message? id = some row → outbox.Calmed input id row)
    (causes : input.Causes move) (fits : move.Fits host later)
    (calm : move.entered? = none → move.IsCalm) {id : MessageId} {new : Message}
    (found : (move.make later).1.store.message? id = some new) : outbox.Calmed input id new := by
  cases entered : move.entered? with
  | some content =>
    rw [Move.entered_make entered, Store.message?, Store.insertMessage_messages,
      Table.get?_put] at found
    split at found
    case isTrue same =>
      cases found
      subst same
      exact (calmed_unknown led.free).2 (Move.entered_of_fits causes fits entered)
    case isFalse => exact calmed id new found
  | none =>
    obtain ⟨row, before, direction, status⟩ :=
      Move.status_of_calm led.coherent fits (calm entered) found
    have earlier := calmed id row before
    cases stored : outbox.store.message? id with
    | some old =>
      obtain ⟨same, state⟩ := (calmed_stored stored).1 earlier
      refine (calmed_stored stored).2 ⟨direction.trans same, ?_⟩
      rcases status with status | ⟨held, status⟩
      · rwa [status]
      · rcases state with state | ⟨-, state⟩
        · exact Or.inr ⟨state.symm.trans held, status⟩
        · rw [state] at held
          cases held
    | none =>
      refine (calmed_unknown stored).2 ?_
      rcases (calmed_unknown stored).1 earlier with ⟨outgoing, fresh⟩ | ⟨inbound, asked, incoming, state⟩
      · refine .ours (direction.trans outgoing) ?_
        rcases status with status | ⟨-, status⟩
        · rwa [status]
        · exact Or.inr status
      · refine .arrived inbound asked (direction.trans incoming) ?_
        rcases status with status | ⟨held, -⟩
        · exact status.trans state
        · exact absurd (state.symm.trans held) inbound.arrivalStatus_ne_pending

theorem becomes_of_plain (coherent : outbox.store.Coherent) (faultless : host.Faultless)
    (plain : ∀ id, input ≠ .request (.retryMessage id))
    (unrevising : ∀ event, input = .event event → event.revised? = none) {id : MessageId}
    {new : Message} (found : (outbox.respond host input).1.store.message? id = some new) :
    outbox.store.Becomes input id new := by
  -- What a row has become is told against the outbox before the response, so that moves add up.
  let holds (later : Outbox) : Prop := outbox.LedTo input later ∧
    ∀ id row, later.store.message? id = some row → outbox.Calmed input id row
  have start : holds outbox := by
    refine ⟨led_refl coherent input, fun id row stored => ?_⟩
    exact (calmed_stored stored).2 ⟨rfl, Or.inl rfl⟩
  have ends : holds (outbox.respond host input).1 := by
    refine (walk_respond faultless coherent.tidy.messages input).keeps start ?_
    rintro later move ⟨led, calmed⟩ causes fits
    refine ⟨led.make causes fits, fun id row => Calmed.make led calmed causes fits fun plainly => ?_⟩
    unfold Move.IsCalm
    split
    case h_1 other now => exact plain other causes
    case h_2 => cases plainly
    case h_3 => cases plainly
    case h_4 message =>
      obtain ⟨event, told, revises⟩ := causes
      cases (unrevising event told).symm.trans revises
    case h_5 => trivial
  have calmed := ends.2 id new found
  cases stored : outbox.store.message? id with
  | some old =>
    obtain ⟨direction, state⟩ := (calmed_stored stored).1 calmed
    refine (Store.becomes_stored stored).2 ⟨direction, ?_⟩
    rcases state with same | ⟨held, sending⟩
    · refine .kept same (plain id) fun event ack told acks about => ?_
      cases (unrevising event told).symm.trans (Event.revised?_of_acks acks)
    · exact .started held sending
  | none => exact (Store.becomes_unknown stored).2 ((calmed_unknown stored).1 calmed)

theorem becomes_respond (coherent : outbox.store.Coherent) (faultless : host.Faultless)
    (input : Input) {id : MessageId} {new : Message}
    (found : (outbox.respond host input).1.store.message? id = some new) :
    outbox.store.Becomes input id new := by
  by_cases retries : ∃ asked, input = .request (.retryMessage asked)
  case pos =>
    obtain ⟨asked, rfl⟩ := retries
    exact becomes_of_retryMessage coherent faultless found
  case neg =>
    by_cases revises : ∃ event, input = .event event ∧ event.revised?.isSome
    case pos =>
      obtain ⟨event, rfl, revises⟩ := revises
      exact becomes_of_revising coherent faultless revises found
    case neg =>
      refine becomes_of_plain coherent faultless (fun asked eq => retries ⟨asked, eq⟩) ?_ found
      intro event eq
      exact Option.not_isSome_iff_eq_none.1 fun revised => revises ⟨event, eq, revised⟩

end Outbox

end Messenger

/-
# What becomes of a message

A message that is stored stays stored, whatever the outbox is told: it keeps its direction and its
name, its file stays on the server once it is there, and its delivery is never taken back.  Only
starting a message over, which has to be asked for, sets it back.

    Status.Onward       between two states: the same, or further
    Message.Follows     between two rows of one message
    Store.Rewritten     rows are written over, none comes or goes
    Store.Keeps         every row is followed by one of its message

A move enters one new message (`Move.entered?`), or it writes rows over (`Move.rewritten_make`); so
it keeps what is stored, and so do responses and lives.
-/
import Messenger.Proofs.Outbox.Lives

namespace Messenger

namespace Status

/-- Delivery stands where it stood, or has come further. -/
def Onward (old new : Status) : Prop := new = old ∨ old.advancesTo new

theorem advancesTo_iff {status next : Status} :
    status.advancesTo next = true ↔ status.rank < next.rank := decide_eq_true_iff

theorem Onward.refl (status : Status) : status.Onward status := Or.inl rfl

theorem Onward.trans {first second third : Status} (one : first.Onward second)
    (two : second.Onward third) : first.Onward third := by
  rcases one with rfl | one
  · exact two
  · rcases two with rfl | two
    · exact Or.inr one
    · rw [advancesTo_iff] at one two
      exact Or.inr (advancesTo_iff.2 (Nat.lt_trans one two))

end Status

/-- A later row of the same message; a file stays on the server, nothing is held for review that was
not, and unless the message was started over, delivery goes onward. -/
structure Message.Follows (restarted : Prop) (old new : Message) : Prop where
  thread_eq : new.thread = old.thread
  direction_eq : new.direction = old.direction
  serverId_eq : new.serverId = old.serverId
  ready : old.Ready → new.Ready
  held : new.status = .pending → old.status = .pending
  onward : restarted ∨ old.status.Onward new.status

namespace Message.Follows

variable {restarted : Prop} {first second third : Message}

theorem refl (message : Message) : message.Follows restarted message :=
  ⟨rfl, rfl, rfl, fun ready => ready, fun held => held, Or.inr (.refl _)⟩

theorem trans (one : first.Follows restarted second) (two : second.Follows restarted third) :
    first.Follows restarted third := by
  refine ⟨two.thread_eq.trans one.thread_eq, two.direction_eq.trans one.direction_eq,
    two.serverId_eq.trans one.serverId_eq, fun ready => two.ready (one.ready ready),
    fun held => one.held (two.held held), ?_⟩
  rcases one.onward with anew | one
  · exact Or.inl anew
  · exact two.onward.imp_right one.trans

theorem mono {other : Prop} (follows : first.Follows restarted second) (imp : restarted → other) :
    first.Follows other second :=
  { follows with onward := follows.onward.imp_left imp }

theorem of_revised {old new : Message} (revised : Revised old new) : old.Follows restarted new := by
  cases revised with
  | advanced status now acknowledging further =>
    refine ⟨rfl, rfl, rfl, fun ready => ready, fun held => ?_, Or.inr (Or.inr further)⟩
    obtain rfl : status = .pending := held
    exact absurd acknowledging (by decide)
  | uploaded attachment remote _ =>
    refine ⟨rfl, rfl, rfl, fun _ file mem => ?_, fun held => held, Or.inr (.refl _)⟩
    rw [← Option.some.inj mem]
    rfl
  | prepared preview length =>
    refine ⟨rfl, rfl, rfl, fun ready file mem => ?_, fun held => held, Or.inr (.refl _)⟩
    obtain ⟨attachment, has, rfl⟩ := Option.map_eq_some_iff.1 mem
    exact ready attachment has

theorem of_pending {message : Message} (pending : message.status = .pending) (now : Int) :
    message.Follows restarted (message.inState .sending now) := by
  refine ⟨rfl, rfl, rfl, fun ready => ready, fun _ => pending, Or.inr (Or.inr ?_)⟩
  rw [pending]
  rfl

end Message.Follows

namespace Store

/-- Rows were written over, and nothing else has become of the messages and their names. -/
structure Rewritten (restarted : MessageId → Prop) (store other : Store) : Prop where
  serverIds : other.serverIds = store.serverIds
  rows : ∀ id, Option.Rel (Message.Follows (restarted id)) (store.messages.get? id)
    (other.messages.get? id)

/-- Every message that was stored is stored, with a row that follows. -/
def Keeps (restarted : MessageId → Prop) (store other : Store) : Prop :=
  ∀ id old, store.messages.get? id = some old →
    ∃ new, other.messages.get? id = some new ∧ old.Follows (restarted id) new

variable {restarted : MessageId → Prop} {store middle other : Store}

namespace Rewritten

theorem of_same (messages : other.messages = store.messages)
    (serverIds : other.serverIds = store.serverIds) : store.Rewritten restarted other where
  serverIds := serverIds
  rows := by
    intro id
    rw [messages]
    cases store.messages.get? id with
    | none => exact .none
    | some message => exact .some (.refl message)

theorem forth (rewritten : store.Rewritten restarted other) {id : MessageId} {old : Message}
    (found : store.messages.get? id = some old) :
    ∃ new, other.messages.get? id = some new ∧ old.Follows (restarted id) new := by
  have row := rewritten.rows id
  rw [found] at row
  generalize other.messages.get? id = after at row ⊢
  cases row with
  | some follows => exact ⟨_, rfl, follows⟩

theorem back (rewritten : store.Rewritten restarted other) {id : MessageId} {new : Message}
    (found : other.messages.get? id = some new) :
    ∃ old, store.messages.get? id = some old ∧ old.Follows (restarted id) new := by
  have row := rewritten.rows id
  rw [found] at row
  generalize store.messages.get? id = before at row ⊢
  cases row with
  | some follows => exact ⟨_, rfl, follows⟩

theorem updateMessage {message old : Message} (found : store.messages.get? message.id = some old)
    (follows : old.Follows (restarted message.id) message) {committed : Committed Unit}
    (done : store.updateMessage message = .ok committed) :
    store.Rewritten restarted committed.store where
  serverIds := updateMessage_serverIds done
  rows := by
    intro id
    rw [updateMessage_messages done, Table.get?_put]
    split
    case isTrue same =>
      subst same
      rw [found]
      exact .some follows
    case isFalse =>
      cases store.messages.get? id with
      | none => exact .none
      | some message => exact .some (.refl message)

theorem updateStatuses (keyed : store.messages.KeyedBy (·.id)) {ids : List MessageId} (now : Int)
    (follows : ∀ id ∈ ids, ∀ message, store.messages.get? id = some message →
      message.Follows (restarted id) (message.inState .sending now)) :
    store.Rewritten restarted (store.updateStatuses ids .sending now).store where
  serverIds := store.updateStatuses_serverIds ids .sending now
  rows := by
    intro id
    rw [get?_updateStatuses keyed]
    cases found : store.messages.get? id with
    | none => split <;> exact .none
    | some message =>
      split
      case isTrue listed => exact .some (follows id listed message found)
      case isFalse => exact .some (.refl message)

end Rewritten

namespace Keeps

theorem refl (store : Store) : store.Keeps restarted store :=
  fun _ old found => ⟨old, found, .refl old⟩

theorem trans (one : store.Keeps restarted middle) (two : middle.Keeps restarted other) :
    store.Keeps restarted other := by
  intro id old found
  obtain ⟨between, stored, first⟩ := one id old found
  obtain ⟨new, last, second⟩ := two id between stored
  exact ⟨new, last, first.trans second⟩

theorem mono {more : MessageId → Prop} (keeps : store.Keeps restarted other)
    (imp : ∀ id, restarted id → more id) : store.Keeps more other := by
  intro id old found
  obtain ⟨new, stored, follows⟩ := keeps id old found
  exact ⟨new, stored, follows.mono (imp id)⟩

theorem insertMessage (orderly : Orderly store) (content : MessageContent) :
    store.Keeps restarted (store.insertMessage content).store := by
  intro id old found
  have other : id ≠ store.nextMessage := by
    rintro rfl
    rw [orderly.get?_nextMessage] at found
    cases found
  refine ⟨old, ?_, .refl old⟩
  rw [insertMessage_messages, Table.get?_put, if_neg other]
  exact found

end Keeps

end Store

namespace Move

/-- The message that a move enters. -/
def entered? : Move → Option MessageContent
  | write (.insertMessage content) | post content => some content
  | _ => none

/-- The message that a move starts over. -/
def Restarts (id : MessageId) : Move → Prop
  | restart other _ => other = id
  | _ => False

variable {outbox : Outbox} {host : Host} {move : Move}

theorem entered_make {content : MessageContent} (entered : move.entered? = some content) :
    (move.make outbox).1.store = (outbox.store.insertMessage content).store := by
  unfold entered? at entered
  split at entered
  · cases entered
    rfl
  · cases entered
    rfl
  · cases entered

theorem rewritten_after {store : Store} (coherent : store.Coherent) {entry : Write}
    (ours : entry.Ours store) (plain : (write entry).entered? = none) {restarted : MessageId → Prop} :
    store.Rewritten restarted (entry.after store) := by
  cases entry with
  | insertMessage content => cases plain
  | updateMessage message =>
    obtain ⟨old, found, revised⟩ := ours
    obtain ⟨committed, done, after⟩ := Write.after_updateMessage message (Table.has_iff.2 ⟨old, found⟩)
    rw [after]
    exact .updateMessage found (.of_revised revised) done
  | updateStatuses ids status now =>
    obtain ⟨rfl, pending⟩ := ours
    exact .updateStatuses coherent.tidy.messages now fun id listed message found =>
      .of_pending (pending id listed message found) now
  | ensureThread peer isGroup =>
    show store.Rewritten restarted (store.ensureThread peer isGroup).store
    rw [Store.ensureThread_store]
    split <;> exact .of_same rfl rfl
  | setRequestStatus id status =>
    show store.Rewritten restarted (store.setRequestStatus id status).store
    unfold Store.setRequestStatus
    split <;> exact .of_same rfl rfl
  | saveGroup group => exact .of_same rfl rfl
  | markRegistered identity =>
    obtain ⟨contacts, eq⟩ := store.markRegistered_store identity
    show store.Rewritten restarted (store.markRegistered identity).store
    rw [eq]
    exact .of_same rfl rfl
  | _ => exact ours.elim

/-- A move that enters no message writes rows over. -/
theorem rewritten_make (coherent : outbox.store.Coherent) (fits : move.Fits host outbox)
    (plain : move.entered? = none) :
    outbox.store.Rewritten (move.Restarts ·) (move.make outbox).1.store := by
  cases move with
  | write entry => exact rewritten_after coherent fits plain
  | post content => cases plain
  | restart id now =>
    show outbox.store.Rewritten _ (outbox.store.updateStatuses [id] .sending now).store
    refine Store.Rewritten.updateStatuses coherent.tidy.messages now ?_
    intro other listed message found
    obtain rfl := List.mem_singleton.1 listed
    exact ⟨rfl, rfl, rfl, fun ready => ready, nofun, Or.inl rfl⟩
  | scan options =>
    rw [make_scan coherent]
    exact .of_same rfl rfl
  | _ => exact .of_same rfl rfl

theorem keeps_make (coherent : outbox.store.Coherent) (fits : move.Fits host outbox) :
    outbox.store.Keeps (move.Restarts ·) (move.make outbox).1.store := by
  cases entered : move.entered? with
  | none => exact fun _ _ found => (rewritten_make coherent fits entered).forth found
  | some content =>
    rw [entered_make entered]
    exact .insertMessage coherent.tidy.toOrderly content

end Move

namespace Outbox

variable {outbox : Outbox} {host : Host}

/-- A response keeps what is stored; it takes the delivery of a message back only if it was asked to
start it over. -/
theorem keeps_respond (coherent : outbox.store.Coherent) (faultless : host.Faultless)
    (input : Input) : outbox.store.Keeps (fun id => input = .request (.retryMessage id))
      (outbox.respond host input).1.store := by
  let restarted (id : MessageId) : Prop := input = .request (.retryMessage id)
  let holds (later : Outbox) : Prop :=
    later.store.Coherent ∧ outbox.store.Keeps restarted later.store
  have start : holds outbox := ⟨coherent, .refl _⟩
  refine ((walk_respond faultless coherent.tidy.messages input).keeps start ?_).2
  rintro later move ⟨coherent, keeps⟩ causes fits
  refine ⟨Move.coherent_make coherent fits, keeps.trans ((Move.keeps_make coherent fits).mono ?_)⟩
  intro id restarts
  cases move with
  | restart other now =>
    obtain rfl : other = id := restarts
    exact causes
  | _ => exact restarts.elim

theorem keeps_play {stimuli : List Stimulus} (coherent : outbox.store.Coherent)
    (faultless : ∀ stimulus ∈ stimuli, stimulus.host.Faultless) :
    outbox.store.Keeps (fun _ => True) (outbox.play stimuli).1.store := by
  induction stimuli generalizing outbox with
  | nil => exact .refl _
  | cons stimulus rest ih =>
    have here := faultless _ List.mem_cons_self
    have next := coherent_respond coherent here stimulus.input
    have later := ih next fun other mem => faultless other (List.mem_cons_of_mem _ mem)
    have now := keeps_respond coherent here stimulus.input
    exact (now.mono fun _ _ => trivial).trans later

end Outbox

end Messenger

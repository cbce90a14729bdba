/-
# What is left of an arriving message

A message may come with a group, a command, a file, a quoted message, a wish for a receipt and a
secret body, in any combination, and several of these can go wrong.  Each is dealt with on its own:

    body               what the cipher makes of it, or as it came      (`readable`)
    thread             that of the group, or that of the sender        (`conversationOf`)
    quoted message     ours of that name, or else one that we got      (`Store.Quotes`)
    events             for the file, then for the receipt              (`requested`)
    signals            one, unless a group is changed on the quiet     (`summons`)
    group or contact   if the store lets it be read and written        (`learned`)

`on_incoming` is all of this in one equation.  It asks the store only for what cannot be done without
(`Host.Takes`), so a failure over the group or the contact changes nothing else; and since the cipher
stands in one place of it, another cipher makes a difference to the body alone, and to the summary in
which the thread shows it (`incoming_exact`).
-/
import Messenger.Proofs.Outbox.Names

namespace Messenger

open Outbox

/-- A message whose body is this, readable or not. -/
def Message.reading (message : Message) (body : Octets × Bool) : Message :=
  { message with body := body.1, encrypted := body.2 }

namespace Store

variable {store : Store} {name : String} {id : MessageId}

/-! ## The quoted message -/

/-- A name quotes the message of ours that has it; if there is none, the one that we got. -/
def Quotes (store : Store) (name : String) (id : MessageId) : Prop :=
  ∃ message, store.message? id = some message ∧ message.serverId = some name ∧
    (message.direction = .outgoing ∨ ∀ other, store.message? other.id = some other →
      other.serverId = some name → other.direction = .incoming)

theorem Named.quoted?_eq_some_iff (named : store.Named) (keyed : store.messages.KeyedBy (·.id)) :
    store.quoted? name = some id ↔ store.Quotes name id := by
  have leads {direction : Direction} {message : Message} :
      store.messageByServerId? direction name = some message ↔
        store.message? message.id = some message ∧ message.direction = direction ∧
          message.serverId = some name :=
    named.messageByServerId?_eq_some_iff keyed
  rw [quoted?]
  cases ours : store.messageByServerId? .outgoing name with
  | some own =>
    obtain ⟨stored, outgoing, called⟩ := leads.1 ours
    rw [Option.some_or, Option.map_some, Option.some.injEq]
    constructor
    · rintro rfl
      exact ⟨own, stored, called, Or.inl outgoing⟩
    · rintro ⟨message, found, called', quotes⟩
      have outgoing' : message.direction = .outgoing := by
        rcases quotes with outgoing' | theirs
        · exact outgoing'
        · cases outgoing.symm.trans (theirs own stored called)
      have same : own = message :=
        named.unique stored found (outgoing.trans outgoing'.symm) (called.trans called'.symm)
      rw [same]
      exact keyed.key_eq found
  | none =>
    have theirs : ∀ other, store.message? other.id = some other → other.serverId = some name →
        other.direction = .incoming := by
      intro other stored called
      cases towards : other.direction with
      | incoming => rfl
      | outgoing => cases ours.symm.trans (leads.2 ⟨stored, towards, called⟩)
    rw [Option.none_or, Option.map_eq_some_iff]
    constructor
    · rintro ⟨message, found, rfl⟩
      obtain ⟨stored, incoming, called⟩ := leads.1 found
      exact ⟨message, stored, called, Or.inr theirs⟩
    · rintro ⟨message, found, called, -⟩
      obtain rfl : message.id = id := keyed.key_eq found
      exact ⟨message, leads.2 ⟨found, theirs message found called, called⟩, rfl⟩

/-! ## The new row and its thread -/

theorem enter_reading (store : Store) (content : MessageContent) (body : Octets × Bool) :
    store.enter { content with body := body.1, encrypted := body.2 } =
      (store.enter content).putMessage ((store.newMessage content).reading body) := by
  rcases named : content.serverId with _ | name
  all_goals
    simp only [enter, indexMessage, Message.serverKey?, newMessage, Message.reading, putMessage, named,
      Option.map_none, Option.map_some, Table.put_put]

theorem get?_opened (store : Store) (inbound : InboundMessage) {id : ThreadId}
    (other : id ≠ (store.opened inbound).value.id) :
    (store.opened inbound).store.threads.get? id = store.threads.get? id := by
  revert other
  rw [opened, ensureThread]
  cases store.threadForPeer? (conversationOf inbound).1 with
  | some thread => exact fun _ => rfl
  | none => exact fun other => (Table.get?_put ..).trans (if_neg other)

section
variable (tidy : store.Tidy) (inbound : InboundMessage)
include tidy

theorem found_opened :
    (store.opened inbound).store.threadOf.get? (conversationOf inbound).1 =
        some (store.opened inbound).value.id ∧
      (store.opened inbound).store.thread? (store.opened inbound).value.id =
        some (store.opened inbound).value := by
  have tidy' : (store.opened inbound).store.Tidy := tidy.ensureThread _ _
  have known : (store.opened inbound).store.threadForPeer? _ = some (store.opened inbound).value :=
    store.threadForPeer?_ensureThread _ _
  obtain ⟨id, indexed, found⟩ := Option.bind_eq_some_iff.1 known
  obtain rfl : (store.opened inbound).value.id = id := tidy'.threads.key_eq found
  rw [tidy'.thread?_eq]
  exact ⟨indexed, found⟩

theorem taken_eq (body : Octets × Bool) :
    let opened := store.opened inbound
    let content := receivedContent inbound opened.value.id body (inbound.inReplyTo.bind store.quoted?)
    let row := opened.store.newMessage content
    store.taken inbound body = ⟨row,
      (opened.store.enter content).putThread (opened.value.extended row),
      [.thread opened.value.id, .message opened.store.nextMessage]⟩ :=
  insertMessage_of_housed (found_opened tidy inbound).2

theorem taken_store (body : Octets × Bool) :
    let opened := store.opened inbound
    let row := (store.taken inbound body).value
    ∃ serverIds, (store.taken inbound body).store = { opened.store with
      messages := opened.store.messages.put row.id row
      threads := opened.store.threads.put opened.value.id (opened.value.extended row)
      nextMessage := opened.store.nextMessage.next
      serverIds } := by
  obtain ⟨serverIds, entered⟩ := (store.opened inbound).store.enter_eq (receivedContent inbound
    (store.opened inbound).value.id body (inbound.inReplyTo.bind store.quoted?))
  refine ⟨serverIds, ?_⟩
  rw [taken_eq tidy, entered]
  rfl

theorem threads_taken (body : Octets × Bool) (id : ThreadId) :
    (store.taken inbound body).store.threads.get? id =
      if id = (store.opened inbound).value.id then
        some ((store.opened inbound).value.extended (store.taken inbound body).value)
      else store.threads.get? id := by
  obtain ⟨serverIds, eq⟩ := taken_store tidy inbound body
  rw [eq]
  refine (Table.get?_put ..).trans ?_
  split
  case isTrue => rfl
  case isFalse other => exact store.get?_opened inbound other

theorem threadForPeer?_taken (body : Octets × Bool) :
    (store.taken inbound body).store.threadForPeer? (conversationOf inbound).1 =
      some ((store.opened inbound).value.extended (store.taken inbound body).value) := by
  have indexed : (store.taken inbound body).store.threadOf.get? (conversationOf inbound).1 =
      some (store.opened inbound).value.id := by
    obtain ⟨serverIds, eq⟩ := taken_store tidy inbound body
    rw [eq]
    exact (found_opened tidy inbound).1
  rw [threadForPeer?, indexed, Option.bind_some, threads_taken tidy, if_pos rfl]

theorem taken_reading (body other : Octets × Bool) :
    let taken := store.taken inbound body
    let row := taken.value.reading other
    store.taken inbound other = ⟨row,
      (taken.store.putMessage row).putThread ((store.opened inbound).value.extended row),
      taken.changes⟩ := by
  intro taken row
  let opened := store.opened inbound
  let content := receivedContent inbound opened.value.id body (inbound.inReplyTo.bind store.quoted?)
  have entered : opened.store.enter { content with body := other.1, encrypted := other.2 } =
      (opened.store.enter content).putMessage row := opened.store.enter_reading content other
  have second : store.taken inbound other =
      ⟨row, (opened.store.enter { content with body := other.1, encrypted := other.2 }).putThread
        (opened.value.extended row), taken.changes⟩ := by
    rw [show taken = _ from taken_eq tidy inbound body]
    exact taken_eq tidy inbound other
  have first : taken.store = (opened.store.enter content).putThread (opened.value.extended taken.value) :=
    congrArg Committed.store (taken_eq tidy inbound body)
  have written : (opened.value.extended taken.value).id = (opened.value.extended row).id := rfl
  rw [second, entered, first, putThread, putThread, putThread, putMessage, putMessage, written,
    Table.put_put]

end

theorem contact?_markRegistered (store : Store) {identity other : Identity} (differ : other ≠ identity) :
    (store.markRegistered identity).store.contact? other = store.contact? other := by
  rw [markRegistered]
  cases store.contact? identity with
  | none => rfl
  | some contact =>
    dsimp only
    split
    · rfl
    · exact (Table.get?_put ..).trans (if_neg differ)

theorem markRegistered_aside (store : Store) (identity : Identity) (row : Message) (thread : Thread) :
    ((store.putMessage row).putThread thread).markRegistered identity =
      ⟨(store.markRegistered identity).value,
        ((store.markRegistered identity).store.putMessage row).putThread thread,
        (store.markRegistered identity).changes⟩ := by
  have same : ((store.putMessage row).putThread thread).contact? identity = store.contact? identity := rfl
  rw [markRegistered, markRegistered, same]
  cases store.contact? identity with
  | none => rfl
  | some contact =>
    dsimp only
    split <;> rfl

end Store

namespace Outbox

open Messenger.Action

variable {host : Host} {inbound : InboundMessage} {store : Store} {run : Run}

/-! ## What is learned -/

/-- What is learned depends neither on the rows of messages and threads nor on the cipher. -/
theorem learned_aside (cipher : Cipher) (id : ThreadId) (row : Message) (thread : Thread) :
    learned { host with cipher } inbound id ((store.putMessage row).putThread thread) =
      ⟨(), ((learned host inbound id store).store.putMessage row).putThread thread,
        (learned host inbound id store).changes⟩ := by
  rw [learned, learned]
  cases inbound.group with
  | some group =>
    by_cases heard : GroupArrival.Heard ⟨host, group, inbound.sender, id⟩
    · have heard' : GroupArrival.Heard ⟨{ host with cipher }, group, inbound.sender, id⟩ := heard
      dsimp only
      rw [if_pos heard, if_pos heard']
      rfl
    · have missed : ¬GroupArrival.Heard ⟨{ host with cipher }, group, inbound.sender, id⟩ := heard
      dsimp only
      rw [if_neg heard, if_neg missed]
  | none =>
    dsimp only
    split
    · rw [Store.markRegistered_aside]
    · rfl

/-- A message changes the group that it is about, or else the contact of its sender, and nothing else. -/
structure Learns (inbound : InboundMessage) (before after : Store) : Prop where
  rest : after = { before with groups := after.groups, contacts := after.contacts }
  groups : ∀ id, (∀ group ∈ inbound.group, group.id ≠ id) → after.group? id = before.group? id
  contacts : ∀ identity, inbound.group.isSome ∨ identity ≠ inbound.sender →
    after.contact? identity = before.contact? identity

theorem Learns.refl (inbound : InboundMessage) (store : Store) : Learns inbound store store :=
  ⟨rfl, fun _ _ => rfl, fun _ _ => rfl⟩

theorem learns_learned (keyed : store.groups.KeyedBy (·.id)) (thread : ThreadId) :
    Learns inbound store (learned host inbound thread store).store := by
  rw [learned]
  cases about : inbound.group with
  | some group =>
    dsimp only
    split
    · refine ⟨rfl, fun id other => ?_, fun _ _ => rfl⟩
      let arrival : GroupArrival := ⟨host, group, inbound.sender, thread⟩
      have keyed' : ({ store } : Outbox).store.groups.KeyedBy (·.id) := keyed
      have named : (arrival.row host.settings.selfIdentity (store.group? group.id)).id = group.id :=
        row_id keyed' host.settings.selfIdentity arrival
      have differ : id ≠ group.id := fun same => other group about same.symm
      show (store.groups.put _ _).get? id = _
      rw [named, Table.get?_put, if_neg differ]
      rfl
    · exact .refl inbound store
  | none =>
    dsimp only
    split
    · obtain ⟨contacts, eq⟩ := store.markRegistered_store inbound.sender
      refine ⟨by rw [eq], fun id _ => by rw [eq]; rfl, fun identity other => ?_⟩
      have differ : identity ≠ inbound.sender := other.resolve_left (by simp [about])
      exact store.contact?_markRegistered differ
    · exact .refl inbound store

/-! ## Every arrival -/

/-- What a message that is new has left: one row, in the thread of its conversation, which shows it; what
it says of its group or its sender; and what comes out. -/
structure Intake (host : Host) (inbound : InboundMessage) (before : Outbox) (outcome : Outcome Answer)
    (row : Message) (thread : Thread) : Prop where
  answer : outcome.result = .ok (.arrived (some row.id))
  fresh : before.store.message? row.id = none
  rows : ∀ id, outcome.outbox.store.message? id =
    if id = row.id then some row else before.store.message? id
  content : row.toMessageContent =
    receivedContent inbound thread.id (readable host.cipher inbound) row.inReplyTo
  quotes : ∀ id, row.inReplyTo = some id ↔ ∃ name ∈ inbound.inReplyTo, before.store.Quotes name id
  home : outcome.outbox.store.threadForPeer? (conversationOf inbound).1 = some thread
  shown : thread = (before.store.opened inbound).value.extended row
  threads : ∀ id, id ≠ thread.id → outcome.outbox.store.threads.get? id = before.store.threads.get? id
  groups : ∀ id, (∀ group ∈ inbound.group, group.id ≠ id) →
    outcome.outbox.store.group? id = before.store.group? id
  contacts : ∀ identity, inbound.group.isSome ∨ identity ≠ inbound.sender →
    outcome.outbox.store.contact? identity = before.store.contact? identity
  state : outcome.outbox = { before with store := outcome.outbox.store }
  events : outcome.events = requested host inbound row.id
  signals : outcome.signals = summons host inbound thread.id

section
variable {outbox : Outbox} (coherent : outbox.store.Coherent) (takes : host.Takes)
  (unknown : outbox.store.messageByServerId? .incoming inbound.serverId = none)
include coherent takes unknown

theorem intake (named : outbox.store.Named) :
    let taken := outbox.store.taken inbound (readable host.cipher inbound)
    Intake host inbound outbox ({ outbox : Service }.request host (.incoming inbound)) taken.value
      ((outbox.store.opened inbound).value.extended taken.value) := by
  intro taken
  have tidy := coherent.tidy
  have groups : taken.store.groups = outbox.store.groups := by
    obtain ⟨serverIds, eq⟩ := Store.taken_store tidy inbound (readable host.cipher inbound)
    rw [show taken.store = _ from eq]
    exact outbox.store.groups_ensureThread _ _
  have contacts : taken.store.contacts = outbox.store.contacts := by
    obtain ⟨serverIds, eq⟩ := Store.taken_store tidy inbound (readable host.cipher inbound)
    rw [show taken.store = _ from eq, Store.opened, Store.ensureThread_store]
    split <;> rfl
  have learns : Learns inbound taken.store
      (learned host inbound (outbox.store.opened inbound).value.id taken.store).store :=
    learns_learned (groups ▸ coherent.groups) _
  have number : taken.value.id = outbox.store.nextMessage := outbox.store.nextMessage_ensureThread _ _
  rw [request_new takes unknown]
  exact {
    answer := rfl
    fresh := by
      rw [number]
      exact tidy.toOrderly.get?_nextMessage
    rows := by
      intro id
      dsimp only
      rw [learns.rest]
      exact Store.message?_taken outbox.store inbound _ id
    content := rfl
    quotes := by
      intro id
      show inbound.inReplyTo.bind outbox.store.quoted? = some id ↔ _
      rw [Option.bind_eq_some_iff]
      exact exists_congr fun name => and_congr_right fun _ => named.quoted?_eq_some_iff tidy.messages
    home := by
      dsimp only
      rw [learns.rest]
      exact Store.threadForPeer?_taken tidy inbound _
    shown := rfl
    threads := by
      intro id other
      dsimp only
      rw [learns.rest]
      exact (Store.threads_taken tidy inbound _ id).trans (if_neg other)
    groups := by
      intro id other
      exact (learns.groups id other).trans (congrArg (·.get? id) groups)
    contacts := by
      intro identity other
      exact (learns.contacts identity other).trans (congrArg (·.get? identity) contacts)
    state := rfl
    events := by
      rw [Outcome.events, List.map_map]
      exact List.map_id' _
    signals := rfl }

/-- With another cipher the new row reads otherwise, and its thread shows it so; all else is the same. -/
theorem request_reading (cipher : Cipher) :
    let outcome := { outbox : Service }.request host (.incoming inbound)
    let row := (outbox.store.taken inbound (readable host.cipher inbound)).value.reading
      (readable cipher inbound)
    let reread (store : Store) := (store.putMessage row).putThread
      ((outbox.store.opened inbound).value.extended row)
    { outbox : Service }.request { host with cipher } (.incoming inbound) =
      { outcome with
        outbox.store := reread outcome.outbox.store
        publications := outcome.publications.map fun publication =>
          ⟨publication.event, reread publication.store⟩ } := by
  intro outcome row reread
  let taken := outbox.store.taken inbound (readable host.cipher inbound)
  let thread := (outbox.store.opened inbound).value.extended row
  let learned := learned host inbound thread.id taken.store
  have takes' : { host with cipher }.Takes := ⟨takes.named, takes.opened, takes.inserted⟩
  have other : outbox.store.taken inbound (readable cipher inbound) =
      ⟨row, reread taken.store, taken.changes⟩ :=
    Store.taken_reading coherent.tidy inbound (readable host.cipher inbound) (readable cipher inbound)
  have aside : Outbox.learned { host with cipher } inbound thread.id (reread taken.store) =
      ⟨(), reread learned.store, learned.changes⟩ := learned_aside cipher thread.id row thread
  have known : outcome = _ := request_new takes unknown
  have heard : { outbox : Service }.request { host with cipher } (.incoming inbound) = _ :=
    request_new takes' unknown
  rw [heard, known, other]
  dsimp only
  rw [show Outbox.learned { host with cipher } inbound (outbox.store.opened inbound).value.id
    (reread taken.store) = _ from aside, List.map_map]
  rfl

end

/-- In every life of the outbox in which our names are different, and wherever the store does what an
arriving message cannot do without: a message whose name has not arrived leaves what `Intake` says,
whatever it carries and whatever goes wrong with that.  If the cipher had been another one, the row
would read otherwise, and its thread would show it so; all else would be the same. -/
theorem incoming_exact {stimuli : List Stimulus}
    (faultless : ∀ stimulus ∈ stimuli, stimulus.host.Faultless)
    (distinct : (namesIn {} stimuli).Nodup) {host : Host} (takes : host.Takes)
    {inbound : InboundMessage} (new : ¬(play {} stimuli).1.store.HasArrived inbound.serverId) :
    let before := (play {} stimuli).1
    let outcome := { outbox := before : Service }.request host (.incoming inbound)
    ∃ row thread, Intake host inbound before outcome row thread ∧ ∀ cipher : Cipher,
      let other := row.reading (readable cipher inbound)
      let reread (store : Store) :=
        (store.putMessage other).putThread { thread with lastMessage := some other.summary }
      { outbox := before : Service }.request { host with cipher } (.incoming inbound) =
        { outcome with
          outbox.store := reread outcome.outbox.store
          publications := outcome.publications.map fun publication =>
            ⟨publication.event, reread publication.store⟩ } := by
  intro before outcome
  have coherent : before.store.Coherent := coherent_play .empty faultless
  have named : before.store.Named := named_play faultless distinct
  rw [named.hasArrived_iff coherent.tidy.messages, Option.not_isSome_iff_eq_none] at new
  exact ⟨_, _, intake coherent takes new named, request_reading coherent takes new⟩

/-- A message with everything that a message can carry.  It cannot be read, and the group that it makes
cannot be stored; it is there all the same, as an answer to the message of ours whose name it quotes. -/
theorem incoming_exact_unreadable :
    let host : Host := { settings := {}, serverId := toString }
    let greeting : InboundMessage :=
      { serverId := "0", sender := ⟨"a@x"⟩, mime := textMime, body := [], encrypted := false
        timestamp := 0, attachment := none, location := none, inReplyTo := none, group := none
        requestReceipt := false }
    let inputs : List Input := [.openThread ⟨"a@x"⟩ false, .request (.sendText ⟨1⟩ "hello" none),
      .request (.incoming greeting)]
    let stimuli := inputs.map (Stimulus.mk host)
    let before := (play {} stimuli).1
    let poor : Host := { host with
      cipher := { Cipher.plain with decrypt := fun _ _ => .error .cancelled }
      fault := fun call => if call = .saveGroup then some .cancelled else none }
    let inbound : InboundMessage := { greeting with
      serverId := "1"
      encrypted := true
      attachment := some ⟨"image/png", "url", 10, false⟩
      inReplyTo := some "0"
      group := some ⟨⟨"g@x"⟩, ⟨"a@x"⟩, some (.create [] none)⟩
      requestReceipt := true }
    let outcome := { outbox := before : Service }.request poor (.incoming inbound)
    (∀ stimulus ∈ stimuli, stimulus.host.Faultless) ∧ (namesIn {} stimuli).Nodup ∧ poor.Takes ∧
      ¬before.store.HasArrived inbound.serverId ∧ ∃ row : Message,
        outcome.result = .ok (.arrived (some row.id)) ∧
        outcome.outbox.store.message? row.id = some row ∧ row.encrypted ∧
        row.inReplyTo = some ⟨1⟩ ∧
        outcome.events =
          [.downloadAttachmentRequest row.id "url", .sendDeliveryReceiptRequest row.id] ∧
        outcome.signals = [.askPaused ⟨"g@x"⟩, .updateNotifications row.thread] := by
  intro host greeting inputs stimuli before poor inbound outcome
  have faultless : ∀ stimulus ∈ stimuli, stimulus.host.Faultless :=
    List.forall_mem_map.2 fun _ _ _ => rfl
  have distinct : (namesIn {} stimuli).Nodup := by decide +kernel
  have takes : poor.Takes := ⟨rfl, rfl, rfl⟩
  have named : before.store.Named := named_play faultless distinct
  have keyed := (coherent_play .empty faultless : before.store.Coherent).tidy.messages
  have new : ¬before.store.HasArrived inbound.serverId := by
    rw [named.hasArrived_iff keyed]
    decide +kernel
  have quoted : before.store.Quotes "0" ⟨1⟩ := by
    rw [← named.quoted?_eq_some_iff keyed]
    decide +kernel
  obtain ⟨row, thread, left⟩ : ∃ row thread, Intake poor inbound before outcome row thread := by
    obtain ⟨row, thread, left, -⟩ := incoming_exact faultless distinct takes new
    exact ⟨row, thread, left⟩
  have stored : outcome.outbox.store.message? row.id = some row := (left.rows row.id).trans (if_pos rfl)
  have asked : requested poor inbound row.id =
      [.downloadAttachmentRequest row.id "url", .sendDeliveryReceiptRequest row.id] := rfl
  have told : summons poor inbound thread.id = [.askPaused ⟨"g@x"⟩, .updateNotifications thread.id] := rfl
  have unreadable : row.encrypted := congrArg MessageContent.encrypted left.content
  have home : row.thread = thread.id := congrArg MessageContent.thread left.content
  refine ⟨faultless, distinct, takes, new, row, left.answer, stored, unreadable,
    (left.quotes ⟨1⟩).2 ⟨"0", rfl, quoted⟩, left.events.trans asked, ?_⟩
  rw [home, ← told]
  exact left.signals

end Outbox

end Messenger

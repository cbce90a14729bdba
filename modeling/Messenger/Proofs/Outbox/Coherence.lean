/-
# Stores that an outbox has written

What the moves of an outbox keep, beyond what every write keeps:

    the index of people leads to threads of those people      (`Coherent.indexed`)
    groups stand under their own identities                   (`Coherent.groups`)
    an outgoing message is addressed as its thread is, and a
    command of ours to a group waits or was acknowledged      (`Posted`)

So all outgoing messages of a thread have one peer and one group, which is why a scan that is
about one of them is about all.
-/
import Messenger.Proofs.Outbox.Moves
import Messenger.Proofs.Store.Summaries

namespace Messenger

namespace Store

/-- What is so of every outgoing message. -/
structure Posted (store : Store) (message : MessageContent) : Prop where
  peer : store.peerOf? message.thread = some message.peer
  group : ∀ group ∈ message.group, group.id = message.peer
  command : message.isGroupCommand → message.group.isSome ∧ message.attachment = none ∧
    (message.status = .sending ∨ message.status ∈ Status.acknowledging)
  file : ∀ attachment ∈ message.attachment, attachment.localPath.isSome

/-- What is so of every store that an outbox has written. -/
structure Coherent (store : Store) : Prop where
  tidy : store.Tidy
  groups : store.groups.KeyedBy (·.id)
  indexed : ∀ {peer : Identity} {id : ThreadId},
    store.threadOf.get? peer = some id → store.peerOf? id = some peer
  posted : ∀ {id : MessageId} {message : Message}, store.messages.get? id = some message →
    message.direction = .outgoing → store.Posted message.toMessageContent

/-- No thread has come or gone, and a part of each is as it was. -/
structure SameThreads (part : Thread → α) (store other : Store) : Prop where
  threadOf : other.threadOf = store.threadOf
  groups : other.groups = store.groups
  parts : ∀ id, (other.threads.get? id).map part = (store.threads.get? id).map part

namespace SameThreads

variable {part : Thread → α} {store middle other : Store}

theorem refl (store : Store) : store.SameThreads part store := ⟨rfl, rfl, fun _ => rfl⟩

theorem trans (one : store.SameThreads part middle) (two : middle.SameThreads part other) :
    store.SameThreads part other :=
  ⟨two.threadOf.trans one.threadOf, two.groups.trans one.groups,
    fun id => (two.parts id).trans (one.parts id)⟩

theorem putThread {thread old : Thread} (found : store.threads.get? thread.id = some old)
    (same : part thread = part old) : store.SameThreads part (store.putThread thread) where
  threadOf := rfl
  groups := rfl
  parts := by
    intro id
    rw [Store.putThread, Table.get?_put]
    split
    case isTrue here => rw [here, found, Option.map_some, Option.map_some, same]
    case isFalse => rfl

theorem setRequestStatus (orderly : Orderly store) (id : ThreadId) {status : RequestStatus}
    (plain : ∀ thread : Thread, part { thread with requestStatus := status } = part thread) :
    store.SameThreads part (store.setRequestStatus id status).store := by
  unfold Store.setRequestStatus
  cases found : store.threads.get? id with
  | none => exact .refl store
  | some thread =>
    have own : thread.id = id := orderly.threads.key_eq found
    subst own
    exact putThread found (plain thread)

section
variable (summary : ∀ (thread : Thread) (count : Nat) (last : Option ThreadSummary),
  part { thread with messageCount := count, lastMessage := last } = part thread)
include summary

theorem recordInsert (orderly : Orderly store) (message : Message) :
    store.SameThreads part (store.recordInsert message).1 := by
  unfold Store.recordInsert
  rw [orderly.thread?_eq]
  cases found : store.threads.get? message.thread with
  | none => exact .refl store
  | some thread =>
    have own : thread.id = message.thread := orderly.threads.key_eq found
    rw [← own] at found
    exact putThread found (summary thread _ _)

theorem recordUpdate (orderly : Orderly store) (message : Message) :
    store.SameThreads part (store.recordUpdate message).1 := by
  unfold Store.recordUpdate
  rw [orderly.thread?_eq]
  cases found : store.threads.get? message.thread with
  | none => exact .refl store
  | some thread =>
    have own : thread.id = message.thread := orderly.threads.key_eq found
    rw [← own] at found
    dsimp only
    split
    · exact putThread found (summary thread thread.messageCount _)
    · exact .refl store

theorem announceUpdates (orderly : Orderly store) (updated : List Message) :
    store.SameThreads part (store.announceUpdates updated).1 := by
  induction updated generalizing store with
  | nil => exact .refl store
  | cons message rest ih =>
    exact (recordUpdate summary orderly message).trans (ih (orderly.recordUpdate message))

omit summary in
theorem setStatuses (status : Status) (now : Int) (ids : List MessageId) :
    store.SameThreads part (Store.setStatuses status now store ids).1 := by
  induction ids generalizing store with
  | nil => exact .refl store
  | cons id rest ih =>
    unfold Store.setStatuses
    split
    · exact ih
    case h_2 message _ =>
      have put (row : Message) : store.SameThreads part (store.putMessage row) := ⟨rfl, rfl, fun _ => rfl⟩
      exact (put _).trans ih

theorem updateStatuses (tidy : store.Tidy) (ids : List MessageId) (status : Status) (now : Int) :
    store.SameThreads part (store.updateStatuses ids status now).store := by
  have stamped := (tidy.dated.setStatuses status now ids).1
  exact (setStatuses status now ids).trans (announceUpdates summary stamped.toOrderly _)

theorem updateMessage {message : Message} {committed : Committed Unit} {old : Message}
    (tidy : store.Tidy) (found : store.messages.get? message.id = some old)
    (home : message.thread = old.thread) (done : store.updateMessage message = .ok committed) :
    store.SameThreads part committed.store := by
  unfold Store.updateMessage at done
  rw [if_pos (Table.has_iff.2 ⟨old, found⟩)] at done
  cases done
  have put : store.SameThreads part (store.putMessage message) := ⟨rfl, rfl, fun _ => rfl⟩
  exact put.trans (recordUpdate summary (tidy.toOrderly.putMessage found home) message)

theorem insertMessage (tidy : store.Tidy) {content : MessageContent}
    (home : content.thread = .none ∨ ∃ thread, store.threads.get? content.thread = some thread) :
    store.SameThreads part (store.insertMessage content).store := by
  have entered : store.SameThreads part (store.enter content) := by
    obtain ⟨serverIds, eq⟩ := store.enter_eq content
    rw [eq]
    exact ⟨rfl, rfl, fun _ => rfl⟩
  rw [insertMessage_store]
  exact entered.trans (recordInsert summary (tidy.toOrderly.enter home) _)

end

end SameThreads

theorem Posted.mono {store other : Store} {message : MessageContent} (posted : store.Posted message)
    (peers : ∀ {id peer}, store.peerOf? id = some peer → other.peerOf? id = some peer) :
    other.Posted message :=
  ⟨peers posted.peer, posted.group, posted.command, posted.file⟩

theorem Posted.restamped {store : Store} {message : Message}
    (posted : store.Posted message.toMessageContent) {status : Status} (now : Int)
    (state : status = .sending ∨ status ∈ Status.acknowledging) :
    store.Posted { message with status, statusChanged := now : Message }.toMessageContent :=
  ⟨posted.peer, posted.group, fun command =>
    let ⟨group, attachment, _⟩ := posted.command command
    ⟨group, attachment, state⟩, posted.file⟩

theorem Posted.revised {store : Store} {old message : Message} (revised : Revised old message)
    (posted : store.Posted old.toMessageContent) : store.Posted message.toMessageContent := by
  cases revised with
  | advanced status now mem _ => exact posted.restamped now (Or.inr mem)
  | uploaded attachment remote found =>
    refine ⟨posted.peer, posted.group, fun command => ?_, fun file mem => ?_⟩
    · have none := (posted.command command).2.1
      rw [found] at none
      cases none
    · rw [← Option.some.inj mem]
      exact posted.file attachment found
  | prepared preview length =>
    refine ⟨posted.peer, posted.group, fun command => ?_, fun file mem => ?_⟩
    · obtain ⟨group, none, state⟩ := posted.command command
      exact ⟨group, by rw [none]; rfl, state⟩
    · obtain ⟨attachment, has, rfl⟩ := Option.map_eq_some_iff.1 mem
      exact posted.file attachment has

namespace Coherent

variable {store : Store}

theorem empty : Coherent ∅ where
  tidy := .empty
  groups := .empty
  indexed := fun found => nomatch found
  posted := fun found => nomatch found

theorem of_sameThreads (coherent : store.Coherent) {other : Store} (same : store.SameThreads (·.peer) other)
    (tidy : other.Tidy)
    (posted : ∀ {id : MessageId} {message : Message}, other.messages.get? id = some message →
      message.direction = .outgoing → store.Posted message.toMessageContent) : other.Coherent where
  tidy := tidy
  groups := same.groups ▸ coherent.groups
  indexed := by
    intro peer id found
    exact (same.parts id).trans (coherent.indexed (same.threadOf ▸ found))
  posted := fun found outgoing => (posted found outgoing).mono fun known => (same.parts _).trans known

theorem threadForPeer? (coherent : store.Coherent) {peer : Identity} {thread : Thread}
    (found : store.threadForPeer? peer = some thread) :
    store.threads.get? thread.id = some thread ∧ thread.peer = peer := by
  obtain ⟨id, indexed, stored⟩ := Option.bind_eq_some_iff.1 found
  have own : thread.id = id := coherent.tidy.threads.key_eq stored
  have known := coherent.indexed indexed
  rw [peerOf?, stored, Option.map_some, Option.some.injEq] at known
  exact ⟨own ▸ stored, known⟩

theorem home_of_drafted (coherent : store.Coherent) {content : MessageContent}
    (drafted : Drafted store content) :
    ∃ thread, store.threads.get? content.thread = some thread := by
  cases drafted with
  | composed id thread group found known composed =>
    exact ⟨thread, by rw [composed.thread_eq, coherent.tidy.threads.key_eq found, found]⟩
  | command group thread command name now found thread_eq content_eq =>
    refine ⟨thread, ?_⟩
    rw [content_eq, Outbox.commandMessage, thread_eq]
    exact (coherent.threadForPeer? found).1
  | received peer thread name found thread_eq =>
    exact ⟨thread, thread_eq ▸ (coherent.threadForPeer? found).1⟩

theorem posted_of_drafted (coherent : store.Coherent) {content : MessageContent}
    (drafted : Drafted store content) (outgoing : content.direction = .outgoing) :
    store.Posted content := by
  cases drafted with
  | composed id thread group found known composed =>
    refine ⟨?_, fun ref mem => ?_, fun command => ?_, composed.file⟩
    · rw [peerOf?, composed.thread_eq, coherent.tidy.threads.key_eq found, found, Option.map_some,
        composed.peer_eq]
    · obtain ⟨stored, known, rfl⟩ := known ref (composed.group_eq ▸ mem)
      exact (coherent.groups.key_eq known).trans composed.peer_eq.symm
    · rw [MessageContent.isGroupCommand, composed.plain] at command
      cases command
  | command group thread command name now found thread_eq content_eq =>
    obtain ⟨stored, peer⟩ := coherent.threadForPeer? found
    rw [content_eq]
    refine ⟨?_, fun ref mem => ?_, fun _ => ⟨rfl, rfl, Or.inl rfl⟩, nofun⟩
    · rw [peerOf?, Outbox.commandMessage, thread_eq, stored, Option.map_some, peer]
    · rw [← Option.some.inj mem]
      rfl
  | received peer thread name found thread_eq direction_eq =>
    rw [direction_eq] at outgoing
    cases outgoing

theorem insertMessage (coherent : store.Coherent) {content : MessageContent}
    (drafted : Drafted store content) : (store.insertMessage content).store.Coherent := by
  have home : content.thread = .none ∨ ∃ thread, store.threads.get? content.thread = some thread :=
    Or.inr (coherent.home_of_drafted drafted)
  refine coherent.of_sameThreads (.insertMessage (fun _ _ _ => rfl) coherent.tidy home)
    (coherent.tidy.insertMessage home) ?_
  intro id message found outgoing
  rw [insertMessage_messages, Table.get?_put] at found
  split at found
  · cases found
    exact coherent.posted_of_drafted drafted outgoing
  · exact coherent.posted found outgoing

theorem updateMessage (coherent : store.Coherent) {message old : Message}
    (found : store.messages.get? message.id = some old) (revised : Revised old message) :
    ((Write.updateMessage message).after store).Coherent := by
  have home : message.thread = old.thread := by cases revised <;> rfl
  have direction : message.direction = old.direction := by cases revised <;> rfl
  unfold Write.after
  cases done : (Write.updateMessage message).perform store with
  | error failure => exact coherent
  | ok committed =>
    refine coherent.of_sameThreads (.updateMessage (fun _ _ _ => rfl) coherent.tidy found home done)
      (coherent.tidy.updateMessage (fun {stored} eq => ?_) done) ?_
    · rw [found, Option.some.injEq] at eq
      rw [home, eq]
    · intro id row stored outgoing
      rw [updateMessage_messages done, Table.get?_put] at stored
      split at stored
      · cases stored
        exact (coherent.posted found (direction ▸ outgoing)).revised revised
      · exact coherent.posted stored outgoing

theorem updateStatuses (coherent : store.Coherent) (ids : List MessageId) (now : Int) :
    (store.updateStatuses ids .sending now).store.Coherent := by
  refine coherent.of_sameThreads (.updateStatuses (fun _ _ _ => rfl) coherent.tidy ids .sending now)
    (coherent.tidy.updateStatuses ids .sending now) ?_
  intro id message found outgoing
  rw [get?_updateStatuses coherent.tidy.messages] at found
  split at found
  · obtain ⟨old, stored, rfl⟩ := Option.map_eq_some_iff.1 found
    exact (coherent.posted stored outgoing).restamped now (Or.inl rfl)
  · exact coherent.posted found outgoing

theorem ensureThread (coherent : store.Coherent) (peer : Identity) (isGroup : Bool) :
    (store.ensureThread peer isGroup).store.Coherent := by
  have tidy := coherent.tidy.ensureThread peer isGroup
  rw [ensureThread_store] at tidy ⊢
  split
  · exact coherent
  case isFalse unknown =>
    rw [if_neg unknown] at tidy
    have peers {id : ThreadId} {other : Identity} (known : store.peerOf? id = some other) :
        (store.found peer isGroup).peerOf? id = some other := by
      obtain ⟨thread, stored, -⟩ := Option.map_eq_some_iff.1 known
      have old : id ≠ store.nextThread := by
        rintro rfl
        exact Int.lt_irrefl _ (coherent.tidy.thread_lt stored)
      rw [peerOf?, found, Table.get?_put, if_neg old]
      exact known
    refine ⟨tidy, coherent.groups, fun {other id} indexed => ?_, fun stored outgoing =>
      (coherent.posted stored outgoing).mono peers⟩
    rw [found, Table.get?_put] at indexed
    split at indexed
    case isTrue same =>
      cases indexed
      rw [same, peerOf?, found, Table.get?_put, if_pos rfl]
      rfl
    case isFalse => exact peers (coherent.indexed indexed)

/-- What the writes of an outbox keep. -/
theorem after (coherent : store.Coherent) {write : Write} (ours : write.Ours store) :
    (write.after store).Coherent := by
  cases write with
  | insertMessage content => exact coherent.insertMessage ours.1
  | updateMessage message =>
    obtain ⟨old, found, revised⟩ := ours
    exact coherent.updateMessage found revised
  | updateStatuses ids status now =>
    obtain rfl : status = .sending := ours.1
    exact coherent.updateStatuses ids now
  | ensureThread peer isGroup => exact coherent.ensureThread peer isGroup
  | setRequestStatus id status =>
    refine coherent.of_sameThreads (.setRequestStatus coherent.tidy.toOrderly id fun _ => rfl)
      (coherent.tidy.setRequestStatus id status) ?_
    intro number message found outgoing
    have same : (store.setRequestStatus id status).store.messages = store.messages := by
      unfold Store.setRequestStatus
      split <;> rfl
    exact coherent.posted (same ▸ found) outgoing
  | saveGroup group =>
    exact ⟨coherent.tidy.congr rfl rfl rfl rfl, coherent.groups.put rfl, coherent.indexed,
      fun stored outgoing => (coherent.posted stored outgoing).mono id⟩
  | markRegistered identity =>
    obtain ⟨contacts, eq⟩ := store.markRegistered_store identity
    show (store.markRegistered identity).store.Coherent
    rw [eq]
    exact ⟨coherent.tidy.congr rfl rfl rfl rfl, coherent.groups, coherent.indexed,
      fun stored outgoing => (coherent.posted stored outgoing).mono id⟩
  | _ => exact ours.elim

end Coherent

end Store

end Messenger

/-
# Stores in order

What every write keeps, whatever it is called with: rows stand under their own numbers, numbers
still to be given out are above all that were, and the thread of a message exists (`Orderly`).
A message outside any thread has the number of no thread, `ThreadId.none`, under which there is
never a row.

The second half says what a change to one message does to the messages of a thread, as
`messagesOf` lists them:

    a new message            at the end of its thread             (`messagesOf_enter`)
    a message over its old   in its place, if the thread is same  (`messagesOf_putMessage`)
    a message removed        left out                             (`messagesOf_eraseMessage`)
-/
import Messenger.Proofs.Table
import Messenger.Store.Messages

namespace Messenger

def Message.inState (message : Message) (status : Status) (now : Int) : Message :=
  { message with status, statusChanged := now }

def Thread.extended (thread : Thread) (message : Message) : Thread :=
  { thread with messageCount := thread.messageCount + 1, lastMessage := some message.summary }

theorem Table.KeyedBy.ascending {messages : Table MessageId Message}
    (keyed : messages.KeyedBy (·.id)) : messages.values.Pairwise fun a b => a.id.val < b.id.val :=
  keyed.values_ascending.imp fun lt => Int.compare_eq_lt.1 lt

namespace Store

/-- The person or group of a thread. -/
def peerOf? (store : Store) (id : ThreadId) : Option Identity := (store.threads.get? id).map (·.peer)

/-- Rows stand under their own numbers, and the thread of a message exists. -/
structure Orderly (store : Store) : Prop where
  messages : store.messages.KeyedBy (·.id)
  threads : store.threads.KeyedBy (·.id)
  message_lt : ∀ {id : MessageId} {message : Message},
    store.messages.get? id = some message → id.val < store.nextMessage.val
  thread_pos : ∀ {id : ThreadId} {thread : Thread},
    store.threads.get? id = some thread → 0 < id.val
  thread_lt : ∀ {id : ThreadId} {thread : Thread},
    store.threads.get? id = some thread → id.val < store.nextThread.val
  nextThread_pos : 0 < store.nextThread.val
  housed : ∀ {id : MessageId} {message : Message}, store.messages.get? id = some message →
    message.thread = .none ∨ ∃ thread, store.threads.get? message.thread = some thread

namespace Orderly

variable {store : Store}

theorem empty : Orderly ∅ where
  messages := Table.KeyedBy.empty
  threads := Table.KeyedBy.empty
  message_lt := fun found => nomatch found
  thread_pos := fun found => nomatch found
  thread_lt := fun found => nomatch found
  nextThread_pos := by decide
  housed := fun found => nomatch found

theorem mem_messages (orderly : Orderly store) {message : Message} :
    message ∈ store.messages.values ↔ store.messages.get? message.id = some message :=
  orderly.messages.mem_values_iff

theorem mem_messagesOf (orderly : Orderly store) {id : ThreadId} {message : Message} :
    message ∈ store.messagesOf id ↔
      store.messages.get? message.id = some message ∧ message.thread = id := by
  simp [messagesOf, orderly.mem_messages]

theorem get?_nextMessage (orderly : Orderly store) :
    store.messages.get? store.nextMessage = none := by
  cases found : store.messages.get? store.nextMessage with
  | none => rfl
  | some message => exact absurd (orderly.message_lt found) (Int.lt_irrefl _)

theorem threads_get?_none (orderly : Orderly store) : store.threads.get? .none = none := by
  cases found : store.threads.get? .none with
  | none => rfl
  | some thread => exact absurd (orderly.thread_pos found) (by decide)

theorem thread?_eq (orderly : Orderly store) (id : ThreadId) :
    store.thread? id = store.threads.get? id := by
  unfold thread?
  split
  case isTrue none =>
    rw [ThreadId.isNone, decide_eq_true_eq] at none
    rw [none, orderly.threads_get?_none]
  case isFalse => rfl

/-! ## Writes to one row -/

theorem putThread (orderly : Orderly store) {thread old : Thread}
    (found : store.threads.get? thread.id = some old) : Orderly (store.putThread thread) where
  messages := orderly.messages
  threads := orderly.threads.put rfl
  message_lt := orderly.message_lt
  thread_pos := by
    intro id row eq
    rw [Store.putThread, Table.get?_put] at eq
    split at eq
    case isTrue same => exact same ▸ orderly.thread_pos found
    case isFalse => exact orderly.thread_pos eq
  thread_lt := by
    intro id row eq
    rw [Store.putThread, Table.get?_put] at eq
    split at eq
    case isTrue same => exact same ▸ orderly.thread_lt found
    case isFalse => exact orderly.thread_lt eq
  nextThread_pos := orderly.nextThread_pos
  housed := by
    intro id message eq
    refine (orderly.housed eq).imp_right fun ⟨row, stands⟩ => ?_
    rw [Store.putThread, Table.get?_put]
    split
    · exact ⟨thread, rfl⟩
    · exact ⟨row, stands⟩

theorem removeThread (orderly : Orderly store) {thread : Thread}
    (vacant : store.messagesOf thread.id = []) : Orderly (store.removeThread thread) where
  messages := orderly.messages
  threads := orderly.threads.erase _
  message_lt := orderly.message_lt
  thread_pos := by
    intro id row eq
    rw [Store.removeThread, Table.get?_erase] at eq
    split at eq
    · cases eq
    · exact orderly.thread_pos eq
  thread_lt := by
    intro id row eq
    rw [Store.removeThread, Table.get?_erase] at eq
    split at eq
    · cases eq
    · exact orderly.thread_lt eq
  nextThread_pos := orderly.nextThread_pos
  housed := by
    intro id message eq
    refine (orderly.housed eq).imp_right fun ⟨row, stands⟩ => ⟨row, ?_⟩
    rw [Store.removeThread, Table.get?_erase, if_neg, stands]
    intro same
    have own : message.id = id := orderly.messages.key_eq eq
    have mem : message ∈ store.messagesOf thread.id :=
      orderly.mem_messagesOf.2 ⟨own.symm ▸ eq, same⟩
    rw [vacant] at mem
    cases mem

theorem recordUpdate (orderly : Orderly store) (message : Message) :
    Orderly (store.recordUpdate message).1 := by
  unfold Store.recordUpdate
  rw [orderly.thread?_eq]
  cases found : store.threads.get? message.thread with
  | none => exact orderly
  | some thread =>
    have own : thread.id = message.thread := orderly.threads.key_eq found
    rw [← own] at found
    dsimp only
    split
    · exact orderly.putThread found
    · exact orderly

theorem putMessage (orderly : Orderly store) {message old : Message}
    (found : store.messages.get? message.id = some old) (home : message.thread = old.thread) :
    Orderly (store.putMessage message) where
  messages := orderly.messages.put rfl
  threads := orderly.threads
  message_lt := by
    intro id row eq
    rw [Store.putMessage, Table.get?_put] at eq
    split at eq
    case isTrue same => exact same ▸ orderly.message_lt found
    case isFalse => exact orderly.message_lt eq
  thread_pos := orderly.thread_pos
  thread_lt := orderly.thread_lt
  nextThread_pos := orderly.nextThread_pos
  housed := by
    intro id row eq
    rw [Store.putMessage, Table.get?_put] at eq
    split at eq
    · cases eq
      rw [home]
      exact orderly.housed found
    · exact orderly.housed eq

theorem eraseMessage (orderly : Orderly store) (id : MessageId) (message : Message) :
    Orderly ({ store with messages := store.messages.erase id }.unindexMessage message) := by
  have erased : Orderly { store with messages := store.messages.erase id } := {
    orderly with
    messages := orderly.messages.erase id
    message_lt := by
      intro other row eq
      rw [Table.get?_erase] at eq
      split at eq
      · cases eq
      · exact orderly.message_lt eq
    housed := by
      intro other row eq
      rw [Table.get?_erase] at eq
      split at eq
      · cases eq
      · exact orderly.housed eq }
  unfold Store.unindexMessage
  split
  · exact erased
  · exact { erased with }

end Orderly

/-! ## New rows -/

def newMessage (store : Store) (content : MessageContent) : Message :=
  { content with id := store.nextMessage, statusChanged := content.timestamp }

/-- The store with the row of a new message, which its thread does not count yet. -/
def enter (store : Store) (content : MessageContent) : Store :=
  ({ store with nextMessage := store.nextMessage.next }.putMessage
    (store.newMessage content)).indexMessage (store.newMessage content)

theorem insertMessage_store (store : Store) (content : MessageContent) :
    (store.insertMessage content).store =
      ((store.enter content).recordInsert (store.newMessage content)).1 := rfl

/-- Entering a message changes the messages, their names and their counter only. -/
theorem enter_eq (store : Store) (content : MessageContent) : ∃ serverIds,
    store.enter content =
      { store with
        messages := store.messages.put store.nextMessage (store.newMessage content)
        nextMessage := store.nextMessage.next
        serverIds } := by
  unfold enter indexMessage putMessage
  split <;> exact ⟨_, rfl⟩

theorem recordInsert_messages (store : Store) (message : Message) :
    (store.recordInsert message).1.messages = store.messages := by
  unfold recordInsert
  split <;> rfl

theorem recordUpdate_messages (store : Store) (message : Message) :
    (store.recordUpdate message).1.messages = store.messages := by
  unfold recordUpdate
  split
  · rfl
  · split <;> rfl

theorem recordInsert_serverIds (store : Store) (message : Message) :
    (store.recordInsert message).1.serverIds = store.serverIds := by
  unfold recordInsert
  split <;> rfl

theorem recordUpdate_serverIds (store : Store) (message : Message) :
    (store.recordUpdate message).1.serverIds = store.serverIds := by
  unfold recordUpdate
  split
  · rfl
  · split <;> rfl

theorem insertMessage_messages (store : Store) (content : MessageContent) :
    (store.insertMessage content).store.messages =
      store.messages.put store.nextMessage (store.newMessage content) := by
  obtain ⟨serverIds, eq⟩ := store.enter_eq content
  rw [insertMessage_store, recordInsert_messages, eq]

theorem insertMessage_groups (store : Store) (content : MessageContent) :
    (store.insertMessage content).store.groups = store.groups := by
  obtain ⟨serverIds, eq⟩ := store.enter_eq content
  rw [insertMessage_store, recordInsert, eq]
  split <;> rfl

/-- What is left by a new message in a thread that exists. -/
theorem insertMessage_of_housed {store : Store} {content : MessageContent} {thread : Thread}
    (housed : store.thread? content.thread = some thread) : store.insertMessage content =
      ⟨store.newMessage content,
        (store.enter content).putThread (thread.extended (store.newMessage content)),
        [.thread thread.id, .message store.nextMessage]⟩ := by
  have looked : (store.enter content).thread? content.thread = some thread := by
    obtain ⟨serverIds, eq⟩ := store.enter_eq content
    rw [eq]
    exact housed
  have counted : (store.enter content).recordInsert (store.newMessage content) =
      ((store.enter content).putThread (thread.extended (store.newMessage content)),
        [.thread thread.id]) := by
    rw [recordInsert, show (store.newMessage content).thread = content.thread from rfl, looked]
    rfl
  show (⟨_, ((store.enter content).recordInsert (store.newMessage content)).1,
    ((store.enter content).recordInsert (store.newMessage content)).2 ++ _⟩ : Committed Message) = _
  rw [counted]
  rfl

theorem insertMessage_serverIds (store : Store) {content : MessageContent} {name : String}
    (named : content.serverId = some name) : (store.insertMessage content).store.serverIds =
      store.serverIds.put ⟨content.direction, name⟩ store.nextMessage := by
  have key : (store.newMessage content).serverKey? = some ⟨content.direction, name⟩ := by
    show content.serverId.map _ = _
    rw [named]
    rfl
  rw [insertMessage_store, recordInsert_serverIds, enter, indexMessage, key]
  rfl

theorem message?_insertMessage (store : Store) (content : MessageContent) :
    (store.insertMessage content).store.message? (store.insertMessage content).value.id =
      some (store.insertMessage content).value := by
  rw [message?, insertMessage_messages, Table.get?_put]
  exact if_pos rfl

theorem updateMessage_messages {store : Store} {message : Message} {committed : Committed Unit}
    (done : store.updateMessage message = .ok committed) :
    committed.store.messages = store.messages.put message.id message := by
  unfold updateMessage at done
  split at done
  · cases done
    exact recordUpdate_messages _ message
  · cases done

theorem updateMessage_serverIds {store : Store} {message : Message} {committed : Committed Unit}
    (done : store.updateMessage message = .ok committed) :
    committed.store.serverIds = store.serverIds := by
  unfold updateMessage at done
  split at done
  · cases done
    exact recordUpdate_serverIds _ message
  · cases done

/-! ## New states -/

/-- Exactly the messages that are stored and listed get the state. -/
theorem get?_setStatuses {store : Store} (status : Status) (now : Int) (ids : List MessageId)
    (keyed : store.messages.KeyedBy (·.id)) (id : MessageId) :
    (setStatuses status now store ids).1.messages.get? id =
      if id ∈ ids then (store.messages.get? id).map (·.inState status now)
      else store.messages.get? id := by
  induction ids generalizing store with
  | nil => rfl
  | cons first rest ih =>
    unfold setStatuses
    cases stored : store.message? first with
    | none =>
      dsimp only
      rw [ih keyed]
      by_cases same : id = first
      · subst same
        have absent : store.messages.get? id = none := stored
        simp [absent]
      · simp [same]
    | some row =>
      have own : row.id = first := keyed.key_eq stored
      subst own
      dsimp only
      rw [ih (keyed.put rfl), putMessage, Table.get?_put]
      by_cases same : id = row.id
      · subst same
        have present : store.messages.get? row.id = some row := stored
        simp [present, Message.inState]
      · simp [same]

theorem setStatuses_serverIds (status : Status) (now : Int) (store : Store) (ids : List MessageId) :
    (setStatuses status now store ids).1.serverIds = store.serverIds := by
  induction ids generalizing store with
  | nil => rfl
  | cons first rest ih =>
    unfold setStatuses
    split
    · exact ih store
    · exact ih _

theorem announceUpdates_messages (store : Store) (updated : List Message) :
    (store.announceUpdates updated).1.messages = store.messages := by
  induction updated generalizing store with
  | nil => rfl
  | cons message rest ih => exact (ih _).trans (recordUpdate_messages store message)

theorem announceUpdates_serverIds (store : Store) (updated : List Message) :
    (store.announceUpdates updated).1.serverIds = store.serverIds := by
  induction updated generalizing store with
  | nil => rfl
  | cons message rest ih => exact (ih _).trans (recordUpdate_serverIds store message)

theorem get?_updateStatuses {store : Store} (keyed : store.messages.KeyedBy (·.id))
    (ids : List MessageId) (status : Status) (now : Int) (id : MessageId) :
    (store.updateStatuses ids status now).store.messages.get? id =
      if id ∈ ids then (store.messages.get? id).map (·.inState status now)
      else store.messages.get? id := by
  rw [← get?_setStatuses status now ids keyed]
  exact congrArg (Table.get? · id) (announceUpdates_messages _ _)

theorem updateStatuses_serverIds (store : Store) (ids : List MessageId) (status : Status)
    (now : Int) : (store.updateStatuses ids status now).store.serverIds = store.serverIds :=
  (announceUpdates_serverIds _ _).trans (setStatuses_serverIds status now store ids)

/-! ## New threads -/

/-- The store with an empty thread for a person who has none. -/
def found (store : Store) (peer : Identity) (isGroup : Bool) : Store :=
  let thread : Thread := { id := store.nextThread, peer, isGroup }
  { store with
    nextThread := store.nextThread.next
    threads := store.threads.put thread.id thread
    threadOf := store.threadOf.put peer thread.id }

theorem ensureThread_store (store : Store) (peer : Identity) (isGroup : Bool) :
    (store.ensureThread peer isGroup).store =
      if (store.threadForPeer? peer).isSome then store else store.found peer isGroup := by
  unfold ensureThread
  cases store.threadForPeer? peer with
  | none => rfl
  | some thread => rfl

theorem threadForPeer?_ensureThread (store : Store) (peer : Identity) (isGroup : Bool) :
    (store.ensureThread peer isGroup).store.threadForPeer? peer =
      some (store.ensureThread peer isGroup).value := by
  unfold ensureThread
  cases known : store.threadForPeer? peer with
  | some thread => exact known
  | none => simp [threadForPeer?, putThread]

theorem nextMessage_ensureThread (store : Store) (peer : Identity) (isGroup : Bool) :
    (store.ensureThread peer isGroup).store.nextMessage = store.nextMessage := by
  rw [ensureThread_store]
  split <;> rfl

theorem groups_ensureThread (store : Store) (peer : Identity) (isGroup : Bool) :
    (store.ensureThread peer isGroup).store.groups = store.groups := by
  rw [ensureThread_store]
  split <;> rfl

theorem messageByServerId?_ensureThread (store : Store) (peer : Identity) (isGroup : Bool) :
    (store.ensureThread peer isGroup).store.messageByServerId? = store.messageByServerId? := by
  rw [ensureThread_store]
  split <;> rfl

namespace Orderly

variable {store : Store}

theorem messages_below (orderly : Orderly store) :
    ∀ row ∈ store.messages.rows, compare row.1 store.nextMessage = .lt := fun _ mem =>
  Int.compare_eq_lt.2 (orderly.message_lt (Table.get?_eq_some_iff.2 mem))

theorem enter (orderly : Orderly store) {content : MessageContent}
    (home : content.thread = .none ∨ ∃ thread, store.threads.get? content.thread = some thread) :
    Orderly (store.enter content) := by
  obtain ⟨serverIds, eq⟩ := store.enter_eq content
  rw [eq]
  exact {
    messages := orderly.messages.put rfl
    threads := orderly.threads
    message_lt := by
      intro id message found
      have next : store.nextMessage.val < store.nextMessage.next.val := Int.lt_succ _
      rw [Table.get?_put] at found
      split at found
      case isTrue same => rw [same]; exact next
      case isFalse => exact Int.lt_trans (orderly.message_lt found) next
    thread_pos := orderly.thread_pos
    thread_lt := orderly.thread_lt
    nextThread_pos := orderly.nextThread_pos
    housed := by
      intro id message found
      rw [Table.get?_put] at found
      split at found
      · cases found
        exact home
      · exact orderly.housed found }

theorem found (orderly : Orderly store) (peer : Identity) (isGroup : Bool) :
    Orderly (store.found peer isGroup) where
  messages := orderly.messages
  threads := orderly.threads.put rfl
  message_lt := orderly.message_lt
  thread_pos := by
    intro id thread stands
    rw [Store.found, Table.get?_put] at stands
    split at stands
    case isTrue same => rw [same]; exact orderly.nextThread_pos
    case isFalse => exact orderly.thread_pos stands
  thread_lt := by
    intro id thread stands
    have next : store.nextThread.val < store.nextThread.next.val := Int.lt_succ _
    rw [Store.found, Table.get?_put] at stands
    split at stands
    case isTrue same => rw [same]; exact next
    case isFalse => exact Int.lt_trans (orderly.thread_lt stands) next
  nextThread_pos := Int.lt_trans orderly.nextThread_pos (Int.lt_succ _)
  housed := by
    intro id message stands
    refine (orderly.housed stands).imp_right fun ⟨thread, stands⟩ => ?_
    rw [Store.found, Table.get?_put]
    split
    · exact ⟨_, rfl⟩
    · exact ⟨thread, stands⟩

theorem messagesOf_nextThread (orderly : Orderly store) : store.messagesOf store.nextThread = [] := by
  refine List.filter_eq_nil_iff.2 fun message mem same => ?_
  rw [decide_eq_true_eq] at same
  rcases orderly.housed (orderly.mem_messages.1 mem) with none | ⟨thread, stands⟩
  · have pos := orderly.nextThread_pos
    rw [← same, none] at pos
    exact absurd pos (by decide)
  · have lt := orderly.thread_lt stands
    rw [same] at lt
    exact Int.lt_irrefl _ lt

end Orderly

/-! ## The messages of a thread -/

section
variable {store : Store}

theorem messagesOf_congr {other : Store} (same : other.messages = store.messages) (id : ThreadId) :
    other.messagesOf id = store.messagesOf id := by
  rw [messagesOf, messagesOf, same]

theorem messagesOf_enter (orderly : Orderly store) (content : MessageContent) (id : ThreadId) :
    (store.enter content).messagesOf id =
      store.messagesOf id ++ if content.thread = id then [store.newMessage content] else [] := by
  obtain ⟨serverIds, eq⟩ := store.enter_eq content
  have values : (store.messages.put store.nextMessage (store.newMessage content)).values =
      store.messages.values ++ [store.newMessage content] := by
    simp [Table.values, Table.rows_put_of_above _ orderly.messages_below]
  rw [eq, messagesOf, values, List.filter_append, messagesOf]
  congr 1
  by_cases home : content.thread = id <;> simp [newMessage, home]

/-- The row that takes the place of an older one of its number. -/
def replacing (message other : Message) : Message := if other.id = message.id then message else other

theorem messagesOf_putMessage (orderly : Orderly store) {message old : Message}
    (found : store.messages.get? message.id = some old) (home : message.thread = old.thread)
    (id : ThreadId) :
    (store.putMessage message).messagesOf id = (store.messagesOf id).map (replacing message) := by
  have values : (store.putMessage message).messages.values =
      store.messages.values.map (replacing message) :=
    orderly.messages.values_put_of_get? found
  rw [messagesOf, values, List.filter_map, messagesOf]
  congr 1
  refine List.filter_congr fun other mem => ?_
  rw [Function.comp_apply, replacing]
  split
  case isTrue same =>
    have eq : other = old :=
      Option.some.inj ((orderly.mem_messages.1 mem).symm.trans (same ▸ found))
    rw [home, eq]
  case isFalse => rfl

theorem messagesOf_eraseMessage (orderly : Orderly store) (id : MessageId) (message : Message)
    (thread : ThreadId) :
    ({ store with messages := store.messages.erase id }.unindexMessage message).messagesOf thread =
      (store.messagesOf thread).filter (·.id ≠ id) := by
  have rows : ({ store with messages := store.messages.erase id }.unindexMessage message).messages =
      store.messages.erase id := by
    unfold unindexMessage
    split <;> rfl
  have values : (store.messages.erase id).values = store.messages.values.filter (·.id ≠ id) :=
    orderly.messages.values_erase id
  rw [messagesOf, rows, values, messagesOf, List.filter_filter, List.filter_filter]
  exact List.filter_congr fun other _ => Bool.and_comm _ _

end

end Store

end Messenger

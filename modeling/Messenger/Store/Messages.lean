/-
Messages in the store.

Numbers are given out in ascending order, so the order of the table is the order of arrival.
-/
import Messenger.Store.Query
import Messenger.Store.Threads

namespace Messenger

/-- The name in the index of a message that the server named. -/
def Message.serverKey? (message : Message) : Option ServerKey :=
  message.serverId.map fun name => ⟨message.direction, name⟩

namespace Store

/-- Enters a message under its server-given name, over an older one of the same name. -/
def indexMessage (store : Store) (message : Message) : Store :=
  match message.serverKey? with
  | none => store
  | some key => { store with serverIds := store.serverIds.put key message.id }

/-- Frees the server-given name of a message. -/
def unindexMessage (store : Store) (message : Message) : Store :=
  match message.serverKey? with
  | none => store
  | some key => { store with serverIds := store.serverIds.erase key }

def putMessage (store : Store) (message : Message) : Store :=
  { store with messages := store.messages.put message.id message }

/-- Stores a new message under the next number. -/
def insertMessage (store : Store) (content : MessageContent) : Committed Message :=
  let message : Message :=
    { content with id := store.nextMessage, statusChanged := content.timestamp }
  let store := { store with nextMessage := store.nextMessage.next }
  let (store, touched) := ((store.putMessage message).indexMessage message).recordInsert message
  ⟨message, store, touched ++ [.message message.id]⟩

def message? (store : Store) (id : MessageId) : Option Message := store.messages.get? id

def messageByServerId? (store : Store) (direction : Direction) (serverId : String) :
    Option Message :=
  (store.serverIds.get? ⟨direction, serverId⟩).bind store.messages.get?

/-- Overwrites the row of a message that exists. -/
def updateMessage (store : Store) (message : Message) : Except Failure (Committed Unit) :=
  if store.messages.has message.id then
    let (store, touched) := (store.putMessage message).recordUpdate message
    .ok ⟨(), store, touched ++ [.message message.id]⟩
  else .error (.messageNotFound message.id.val)

/-- Sets the state of those messages that exist, and gives their new rows in order. -/
def setStatuses (status : Status) (now : Int) : Store → List MessageId → Store × List Message
  | store, [] => (store, [])
  | store, id :: rest =>
    match store.message? id with
    | none => setStatuses status now store rest
    | some message =>
      let message := { message with status, statusChanged := now }
      let (store, updated) := setStatuses status now (store.putMessage message) rest
      (store, message :: updated)

/-- Renews the summaries that show these messages, and announces each message. -/
def announceUpdates : Store → List Message → Store × List Change
  | store, [] => (store, [])
  | store, message :: rest =>
    let (store, touched) := store.recordUpdate message
    let (store, changes) := announceUpdates store rest
    (store, touched ++ .message message.id :: changes)

/-- Sets the state of several messages; the answer is how many there were. -/
def updateStatuses (store : Store) (ids : List MessageId) (status : Status) (now : Int) :
    Committed Nat :=
  let (store, updated) := setStatuses status now store ids
  let (store, changes) := store.announceUpdates updated
  ⟨updated.length, store, changes⟩

/-- The messages that meet the conditions, ascending. -/
def queryMessages (store : Store) (query : Query) : List Message :=
  store.messages.values.filter fun message => query.admits message.toMessageContent

/-- Removes the rows of those messages that exist, and gives them in order. -/
def removeMessages : Store → List MessageId → Store × List Message
  | store, [] => (store, [])
  | store, id :: rest =>
    match store.message? id with
    | none => removeMessages store rest
    | some message =>
      let store := { store with messages := store.messages.erase id }
      let (store, removed) := removeMessages (store.unindexMessage message) rest
      (store, message :: removed)

/-- The threads of some messages, ascending and each once. -/
def threadsOf (messages : List Message) : List ThreadId :=
  let real := (messages.map (·.thread)).filter fun id => !id.isNone
  (real.foldl (fun table id => table.put id ()) (∅ : Table ThreadId Unit)).keys

/-- Deletes several messages; the answer is how many there were. -/
def deleteMessages (store : Store) (ids : List MessageId) : Committed Nat :=
  let (store, removed) := removeMessages store ids
  let threads := threadsOf removed
  ⟨removed.length, threads.foldl refreshThread store,
    removed.map (.message ·.id) ++ threads.map .thread⟩

end Store

end Messenger

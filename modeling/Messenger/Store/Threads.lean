/-
Threads in the store.

A thread row carries a count and a summary of its messages.  Writes to messages keep the two up to
date as they go (`recordInsert`, `recordUpdate`); only a deletion counts anew (`refreshThread`),
and it removes a thread with which nothing would be lost.
-/
import Messenger.Store.Basic

namespace Messenger.Store

/-- The row of a thread; the number that stands for no thread has none. -/
def thread? (store : Store) (id : ThreadId) : Option Thread :=
  if id.isNone then none else store.threads.get? id

def putThread (store : Store) (thread : Thread) : Store :=
  { store with threads := store.threads.put thread.id thread }

/-- Removes a thread and its entry in the index of people. -/
def removeThread (store : Store) (thread : Thread) : Store :=
  { store with
    threads := store.threads.erase thread.id
    threadOf := store.threadOf.erase thread.peer }

/-- Keeps the row of a thread, or removes it when nothing would be lost. -/
def settleThread (store : Store) (thread : Thread) : Store :=
  if thread.isDisposable then store.removeThread thread else store.putThread thread

/-- Counts a new message in its thread. -/
def recordInsert (store : Store) (message : Message) : Store × List Change :=
  match store.thread? message.thread with
  | none => (store, [])
  | some thread =>
    (store.putThread
      { thread with
        messageCount := thread.messageCount + 1
        lastMessage := some message.summary },
      [.thread thread.id])

/-- Renews the summary of a thread if it is the summary of this message. -/
def recordUpdate (store : Store) (message : Message) : Store × List Change :=
  match store.thread? message.thread with
  | none => (store, [])
  | some thread =>
    if thread.lastMessage.any (·.message = message.id) then
      (store.putThread { thread with lastMessage := some message.summary }, [.thread thread.id])
    else (store, [])

/-- The stored messages of a thread, oldest first. -/
def messagesOf (store : Store) (id : ThreadId) : List Message :=
  store.messages.values.filter (·.thread = id)

/-- Counts the messages of a thread anew. -/
def refreshThread (store : Store) (id : ThreadId) : Store :=
  match store.threads.get? id with
  | none => store
  | some thread =>
    let messages := store.messagesOf id
    store.settleThread
      { thread with
        messageCount := messages.length
        lastMessage := messages.getLast?.map Message.summary }

def threadForPeer? (store : Store) (peer : Identity) : Option Thread :=
  (store.threadOf.get? peer).bind store.threads.get?

/-- The thread of a person, made if there is none. -/
def ensureThread (store : Store) (peer : Identity) (isGroup : Bool) : Committed Thread :=
  match store.threadForPeer? peer with
  | some thread => ⟨thread, store, []⟩
  | none =>
    let thread : Thread := { id := store.nextThread, peer, isGroup }
    let store := { store with nextThread := store.nextThread.next }
    let store := store.putThread thread
    ⟨thread, { store with threadOf := store.threadOf.put peer thread.id }, [.thread thread.id]⟩

/-- Sets or clears the draft of a thread.  Nothing happens to a thread that does not exist. -/
def setDraft (store : Store) (id : ThreadId) (draft : Option String) : Committed Unit :=
  match store.threads.get? id with
  | none => ⟨(), store, []⟩
  | some thread => ⟨(), store.settleThread { thread with draft }, [.thread id]⟩

/-- Sets where the conversation request of a thread stands. -/
def setRequestStatus (store : Store) (id : ThreadId) (status : RequestStatus) : Committed Unit :=
  match store.threads.get? id with
  | none => ⟨(), store, []⟩
  | some thread => ⟨(), store.putThread { thread with requestStatus := status }, [.thread id]⟩

end Messenger.Store

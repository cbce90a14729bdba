/-
# Writes

The writes to the store as data, so that a theorem can speak of any sequence of them.  `perform`
is what a write leaves, its answer apart; a write that is refused leaves the store as it was
(`after`).  `Reached admits store` says that a sequence of writes, each admitted in the store in
which it is made, has led from the empty store to this one.
-/
import Messenger.Store.Contacts
import Messenger.Store.Groups
import Messenger.Store.Messages

namespace Messenger

def Committed.unit (committed : Committed α) : Committed Unit :=
  ⟨(), committed.store, committed.changes⟩

/-- A write to the store, as it is asked for. -/
inductive Write where
  | insertMessage (content : MessageContent)
  | updateMessage (message : Message)
  | updateStatuses (ids : List MessageId) (status : Status) (now : Int)
  | deleteMessages (ids : List MessageId)
  | ensureThread (peer : Identity) (isGroup : Bool)
  | setDraft (id : ThreadId) (draft : Option String)
  | setRequestStatus (id : ThreadId) (status : RequestStatus)
  | saveGroup (group : Group)
  | addAddressBookEntry (entry : AddressBookEntry)
  | beginResync
  | deleteSyncedContacts
  | applyContactBatch (ops : List ContactOp)
  | commitResync
  | markRegistered (identity : Identity)

namespace Write

def perform (store : Store) : Write → Except Failure (Committed Unit)
  | insertMessage content => .ok (store.insertMessage content).unit
  | updateMessage message => store.updateMessage message
  | updateStatuses ids status now => .ok (store.updateStatuses ids status now).unit
  | deleteMessages ids => .ok (store.deleteMessages ids).unit
  | ensureThread peer isGroup => .ok (store.ensureThread peer isGroup).unit
  | setDraft id draft => .ok (store.setDraft id draft)
  | setRequestStatus id status => .ok (store.setRequestStatus id status)
  | saveGroup group => .ok (store.saveGroup group)
  | addAddressBookEntry entry => .ok (store.addAddressBookEntry entry)
  | beginResync => .ok store.beginResync
  | deleteSyncedContacts => .ok store.deleteSyncedContacts.unit
  | applyContactBatch ops => .ok (store.applyContactBatch ops).unit
  | commitResync => .ok store.commitResync
  | markRegistered identity => .ok (store.markRegistered identity).unit

def after (store : Store) (write : Write) : Store :=
  match write.perform store with
  | .ok committed => committed.store
  | .error _ => store

theorem after_updateMessage {store : Store} (message : Message)
    (stored : store.messages.has message.id) : ∃ committed,
      store.updateMessage message = .ok committed ∧
        (updateMessage message).after store = committed.store := by
  have done : store.updateMessage message = .ok _ := if_pos stored
  exact ⟨_, done, by rw [after, perform, done]⟩

end Write

/-- The store with a row written over, if there is one to write. -/
def Store.revise (store : Store) : Option Message → Store
  | some row => (Write.updateMessage row).after store
  | none => store

/-- A sequence of admitted writes leads from the empty store to this one. -/
inductive Store.Reached (admits : Store → Write → Prop) : Store → Prop
  | empty : Reached admits ∅
  | write {store : Store} (write : Write) :
      Reached admits store → admits store write → Reached admits (write.after store)

namespace Store

theorem foldl_applyContactOp (store : Store) (ops : List ContactOp) : ∃ contacts profile,
    ops.foldl applyContactOp store = { store with contacts, profile } := by
  induction ops generalizing store with
  | nil => exact ⟨store.contacts, store.profile, rfl⟩
  | cons op rest ih =>
    obtain ⟨contacts, profile, eq⟩ := ih (store.applyContactOp op)
    refine ⟨contacts, profile, ?_⟩
    rw [List.foldl_cons, eq]
    cases op <;> rfl

theorem applyContactBatch_store (store : Store) (ops : List ContactOp) : ∃ contacts profile,
    (store.applyContactBatch ops).store = { store with contacts, profile } :=
  store.foldl_applyContactOp _

theorem markRegistered_store (store : Store) (identity : Identity) : ∃ contacts,
    (store.markRegistered identity).store = { store with contacts } := by
  unfold markRegistered
  split
  · exact ⟨store.contacts, rfl⟩
  · split
    · exact ⟨store.contacts, rfl⟩
    · exact ⟨_, rfl⟩

end Store

end Messenger

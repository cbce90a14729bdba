/-
The address book, the synced contacts and our own profile in the store.

A sync marks the store as under way, deletes the contacts of the sync before, writes its own and
clears the mark; a mark that is still set tells that the last sync did not come to its end.
-/
import Messenger.Store.Basic

namespace Messenger.Store

def addAddressBookEntry (store : Store) (entry : AddressBookEntry) : Committed Unit :=
  ⟨(), { store with addressBook := store.addressBook.put entry.lookupKey entry }, []⟩

/-- The address book in the order of its keys. -/
def syncCandidates (store : Store) : List AddressBookEntry := store.addressBook.values

def beginResync (store : Store) : Committed Unit := ⟨(), { store with resyncPending := true }, []⟩

def commitResync (store : Store) : Committed Unit := ⟨(), { store with resyncPending := false }, []⟩

/-- Deletes all contacts; the answer is how many there were. -/
def deleteSyncedContacts (store : Store) : Committed Nat :=
  let count := store.contacts.size
  ⟨count, { store with contacts := ∅ }, if count = 0 then [] else [.contacts]⟩

def applyContactOp (store : Store) : ContactOp → Store
  | .upsert contact => { store with contacts := store.contacts.put contact.identity contact }
  | .profile contact => { store with profile := some contact }

/-- Writes the rows of a batch that have a valid address, and counts the others. -/
def applyContactBatch (store : Store) (ops : List ContactOp) : Committed BatchOutcome :=
  let (valid, invalid) := ops.partition (·.contact.isValid)
  ⟨⟨valid.length, invalid.length⟩, valid.foldl applyContactOp store,
    if valid.isEmpty then [] else [.contacts]⟩

def contact? (store : Store) (identity : Identity) : Option Contact := store.contacts.get? identity

/-- Marks a contact as having an account; the answer is whether there is such a contact. -/
def markRegistered (store : Store) (identity : Identity) : Committed Bool :=
  match store.contact? identity with
  | none => ⟨false, store, []⟩
  | some contact =>
    if contact.registered then ⟨true, store, []⟩
    else
      ⟨true, { store with
        contacts := store.contacts.put identity { contact with registered := true } }, [.contacts]⟩

end Messenger.Store

/-
The ways to use the store, as values: what a host can make fail is named by them.
-/

namespace Messenger

/-- A way to use the store. -/
inductive StoreCall where
  | insertMessage
  | message
  | messageByServerId
  | updateMessage
  | updateStatuses
  | queryMessages
  | deleteMessages
  | ensureThread
  | thread
  | threadForPeer
  | threads
  | setDraft
  | setRequestStatus
  | saveGroup
  | group
  | groups
  | addAddressBookEntry
  | syncCandidates
  | beginResync
  | isResyncPending
  | deleteSyncedContacts
  | applyContactBatch
  | commitResync
  | contact
  | contacts
  | profile
  | markRegistered
deriving DecidableEq

namespace StoreCall

def all : List StoreCall :=
  [.insertMessage, .message, .messageByServerId, .updateMessage, .updateStatuses,
   .queryMessages, .deleteMessages, .ensureThread, .thread, .threadForPeer, .threads,
   .setDraft, .setRequestStatus, .saveGroup, .group, .groups, .addAddressBookEntry,
   .syncCandidates, .beginResync, .isResyncPending, .deleteSyncedContacts, .applyContactBatch,
   .commitResync, .contact, .contacts, .profile, .markRegistered]

def name : StoreCall → String
  | .insertMessage => "insert_message"
  | .message => "message"
  | .messageByServerId => "message_by_server_id"
  | .updateMessage => "update_message"
  | .updateStatuses => "update_statuses"
  | .queryMessages => "query_messages"
  | .deleteMessages => "delete_messages"
  | .ensureThread => "ensure_thread"
  | .thread => "thread"
  | .threadForPeer => "thread_for_peer"
  | .threads => "threads"
  | .setDraft => "set_draft"
  | .setRequestStatus => "set_request_status"
  | .saveGroup => "save_group"
  | .group => "group"
  | .groups => "groups"
  | .addAddressBookEntry => "add_address_book_entry"
  | .syncCandidates => "sync_candidates"
  | .beginResync => "begin_resync"
  | .isResyncPending => "is_resync_pending"
  | .deleteSyncedContacts => "delete_synced_contacts"
  | .applyContactBatch => "apply_contact_batch"
  | .commitResync => "commit_resync"
  | .contact => "contact"
  | .contacts => "contacts"
  | .profile => "profile"
  | .markRegistered => "mark_registered"

end StoreCall

end Messenger

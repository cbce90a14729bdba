/-
The store as a file.

The file is one JSON object with a member for every table.  The rows of a table stand in the order
of their keys; the two indices, whose keys are not part of the rows, are written as pairs.  This form is
our own, in place of the pages of a database.
-/
import Messenger.Json.Printer
import Messenger.Json.Reader
import Messenger.Json.Records
import Messenger.Store.Basic

namespace Messenger.Store

open Json (fields? asText? asBool? asList?)

/-- A table of rows that hold their keys. -/
def tableOf [Ord κ] [Std.TransOrd κ] [Std.LawfulEqOrd κ] (key : ν → κ) (rows : List ν) : Table κ ν :=
  rows.foldl (fun table row => table.put (key row) row) ∅

/-- A row of the index of server-given names. -/
def serverIdJson (row : ServerKey × MessageId) : Json :=
  .record [("direction", .str row.1.direction.label), ("server_id", .str row.1.serverId),
    ("message", row.2.toJson)]

def serverIdOfJson? (json : Json) : Option (ServerKey × MessageId) := do
  let f ← json.fields? ["direction", "server_id", "message"] false
  return (⟨← f.required? "direction" Direction.ofJson?, ← f.required? "server_id" asText?⟩,
    ← f.required? "message" MessageId.ofJson?)

/-- A row of the index of threads by person. -/
def threadOfJson (row : Identity × ThreadId) : Json :=
  .record [("peer", row.1.toJson), ("thread", row.2.toJson)]

def threadOfOfJson? (json : Json) : Option (Identity × ThreadId) := do
  let f ← json.fields? ["peer", "thread"] false
  return (← f.required? "peer" Identity.ofJson?, ← f.required? "thread" ThreadId.ofJson?)

def toJson (store : Store) : Json :=
  .record [("messages", .list Message.toJson store.messages.values),
    ("threads", .list Thread.toJson store.threads.values),
    ("groups", .list Group.toJson store.groups.values),
    ("contacts", .list Contact.toJson store.contacts.values),
    ("profile", .option Contact.toJson store.profile),
    ("address_book", .list AddressBookEntry.toJson store.addressBook.values),
    ("server_ids", .list serverIdJson store.serverIds.rows),
    ("thread_of", .list threadOfJson store.threadOf.rows),
    ("next_message", store.nextMessage.toJson), ("next_thread", store.nextThread.toJson),
    ("resync_pending", .bool store.resyncPending)]

/-- The names of the members of the file. -/
def memberNames : List String :=
  ["messages", "threads", "groups", "contacts", "profile", "address_book", "server_ids",
    "thread_of", "next_message", "next_thread", "resync_pending"]

def ofJson? (json : Json) : Option Store := do
  let f ← json.fields? memberNames false
  let messages ← f.required? "messages" (asList? Message.ofJson?)
  let threads ← f.required? "threads" (asList? Thread.ofJson?)
  let groups ← f.required? "groups" (asList? Group.ofJson?)
  let contacts ← f.required? "contacts" (asList? Contact.ofJson?)
  let addressBook ← f.required? "address_book" (asList? AddressBookEntry.ofJson?)
  let serverIds ← f.required? "server_ids" (asList? serverIdOfJson?)
  let threadOf ← f.required? "thread_of" (asList? threadOfOfJson?)
  return {
    messages := tableOf (·.id) messages
    threads := tableOf (·.id) threads
    groups := tableOf (·.id) groups
    contacts := tableOf (·.identity) contacts
    profile := ← f.optional? "profile" Contact.ofJson?
    addressBook := tableOf (·.lookupKey) addressBook
    serverIds := serverIds.foldl (fun table row => table.put row.1 row.2) ∅
    threadOf := threadOf.foldl (fun table row => table.put row.1 row.2) ∅
    nextMessage := ← f.required? "next_message" MessageId.ofJson?
    nextThread := ← f.required? "next_thread" ThreadId.ofJson?
    resyncPending := ← f.required? "resync_pending" asBool? }

/-- The content of the file of a store. -/
def fileText (store : Store) : String := store.toJson.compact

/-- The store of a file; there is none yet if there is no file. -/
def ofFile? : Option String → Option Store
  | none => some ∅
  | some text => (Json.parse? text).bind ofJson?

end Messenger.Store

/-
# Writes, edit by edit

A write may touch more than the row that it is about: a new message is counted in its thread, and a
deletion may remove several threads.  An `Edit` is one row put or taken away, `make` is what it does,
`Fits` is what the write has made sure of, and `changes` is what an observer has to be told of it.

    plain edits    what no index knows of: messages, the summary of a thread, contacts   (`isPlain`)
    answer         where the conversation request of a thread stands
    found, close   a thread and its place in the index of people
    group          the row of a group

Every write is a sequence of the edits that it `Takes`, and what it announces is at least what its
edits change (`Write.edits`).  So what is to be shown of all writes has to be shown of the edits only.
-/
import Messenger.Proofs.Store.Rows
import Messenger.Proofs.Store.Writes
import Mathlib.Logic.Relation

namespace Messenger

/-- A row put or taken away, or a change to what nobody observes. -/
inductive Edit where
  | aside (serverIds : Table ServerKey MessageId) (nextMessage : MessageId)
      (addressBook : Table String AddressBookEntry) (resyncPending : Bool)
  | message (row : Message)
  | strike (id : MessageId)
  | revise (row : Thread)
  | answer (row : Thread) (status : RequestStatus)
  | close (row : Thread)
  | found (peer : Identity) (isGroup : Bool)
  | group (row : Group)
  | people (contacts : Table Identity Contact) (profile : Option Contact)

namespace Edit

/-- The store after an edit. -/
def make (store : Store) : Edit → Store
  | aside serverIds nextMessage addressBook resyncPending =>
    { store with serverIds, nextMessage, addressBook, resyncPending }
  | message row => store.putMessage row
  | strike id => { store with messages := store.messages.erase id }
  | revise row => store.putThread row
  | answer row status => store.putThread { row with requestStatus := status }
  | close row => store.removeThread row
  | found peer isGroup => store.found peer isGroup
  | group row => (store.saveGroup row).store
  | people contacts profile => { store with contacts, profile }

/-- What has been made sure of before an edit. -/
def Fits (store : Store) : Edit → Prop
  | revise row => ∃ old, store.threads.get? row.id = some old ∧ row.peer = old.peer ∧
    row.requestStatus = old.requestStatus
  | answer row _ => store.threads.get? row.id = some row
  | close row => ∃ old, store.threads.get? row.id = some old ∧ row.peer = old.peer
  | found peer _ => store.threadForPeer? peer = none
  | _ => True

/-- What an observer has to be told. -/
def changes (store : Store) : Edit → List Change
  | aside .. => []
  | message row => [.message row.id]
  | strike id => [.message id]
  | revise row | answer row _ | close row => [.thread row.id]
  | found _ _ => [.thread store.nextThread]
  | group row => [.group row.id]
  | people _ _ => [.contacts]

/-- An edit of which neither an index nor another row knows. -/
def isPlain : Edit → Bool
  | aside .. | message _ | strike _ | revise _ | people _ _ => true
  | _ => false

/-- An edit that may remove a thread. -/
def Settles (edit : Edit) : Prop := edit.isPlain ∨ ∃ row, edit = .close row

/-- One edit of a kind, of which an observer is told. -/
inductive Step (kind : Edit → Prop) (told : List Change) (store : Store) : Store → Prop
  | mk (edit : Edit) (allowed : kind edit) (fits : edit.Fits store)
      (announced : ∀ change ∈ edit.changes store, change ∈ told) : Step kind told store (edit.make store)

end Edit

/-- Edits of a kind, one after the other, of which an observer is told. -/
abbrev Edits (kind : Edit → Prop) (told : List Change) : Store → Store → Prop :=
  Relation.ReflTransGen (Edit.Step kind told)

/-- Messages and threads stand under their own numbers. -/
structure Store.Filed (store : Store) : Prop where
  messages : store.messages.KeyedBy (·.id)
  threads : store.threads.KeyedBy (·.id)

namespace Store.Filed

variable {store : Store}

theorem empty : Filed ∅ := ⟨.empty, .empty⟩

theorem make (filed : store.Filed) (edit : Edit) : (edit.make store).Filed := by
  cases edit with
  | message row => exact ⟨filed.messages.put rfl, filed.threads⟩
  | strike id => exact ⟨filed.messages.erase id, filed.threads⟩
  | revise row => exact ⟨filed.messages, filed.threads.put rfl⟩
  | answer row status => exact ⟨filed.messages, filed.threads.put rfl⟩
  | close row => exact ⟨filed.messages, filed.threads.erase row.id⟩
  | found peer isGroup => exact ⟨filed.messages, filed.threads.put rfl⟩
  | aside | group | people => exact ⟨filed.messages, filed.threads⟩

end Store.Filed

namespace Edits

variable {kind : Edit → Prop} {told : List Change} {store next : Store}

/-- A single edit. -/
theorem one (edit : Edit) (allowed : kind edit) (fits : edit.Fits store)
    (announced : ∀ change ∈ edit.changes store, change ∈ told) :
    Edits kind told store (edit.make store) :=
  .single ⟨edit, allowed, fits, announced⟩

/-- More kinds of edits may be allowed, and an observer may be told more. -/
theorem mono {wider : Edit → Prop} {more : List Change} (edits : Edits kind told store next)
    (kinds : ∀ edit, kind edit → wider edit) (tells : ∀ change ∈ told, change ∈ more) :
    Edits wider more store next := by
  refine Relation.ReflTransGen.mono ?_ _ _ edits
  rintro _ _ ⟨edit, allowed, fits, announced⟩
  exact ⟨edit, kinds edit allowed, fits, fun change mem => tells change (announced change mem)⟩

theorem keeps {holds : Store → Prop} (edits : Edits kind told store next) (start : holds store)
    (step : ∀ store edit, holds store → kind edit → edit.Fits store → holds (edit.make store)) :
    holds next := by
  induction edits with
  | refl => exact start
  | tail _ last ih =>
    obtain ⟨edit, allowed, fits, -⟩ := last
    exact step _ edit ih allowed fits

theorem filed (edits : Edits kind told store next) (filed : store.Filed) : next.Filed :=
  edits.keeps filed fun _ edit filed _ _ => filed.make edit

/-- Edits that are made after others, if what either change is told. -/
theorem both {middle : Store} {first second : List Change} (one : Edits kind first store middle)
    (two : Edits kind second middle next)
    (tells : ∀ change, change ∈ first ∨ change ∈ second → change ∈ told) : Edits kind told store next :=
  Relation.ReflTransGen.trans (one.mono (fun _ h => h) fun change mem => tells change (Or.inl mem))
    (two.mono (fun _ h => h) fun change mem => tells change (Or.inr mem))

theorem aside (serverIds : Table ServerKey MessageId) (nextMessage : MessageId)
    (addressBook : Table String AddressBookEntry) (resyncPending : Bool) :
    Edits (·.isPlain) told store { store with serverIds, nextMessage, addressBook, resyncPending } :=
  one (.aside serverIds nextMessage addressBook resyncPending) rfl trivial fun _ mem => nomatch mem

end Edits

namespace Store

open Edit (isPlain Settles)

variable {store : Store}

/-! ## Writes to messages -/

theorem get?_of_thread? {id : ThreadId} {thread : Thread} (found : store.thread? id = some thread) :
    store.threads.get? id = some thread := by
  unfold thread? at found
  split at found
  · cases found
  · exact found

theorem revise_edits (filed : store.Filed) {id : ThreadId} {old row : Thread}
    (found : store.threads.get? id = some old)
    (same : row.id = old.id ∧ row.peer = old.peer ∧ row.requestStatus = old.requestStatus) :
    Edits (·.isPlain) [.thread old.id] store (store.putThread row) := by
  have own : old.id = id := filed.threads.key_eq found
  rw [← same.1] at own ⊢
  exact .one (.revise row) rfl ⟨old, own ▸ found, same.2⟩ fun _ mem => mem

theorem recordInsert_edits (filed : store.Filed) (message : Message) :
    Edits (·.isPlain) (store.recordInsert message).2 store (store.recordInsert message).1 := by
  unfold recordInsert
  cases found : store.thread? message.thread with
  | none => exact .refl
  | some thread =>
    dsimp only
    exact revise_edits filed (get?_of_thread? found) ⟨rfl, rfl, rfl⟩

theorem recordUpdate_edits (filed : store.Filed) (message : Message) :
    Edits (·.isPlain) (store.recordUpdate message).2 store (store.recordUpdate message).1 := by
  unfold recordUpdate
  cases found : store.thread? message.thread with
  | none => exact .refl
  | some thread =>
    dsimp only
    split
    · dsimp only
      exact revise_edits filed (get?_of_thread? found) ⟨rfl, rfl, rfl⟩
    · exact .refl

theorem putMessage_edits (row : Message) {told : List Change} (mem : .message row.id ∈ told) :
    Edits (·.isPlain) told store (store.putMessage row) := by
  refine .one (.message row) rfl trivial fun change changed => ?_
  rw [List.mem_singleton.1 changed]
  exact mem

theorem insertMessage_edits (filed : store.Filed) (content : MessageContent) :
    Edits (·.isPlain) (store.insertMessage content).changes store
      (store.insertMessage content).store := by
  obtain ⟨serverIds, eq⟩ := store.enter_eq content
  have entered : Edits (·.isPlain) [.message (store.newMessage content).id] store
      (store.enter content) := by
    rw [eq]
    exact (putMessage_edits _ List.mem_cons_self).trans
      (Edits.aside serverIds store.nextMessage.next _ _)
  exact entered.both (recordInsert_edits (entered.filed filed) (store.newMessage content))
    fun _ mem => List.mem_append.2 mem.symm

theorem updateMessage_edits (filed : store.Filed) {message : Message} {committed : Committed Unit}
    (done : store.updateMessage message = .ok committed) :
    Edits (·.isPlain) committed.changes store committed.store := by
  unfold updateMessage at done
  split at done
  case isFalse => cases done
  case isTrue =>
    cases done
    have put : Edits (·.isPlain) [.message message.id] store (store.putMessage message) :=
      putMessage_edits message List.mem_cons_self
    exact put.both (recordUpdate_edits (put.filed filed) message)
      fun _ mem => List.mem_append.2 mem.symm

/-! ### New states -/

theorem setStatuses_edits (status : Status) (now : Int) (ids : List MessageId) (store : Store) :
    Edits (·.isPlain) ((setStatuses status now store ids).2.map fun message => .message message.id)
      store (setStatuses status now store ids).1 := by
  induction ids generalizing store with
  | nil => exact .refl
  | cons id rest ih =>
    unfold setStatuses
    cases store.message? id with
    | none => exact ih store
    | some message =>
      refine Relation.ReflTransGen.trans (putMessage_edits _ List.mem_cons_self) ?_
      exact (ih _).mono (fun _ h => h) fun change mem => List.mem_cons_of_mem _ mem

theorem announceUpdates_edits (filed : store.Filed) (updated : List Message) :
    Edits (·.isPlain) (store.announceUpdates updated).2 store (store.announceUpdates updated).1 := by
  induction updated generalizing store with
  | nil => exact .refl
  | cons message rest ih =>
    have first := recordUpdate_edits filed message
    exact first.both (ih (first.filed filed))
      fun _ mem => List.mem_append.2 (mem.imp_right (List.mem_cons_of_mem _))

theorem message_mem_announceUpdates {message : Message} {updated : List Message}
    (mem : message ∈ updated) : .message message.id ∈ (store.announceUpdates updated).2 := by
  induction updated generalizing store with
  | nil => cases mem
  | cons first rest ih =>
    refine List.mem_append_right _ (List.mem_cons.2 ?_)
    rcases List.mem_cons.1 mem with rfl | mem
    · exact Or.inl rfl
    · exact Or.inr (ih mem)

theorem updateStatuses_edits (filed : store.Filed) (ids : List MessageId) (status : Status)
    (now : Int) :
    Edits (·.isPlain) (store.updateStatuses ids status now).changes store
      (store.updateStatuses ids status now).store := by
  have set := setStatuses_edits status now ids store
  refine set.both (announceUpdates_edits (set.filed filed) _) ?_
  rintro change (mem | mem)
  · obtain ⟨message, updated, rfl⟩ := List.mem_map.1 mem
    exact message_mem_announceUpdates updated
  · exact mem

/-! ### Deletions -/

theorem unindexMessage_edits (message : Message) {told : List Change} :
    Edits (·.isPlain) told store (store.unindexMessage message) := by
  unfold unindexMessage
  split
  · exact .refl
  · exact .aside _ store.nextMessage store.addressBook store.resyncPending

theorem removeMessages_edits (filed : store.Filed) (ids : List MessageId) :
    Edits (·.isPlain) ((store.removeMessages ids).2.map fun message => .message message.id) store
      (store.removeMessages ids).1 := by
  induction ids generalizing store with
  | nil => exact .refl
  | cons id rest ih =>
    unfold removeMessages
    cases found : store.message? id with
    | none => exact ih filed
    | some message =>
      have own : message.id = id := filed.messages.key_eq found
      have struck : Edits (·.isPlain) [.message message.id] store
          ({ store with messages := store.messages.erase id }.unindexMessage message) := by
        have erased : Edits (·.isPlain) [.message message.id] store
            { store with messages := store.messages.erase id } :=
          Edits.one (.strike id) rfl trivial fun change mem => own.symm ▸ mem
        exact erased.trans (unindexMessage_edits message)
      exact struck.both (ih (struck.filed filed))
        fun _ mem => List.mem_cons.2 (mem.imp_left List.mem_singleton.1)

theorem stored_of_removed {ids : List MessageId} {message : Message}
    (mem : message ∈ (store.removeMessages ids).2) :
    ∃ id ∈ ids, store.messages.get? id = some message := by
  induction ids generalizing store with
  | nil => cases mem
  | cons id rest ih =>
    unfold removeMessages at mem
    cases found : store.message? id with
    | none =>
      rw [found] at mem
      obtain ⟨other, listed, stored⟩ := ih mem
      exact ⟨other, List.mem_cons_of_mem _ listed, stored⟩
    | some row =>
      rw [found] at mem
      rcases List.mem_cons.1 mem with rfl | mem
      · exact ⟨id, List.mem_cons_self, found⟩
      · obtain ⟨other, listed, stored⟩ := ih mem
        have kept : ({ store with messages := store.messages.erase id }.unindexMessage row).messages =
            store.messages.erase id := by
          unfold unindexMessage
          split <;> rfl
        rw [kept, Table.get?_erase] at stored
        split at stored
        · cases stored
        · exact ⟨other, List.mem_cons_of_mem _ listed, stored⟩

/-- A thread is kept with another draft and another summary, or it goes. -/
theorem settleThread_edits (filed : store.Filed) {id : ThreadId} {old row : Thread}
    (found : store.threads.get? id = some old)
    (same : row.id = old.id ∧ row.peer = old.peer ∧ row.requestStatus = old.requestStatus) :
    Edits Settles [.thread id] store (store.settleThread row) := by
  have own : row.id = id := same.1.trans (filed.threads.key_eq found)
  subst own
  unfold settleThread
  split
  · exact .one (.close row) (Or.inr ⟨row, rfl⟩) ⟨old, found, same.2.1⟩ fun _ mem => mem
  · exact .one (.revise row) (Or.inl rfl) ⟨old, found, same.2⟩ fun _ mem => mem

theorem refreshThread_edits (filed : store.Filed) (id : ThreadId) :
    Edits Settles [.thread id] store (store.refreshThread id) := by
  unfold refreshThread
  cases found : store.threads.get? id with
  | none => exact .refl
  | some thread => exact settleThread_edits filed found ⟨rfl, rfl, rfl⟩

theorem refreshThreads_edits (filed : store.Filed) (ids : List ThreadId) :
    Edits Settles (ids.map .thread) store (ids.foldl refreshThread store) := by
  induction ids generalizing store with
  | nil => exact .refl
  | cons id rest ih =>
    have first := refreshThread_edits filed id
    exact first.both (ih (first.filed filed))
      fun _ mem => List.mem_cons.2 (mem.imp_left List.mem_singleton.1)

theorem deleteMessages_edits (filed : store.Filed) (ids : List MessageId) :
    Edits Settles (store.deleteMessages ids).changes store (store.deleteMessages ids).store := by
  have removed := removeMessages_edits filed ids
  exact (removed.mono (fun _ plain => Or.inl plain) fun _ h => h).both
    (refreshThreads_edits (removed.filed filed) _) fun _ mem => List.mem_append.2 mem

theorem threadsOf_eq_nil_of_threadless {ids : List MessageId}
    (threadless : ∀ id ∈ ids, ∀ message, store.messages.get? id = some message →
      message.thread.isNone) : threadsOf (store.removeMessages ids).2 = [] := by
  have real : ((store.removeMessages ids).2.map (·.thread)).filter (fun id => !id.isNone) = [] := by
    refine List.filter_eq_nil_iff.2 fun id mem => ?_
    obtain ⟨message, removed, rfl⟩ := List.mem_map.1 mem
    obtain ⟨id, listed, stored⟩ := stored_of_removed removed
    simp [threadless id listed message stored]
  rw [threadsOf, real]
  rfl

/-- Messages outside any thread are deleted without a look at the threads. -/
theorem deleteMessages_edits_of_threadless (filed : store.Filed) {ids : List MessageId}
    (threadless : ∀ id ∈ ids, ∀ message, store.messages.get? id = some message →
      message.thread.isNone) :
    Edits (·.isPlain) (store.deleteMessages ids).changes store (store.deleteMessages ids).store := by
  have removed := removeMessages_edits filed ids
  show Edits _ (_ ++ (threadsOf (store.removeMessages ids).2).map Change.thread) store
    ((threadsOf (store.removeMessages ids).2).foldl refreshThread (store.removeMessages ids).1)
  rw [threadsOf_eq_nil_of_threadless threadless]
  exact removed.mono (fun _ h => h) fun change mem => List.mem_append_left _ mem

/-! ## Writes to threads -/

theorem ensureThread_edits (store : Store) (peer : Identity) (isGroup : Bool) :
    Edits (· = .found peer isGroup) (store.ensureThread peer isGroup).changes store
      (store.ensureThread peer isGroup).store := by
  unfold ensureThread
  cases unknown : store.threadForPeer? peer with
  | some thread => exact .refl
  | none => exact .one (.found peer isGroup) rfl unknown fun _ mem => mem

theorem setDraft_edits (filed : store.Filed) (id : ThreadId) (draft : Option String) :
    Edits Settles (store.setDraft id draft).changes store (store.setDraft id draft).store := by
  unfold setDraft
  cases found : store.threads.get? id with
  | none => exact .refl
  | some thread => exact settleThread_edits filed found ⟨rfl, rfl, rfl⟩

theorem setRequestStatus_edits (filed : store.Filed) (id : ThreadId) (status : RequestStatus) :
    Edits (fun edit => ∃ row, row.id = id ∧ edit = .answer row status)
      (store.setRequestStatus id status).changes store (store.setRequestStatus id status).store := by
  unfold setRequestStatus
  cases found : store.threads.get? id with
  | none => exact .refl
  | some thread =>
    have own : thread.id = id := filed.threads.key_eq found
    subst own
    exact .one (.answer thread status) ⟨thread, rfl, rfl⟩ found fun _ mem => mem

/-! ## Writes to contacts -/

theorem people_edits (contacts : Table Identity Contact) (profile : Option Contact) :
    Edits (·.isPlain) [.contacts] store { store with contacts, profile } :=
  .one (.people contacts profile) rfl trivial fun _ mem => mem

theorem deleteSyncedContacts_edits (store : Store) :
    Edits (·.isPlain) store.deleteSyncedContacts.changes store store.deleteSyncedContacts.store := by
  unfold deleteSyncedContacts
  dsimp only
  split
  case isTrue none =>
    -- There is one table without rows.
    have empty : store.contacts = ∅ := by
      obtain ⟨messages, threads, groups, ⟨rows, ascending⟩⟩ := store
      obtain rfl : rows = [] := List.eq_nil_of_length_eq_zero none
      rfl
    rw [← empty]
  case isFalse => exact people_edits ∅ store.profile

theorem applyContactBatch_edits (store : Store) (ops : List ContactOp) :
    Edits (·.isPlain) (store.applyContactBatch ops).changes store
      (store.applyContactBatch ops).store := by
  unfold applyContactBatch
  generalize ops.partition (·.contact.isValid) = parts
  obtain ⟨valid, invalid⟩ := parts
  cases valid with
  | nil => exact .refl
  | cons first rest =>
    obtain ⟨contacts, profile, eq⟩ := foldl_applyContactOp store (first :: rest)
    dsimp only
    rw [eq]
    exact people_edits contacts profile

theorem markRegistered_edits (store : Store) (identity : Identity) :
    Edits (·.isPlain) (store.markRegistered identity).changes store
      (store.markRegistered identity).store := by
  unfold markRegistered
  split
  · exact .refl
  · split
    · exact .refl
    · exact people_edits _ store.profile

end Store

/-! ## All writes -/

/-- The edits of which a write is made. -/
def Write.Takes : Write → Edit → Prop
  | setRequestStatus id status, edit => ∃ row, row.id = id ∧ edit = .answer row status
  | ensureThread peer isGroup, edit => edit = .found peer isGroup
  | saveGroup group, edit => edit = .group group
  | deleteMessages _, edit | setDraft _ _, edit => edit.Settles
  | _, edit => edit.isPlain

theorem Write.edits_aside {told : List Change} {store next : Store}
    (same : next = { store with
      addressBook := next.addressBook, resyncPending := next.resyncPending }) :
    Edits (·.isPlain) told store next := by
  rw [same]
  exact .aside store.serverIds store.nextMessage _ _

/-- Every write is a sequence of the edits that it takes, and announces what they change. -/
theorem Write.edits {store : Store} (filed : store.Filed) {write : Write} {committed : Committed Unit}
    (done : write.perform store = .ok committed) :
    Edits write.Takes committed.changes store committed.store := by
  cases write with
  | updateMessage message => exact Store.updateMessage_edits filed done
  | insertMessage content => cases done; exact Store.insertMessage_edits filed content
  | updateStatuses ids status now => cases done; exact Store.updateStatuses_edits filed ids status now
  | deleteMessages ids => cases done; exact Store.deleteMessages_edits filed ids
  | ensureThread peer isGroup => cases done; exact store.ensureThread_edits peer isGroup
  | setDraft id draft => cases done; exact Store.setDraft_edits filed id draft
  | setRequestStatus id status => cases done; exact Store.setRequestStatus_edits filed id status
  | saveGroup group => cases done; exact .one (.group group) rfl trivial fun _ mem => mem
  | addAddressBookEntry entry => cases done; exact edits_aside rfl
  | beginResync => cases done; exact edits_aside rfl
  | commitResync => cases done; exact edits_aside rfl
  | deleteSyncedContacts => cases done; exact store.deleteSyncedContacts_edits
  | applyContactBatch ops => cases done; exact store.applyContactBatch_edits ops
  | markRegistered identity => cases done; exact store.markRegistered_edits identity

theorem Store.Filed.after {store : Store} (filed : store.Filed) (write : Write) :
    (write.after store).Filed := by
  unfold Write.after
  cases done : write.perform store with
  | error failure => exact filed
  | ok committed => exact (write.edits filed done).filed filed

end Messenger

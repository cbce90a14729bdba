/-
# What is taken out of a thread

The person at the device sets drafts and deletes messages, and after either there may be nothing left
in a thread.  The thread goes then, and its row with it.  `Clearing` is what may be done, and it
`Empties` a thread

| | if |
| :-- | :-- |
| a draft that is set | it is blank, and the thread has no message |
| messages that are deleted | they are all that the thread has, at least one, and its draft is blank |

A thread goes exactly when it is emptied (`gone_iff_empties`).  As long as it stays, it is the thread
of the same person, and the conversation request stands as it did (`inherits_clearing`).
-/
import Messenger.Proofs.Store.Peers
import Messenger.Proofs.Store.Summaries

namespace Messenger

inductive Clearing where
  | setDraft (id : ThreadId) (draft : Option String)
  | deleteMessages (ids : List MessageId)

namespace Clearing

def write : Clearing → Write
  | setDraft id draft => .setDraft id draft
  | deleteMessages ids => .deleteMessages ids

/-- Nothing is left in the thread. -/
def Empties (store : Store) (id : ThreadId) : Clearing → Prop
  | setDraft other draft => other = id ∧ store.messagesOf id = [] ∧ draft.all (· = "")
  | deleteMessages ids => store.messagesOf id ≠ [] ∧
      (∀ message ∈ store.messagesOf id, message.id ∈ ids) ∧
      ∃ row, store.threads.get? id = some row ∧ row.draft.all (· = "")

end Clearing

namespace Store

variable {store : Store}

/-! ## Messages that are removed -/

theorem messages_unindexMessage (store : Store) (message : Message) :
    (store.unindexMessage message).messages = store.messages := by
  unfold unindexMessage
  split <;> rfl

theorem get?_removeMessages (store : Store) (ids : List MessageId) (id : MessageId) :
    (removeMessages store ids).1.messages.get? id =
      if id ∈ ids then none else store.messages.get? id := by
  induction ids generalizing store with
  | nil => rfl
  | cons first rest ih =>
    unfold removeMessages
    cases stored : store.message? first with
    | none =>
      have absent : store.messages.get? first = none := stored
      refine (ih store).trans ?_
      by_cases same : id = first
      · simp [same, absent]
      · simp [same]
    | some message =>
      refine (ih _).trans ?_
      rw [messages_unindexMessage, Table.get?_erase]
      by_cases same : id = first <;> simp [same]

theorem values_removeMessages (keyed : store.messages.KeyedBy (·.id)) (ids : List MessageId) :
    (removeMessages store ids).1.messages.KeyedBy (·.id) ∧
      (removeMessages store ids).1.messages.values =
        store.messages.values.filter fun message => message.id ∉ ids := by
  induction ids generalizing store with
  | nil => exact ⟨keyed, (List.filter_eq_self.2 fun _ _ => decide_eq_true List.not_mem_nil).symm⟩
  | cons first rest ih =>
    unfold removeMessages
    cases stored : store.message? first with
    | none =>
      obtain ⟨left, values⟩ := ih keyed
      refine ⟨left, values.trans (List.filter_congr fun message mem => ?_)⟩
      have other : message.id ≠ first := by
        rintro rfl
        cases stored.symm.trans (keyed.mem_values_iff.1 mem)
      simp [other]
    | some message =>
      have erased : ({ store with messages := store.messages.erase first }.unindexMessage
          message).messages = store.messages.erase first := messages_unindexMessage _ _
      obtain ⟨left, values⟩ := ih (erased ▸ keyed.erase first)
      refine ⟨left, values.trans ?_⟩
      rw [erased, keyed.values_erase, List.filter_filter]
      refine List.filter_congr fun message _ => ?_
      by_cases same : message.id = first <;> simp [same]

theorem removeMessages_store (store : Store) (ids : List MessageId) : ∃ messages serverIds,
    (removeMessages store ids).1 = { store with messages, serverIds } := by
  induction ids generalizing store with
  | nil => exact ⟨_, _, rfl⟩
  | cons first rest ih =>
    unfold removeMessages
    cases store.message? first with
    | none => exact ih store
    | some message =>
      have unindexed (store : Store) : ∃ serverIds,
          store.unindexMessage message = { store with serverIds } := by
        unfold unindexMessage
        split
        · exact ⟨_, rfl⟩
        · exact ⟨_, rfl⟩
      obtain ⟨names, eq⟩ := unindexed { store with messages := store.messages.erase first }
      obtain ⟨messages, serverIds, eq'⟩ :=
        ih ({ store with messages := store.messages.erase first }.unindexMessage message)
      refine ⟨messages, serverIds, eq'.trans ?_⟩
      rw [eq]

theorem threads_removeMessages (store : Store) (ids : List MessageId) :
    (removeMessages store ids).1.threads = store.threads := by
  obtain ⟨messages, serverIds, eq⟩ := store.removeMessages_store ids
  rw [eq]

/-- What is listed and stored is removed. -/
theorem mem_removed {ids : List MessageId} {message : Message} :
    message ∈ (removeMessages store ids).2 ↔
      ∃ id ∈ ids, store.messages.get? id = some message := by
  refine ⟨stored_of_removed, ?_⟩
  induction ids generalizing store with
  | nil => exact fun ⟨_, mem, _⟩ => nomatch mem
  | cons first rest ih =>
    rintro ⟨id, mem, stored⟩
    unfold removeMessages
    by_cases same : id = first
    · subst same
      have found : store.message? id = some message := stored
      rw [found]
      exact List.mem_cons_self
    · have listed := (List.mem_cons.1 mem).resolve_left same
      cases found : store.message? first with
      | none => exact ih ⟨id, listed, stored⟩
      | some other =>
        refine List.mem_cons_of_mem _ (ih ⟨id, listed, ?_⟩)
        rw [messages_unindexMessage, Table.get?_erase, if_neg same]
        exact stored

theorem get?_serverIds_removeMessages {ids : List MessageId} {key : ServerKey}
    (free : ∀ message ∈ (removeMessages store ids).2, message.serverKey? ≠ some key) :
    (removeMessages store ids).1.serverIds.get? key = store.serverIds.get? key := by
  induction ids generalizing store with
  | nil => rfl
  | cons first rest ih =>
    unfold removeMessages at free ⊢
    cases stored : store.message? first with
    | none =>
      rw [stored] at free
      exact ih free
    | some message =>
      rw [stored] at free
      obtain ⟨own, others⟩ := List.forall_mem_cons.1 free
      refine (ih others).trans ?_
      unfold unindexMessage
      cases named : message.serverKey? with
      | none => rfl
      | some name =>
        refine (Table.get?_erase ..).trans (if_neg ?_)
        rintro rfl
        exact own named

theorem deleteMessages_of_threadless (threadless : ∀ id ∈ ids, ∀ message,
      store.messages.get? id = some message → message.thread.isNone) :
    (store.deleteMessages ids).store = (removeMessages store ids).1 := by
  show (threadsOf (removeMessages store ids).2).foldl refreshThread _ = _
  rw [threadsOf_eq_nil_of_threadless threadless]
  rfl

theorem messagesOf_removeMessages_eq_nil (tidy : store.Tidy) (ids : List MessageId) (id : ThreadId) :
    (removeMessages store ids).1.messagesOf id = [] ↔
      ∀ message ∈ store.messagesOf id, message.id ∈ ids := by
  have after : Orderly (removeMessages store ids).1 := (TidyBut.removeMessages tidy ids).toOrderly
  rw [List.eq_nil_iff_forall_not_mem]
  refine forall_congr' fun message => ?_
  rw [after.mem_messagesOf, tidy.mem_messagesOf, get?_removeMessages]
  by_cases listed : message.id ∈ ids <;> simp [listed]

/-! ## Threads that are counted anew -/

theorem get?_settleThread (store : Store) (row : Thread) (id : ThreadId) :
    (store.settleThread row).threads.get? id =
      if id = row.id then if row.isDisposable then none else some row else store.threads.get? id := by
  unfold settleThread
  cases row.isDisposable with
  | true => exact Table.get?_erase ..
  | false => exact Table.get?_put ..

theorem messages_settleThread (store : Store) (row : Thread) :
    (store.settleThread row).messages = store.messages := by
  unfold settleThread
  split <;> rfl

theorem messages_refreshThread (store : Store) (id : ThreadId) :
    (store.refreshThread id).messages = store.messages := by
  unfold refreshThread
  cases store.threads.get? id with
  | none => rfl
  | some row => exact messages_settleThread store _

theorem messages_refreshThreads (store : Store) (ids : List ThreadId) :
    (ids.foldl refreshThread store).messages = store.messages := by
  induction ids generalizing store with
  | nil => rfl
  | cons first rest ih => exact (ih _).trans (messages_refreshThread store first)

/-- The row of a thread, counted anew. -/
def recounted (store : Store) (row : Thread) : Thread :=
  { row with
    messageCount := (store.messagesOf row.id).length
    lastMessage := (store.messagesOf row.id).getLast?.map Message.summary }

theorem isDisposable_recounted (store : Store) (row : Thread) :
    (store.recounted row).isDisposable ↔ store.messagesOf row.id = [] ∧ row.draft.all (· = "") := by
  simp [Thread.isDisposable, recounted]

theorem get?_refreshThread (filed : store.Filed) (first id : ThreadId) :
    (store.refreshThread first).threads.get? id =
      if id = first then (store.threads.get? id).bind fun row =>
        if (store.recounted row).isDisposable then none else some (store.recounted row)
      else store.threads.get? id := by
  unfold refreshThread
  cases found : store.threads.get? first with
  | none =>
    dsimp only
    split
    case isTrue same => rw [same, found]; rfl
    case isFalse => rfl
  | some row =>
    obtain rfl : row.id = first := filed.threads.key_eq found
    refine (get?_settleThread store (store.recounted row) id).trans ?_
    show (if id = row.id then _ else _) = _
    split
    case isTrue same => rw [same, found]; rfl
    case isFalse => rfl

theorem get?_refreshThreads_of_none (filed : store.Filed) {id : ThreadId}
    (gone : store.threads.get? id = none) (ids : List ThreadId) :
    (ids.foldl refreshThread store).threads.get? id = none := by
  induction ids generalizing store with
  | nil => exact gone
  | cons first rest ih =>
    refine ih ((refreshThread_edits filed first).filed filed) ?_
    rw [get?_refreshThread filed, gone, Option.bind_none, ite_self]

/-- A thread that is counted anew goes if it is found to be empty, and no other thread goes. -/
theorem gone_of_refreshThreads (filed : store.Filed) {id : ThreadId} {row : Thread}
    (found : store.threads.get? id = some row) (ids : List ThreadId) :
    (ids.foldl refreshThread store).threads.get? id = none ↔
      id ∈ ids ∧ store.messagesOf id = [] ∧ row.draft.all (· = "") := by
  induction ids generalizing store row with
  | nil =>
    show store.threads.get? id = none ↔ _
    simp [found]
  | cons first rest ih =>
    have filed' := (refreshThread_edits filed first).filed filed
    have same_messages : (store.refreshThread first).messagesOf id = store.messagesOf id :=
      messagesOf_congr (messages_refreshThread store first) id
    have row' := get?_refreshThread filed first id
    rw [found] at row'
    by_cases here : id = first
    · have own : row.id = first := (filed.threads.key_eq found).trans here
      rw [if_pos here, Option.bind_some] at row'
      by_cases empty : store.messagesOf id = [] ∧ row.draft.all (· = "")
      · have gone : (store.refreshThread first).threads.get? id = none := by
          refine row'.trans (if_pos ((isDisposable_recounted store row).2 ?_))
          rwa [own, ← here]
        exact iff_of_true (get?_refreshThreads_of_none filed' gone rest) ⟨by simp [here], empty⟩
      · have stays : (store.refreshThread first).threads.get? id = some (store.recounted row) := by
          refine row'.trans (if_neg (mt (isDisposable_recounted store row).1 ?_))
          rwa [own, ← here]
        refine (ih filed' stays).trans ?_
        rw [same_messages]
        show _ ∧ _ ∧ row.draft.all (· = "") ↔ _
        simp only [empty, and_false]
    · rw [if_neg here] at row'
      refine (ih filed' row').trans ?_
      rw [same_messages, List.mem_cons, or_iff_right here]

/-! ## What a clearing leaves -/

theorem touched (tidy : store.Tidy) {ids : List MessageId} {id : ThreadId} {row : Thread}
    (found : store.threads.get? id = some row) : id ∈ threadsOf (removeMessages store ids).2 ↔
      ∃ message ∈ store.messagesOf id, message.id ∈ ids := by
  have some : id ≠ .none := by
    rintro rfl
    rw [tidy.threads_get?_none] at found
    cases found
  rw [mem_threadsOf, and_iff_left some, List.mem_map]
  constructor
  · rintro ⟨message, removed, home⟩
    obtain ⟨number, listed, stored⟩ := mem_removed.1 removed
    obtain rfl : message.id = number := tidy.messages.key_eq stored
    exact ⟨message, tidy.mem_messagesOf.2 ⟨stored, home⟩, listed⟩
  · rintro ⟨message, mem, listed⟩
    obtain ⟨stored, home⟩ := tidy.mem_messagesOf.1 mem
    exact ⟨message, mem_removed.2 ⟨message.id, listed, stored⟩, home⟩

/-- A thread goes exactly when it is emptied. -/
theorem gone_iff_empties (tidy : store.Tidy) {id : ThreadId} {row : Thread}
    (found : store.threads.get? id = some row) (clearing : Clearing) :
    (clearing.write.after store).threads.get? id = none ↔ clearing.Empties store id := by
  have own : row.id = id := tidy.threads.key_eq found
  cases clearing with
  | setDraft other draft =>
    show (store.setDraft other draft).store.threads.get? id = none ↔ _
    by_cases here : other = id
    · subst here
      have count : row.messageCount = 0 ↔ store.messagesOf other = [] := by
        rw [(tidy.summarized found).count, own, List.length_eq_zero_iff]
      rw [setDraft, found]
      show (store.settleThread { row with draft }).threads.get? other = none ↔ _
      rw [get?_settleThread, if_pos own.symm]
      simp [Thread.isDisposable, Clearing.Empties, count]
    · have stays : (store.setDraft other draft).store.threads.get? id = some row := by
        unfold setDraft
        cases stands : store.threads.get? other with
        | none => exact found
        | some thread =>
          have away : id ≠ thread.id := by
            rw [tidy.threads.key_eq stands]
            exact Ne.symm here
          refine (get?_settleThread store { thread with draft } id).trans ?_
          exact (if_neg away).trans found
      simp [stays, Clearing.Empties, here]
  | deleteMessages ids =>
    have removed := TidyBut.removeMessages tidy ids
    have stands : (removeMessages store ids).1.threads.get? id = some row :=
      (threads_removeMessages store ids).symm ▸ found
    refine (gone_of_refreshThreads ⟨removed.messages, removed.threads⟩ stands _).trans ?_
    rw [messagesOf_removeMessages_eq_nil tidy, touched tidy found]
    simp only [Clearing.Empties, found, Option.some.injEq, exists_eq_left']
    constructor
    · rintro ⟨⟨message, mem, -⟩, all, blank⟩
      exact ⟨List.ne_nil_of_mem mem, all, blank⟩
    · rintro ⟨some, all, blank⟩
      obtain ⟨message, mem⟩ := List.exists_mem_of_ne_nil _ some
      exact ⟨⟨message, mem, all message mem⟩, all, blank⟩

/-! ## What stays -/

theorem clearing_edits (filed : store.Filed) (clearing : Clearing) :
    ∃ told, Edits Edit.Settles told store (clearing.write.after store) := by
  cases clearing with
  | setDraft id draft => exact ⟨_, setDraft_edits filed id draft⟩
  | deleteMessages ids => exact ⟨_, deleteMessages_edits filed ids⟩

/-- Rows under a number are of the same person, and the request stands as in the earlier one. -/
def Inherits (store next : Store) (id : ThreadId) : Prop :=
  ∀ row, next.threads.get? id = some row → ∃ old, store.threads.get? id = some old ∧
    row.peer = old.peer ∧ row.requestStatus = old.requestStatus

theorem Inherits.step {next : Store} {id : ThreadId} (inherits : store.Inherits next id) {edit : Edit}
    (settles : edit.Settles) (fits : edit.Fits next) : store.Inherits (edit.make next) id := by
  intro row found
  cases edit with
  | revise revised =>
    obtain ⟨old, stands, peer, status⟩ := fits
    rw [Edit.make, putThread, Table.get?_put] at found
    split at found
    case isTrue here =>
      obtain rfl := Option.some.inj found
      obtain ⟨first, first_found, peer', status'⟩ := inherits old (here ▸ stands)
      exact ⟨first, first_found, peer.trans peer', status.trans status'⟩
    case isFalse => exact inherits row found
  | close closed =>
    rw [Edit.make, removeThread, Table.get?_erase] at found
    split at found
    · cases found
    · exact inherits row found
  | aside | message | strike | people => exact inherits row found
  | answer | found | group => rcases settles with plain | ⟨_, same⟩ <;> contradiction

theorem inherits_clearing (filed : store.Filed) (clearing : Clearing) (id : ThreadId) :
    store.Inherits (clearing.write.after store) id := by
  obtain ⟨told, edits⟩ := clearing_edits filed clearing
  generalize clearing.write.after store = next at edits ⊢
  induction edits with
  | refl => exact fun row found => ⟨row, found, rfl, rfl⟩
  | tail _ last ih =>
    obtain ⟨edit, settles, fits, -⟩ := last
    exact ih.step settles fits

theorem groups_clearing (filed : store.Filed) (clearing : Clearing) :
    (clearing.write.after store).groups = store.groups := by
  obtain ⟨told, edits⟩ := clearing_edits filed clearing
  generalize clearing.write.after store = next at edits ⊢
  induction edits with
  | refl => rfl
  | tail _ last ih =>
    obtain ⟨edit, settles, -, -⟩ := last
    refine Eq.trans ?_ ih
    cases edit with
    | group row => rcases settles with plain | ⟨_, same⟩ <;> contradiction
    | _ => rfl

theorem stored_of_cleared (clearing : Clearing) {id : MessageId} {message : Message}
    (stored : (clearing.write.after store).messages.get? id = some message) :
    store.messages.get? id = some message := by
  cases clearing with
  | setDraft thread draft =>
    have same : (store.setDraft thread draft).store.messages = store.messages := by
      unfold setDraft
      split
      · rfl
      · exact messages_settleThread store _
    exact same ▸ stored
  | deleteMessages ids =>
    have same : (store.deleteMessages ids).store.messages = (removeMessages store ids).1.messages :=
      messages_refreshThreads _ _
    have stored : (store.deleteMessages ids).store.messages.get? id = some message := stored
    rw [same, get?_removeMessages] at stored
    split at stored
    · cases stored
    · exact stored

end Store

end Messenger

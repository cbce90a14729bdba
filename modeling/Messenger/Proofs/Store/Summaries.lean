/-
# Threads and their messages

A thread row repeats what its messages say: how many there are, and a summary of the latest.  The
writes keep the two up to date in different ways.  An insertion adds one to the count and
overwrites the summary; an update renews the summary only where it is the summary of that message;
a deletion counts anew.  Between the two halves of a write the rows are behind, and the lemmas say
how far:

    insertion     the thread of the new message                    (`Tidy.enter`)
    update        summaries of the messages written, by number     (`Dated`)
    deletion      the threads of the messages removed              (`TidyBut`)

Whatever sequence of writes is made, no row is behind after it (`threads_summarized`).
-/
import Messenger.Proofs.Store.Rows
import Messenger.Proofs.Store.Writes

namespace Messenger

namespace Store

/-- What the row of a thread says of its messages is so. -/
structure Summarized (store : Store) (thread : Thread) : Prop where
  count : thread.messageCount = (store.messagesOf thread.id).length
  latest : thread.lastMessage = (store.messagesOf thread.id).getLast?.map Message.summary

/-- Every row but those of the given threads is up to date. -/
structure TidyBut (due : List ThreadId) (store : Store) : Prop extends Orderly store where
  summarized : ∀ {id : ThreadId} {thread : Thread},
    store.threads.get? id = some thread → id ∉ due → store.Summarized thread

/-- Every row is up to date. -/
def Tidy (store : Store) : Prop := store.TidyBut []

section
variable {store : Store} {due : List ThreadId}

theorem Summarized.congr {other : Store} {thread : Thread} (summarized : store.Summarized thread)
    (same : other.messagesOf thread.id = store.messagesOf thread.id) : other.Summarized thread :=
  ⟨same ▸ summarized.count, same ▸ summarized.latest⟩

/-! ## Writes to a thread -/

namespace TidyBut

/-- There is no row that could be behind for messages outside any thread. -/
theorem sub {more : List ThreadId} (tidy : store.TidyBut due)
    (sub : ∀ id ∈ due, id ≠ .none → id ∈ more) : store.TidyBut more where
  toOrderly := tidy.toOrderly
  summarized := by
    intro id thread found absent
    refine tidy.summarized found fun mem => absent (sub id mem ?_)
    rintro rfl
    rw [tidy.threads_get?_none] at found
    cases found

theorem mono {more : List ThreadId} (tidy : store.TidyBut due) (sub : due ⊆ more) :
    store.TidyBut more :=
  tidy.sub fun _ mem _ => sub mem

theorem putThread {thread old : Thread} (tidy : store.TidyBut (thread.id :: due))
    (found : store.threads.get? thread.id = some old) (summarized : store.Summarized thread) :
    (store.putThread thread).TidyBut due where
  toOrderly := tidy.toOrderly.putThread found
  summarized := by
    intro id row eq absent
    rw [Store.putThread, Table.get?_put] at eq
    have before : store.Summarized row := by
      split at eq
      · cases eq
        exact summarized
      case isFalse differ =>
        refine tidy.summarized eq fun mem => ?_
        exact (List.mem_cons.1 mem).elim differ absent
    exact before.congr rfl

theorem removeThread {thread : Thread} (tidy : store.TidyBut (thread.id :: due))
    (vacant : store.messagesOf thread.id = []) : (store.removeThread thread).TidyBut due where
  toOrderly := tidy.toOrderly.removeThread vacant
  summarized := by
    intro id row eq absent
    rw [Store.removeThread, Table.get?_erase] at eq
    split at eq
    · cases eq
    case isFalse differ =>
      have before : store.Summarized row := tidy.summarized eq fun mem =>
        (List.mem_cons.1 mem).elim differ absent
      exact before.congr rfl

theorem settleThread {thread old : Thread} (tidy : store.TidyBut (thread.id :: due))
    (found : store.threads.get? thread.id = some old) (summarized : store.Summarized thread) :
    (store.settleThread thread).TidyBut due := by
  unfold Store.settleThread
  split
  case isTrue disposable =>
    refine tidy.removeThread (List.length_eq_zero_iff.1 ?_)
    simp only [Thread.isDisposable, Bool.and_eq_true, decide_eq_true_eq] at disposable
    rw [← summarized.count, disposable.1]
  case isFalse => exact tidy.putThread found summarized

theorem refreshThread {id : ThreadId} (tidy : store.TidyBut (id :: due)) :
    (store.refreshThread id).TidyBut due := by
  unfold Store.refreshThread
  cases found : store.threads.get? id with
  | none =>
    refine { tidy with summarized := fun {other thread} eq absent => tidy.summarized eq fun mem => ?_ }
    rcases List.mem_cons.1 mem with rfl | mem
    · rw [found] at eq
      cases eq
    · exact absent mem
  | some thread =>
    have own : thread.id = id := tidy.threads.key_eq found
    subst own
    have recount : store.Summarized
        { thread with
          messageCount := (store.messagesOf thread.id).length
          lastMessage := (store.messagesOf thread.id).getLast?.map Message.summary } := ⟨rfl, rfl⟩
    exact TidyBut.settleThread tidy found recount

theorem refreshThreads {ids : List ThreadId} (tidy : store.TidyBut (ids ++ due)) :
    (ids.foldl Store.refreshThread store).TidyBut due := by
  induction ids generalizing store with
  | nil => exact tidy
  | cons id rest ih => exact ih tidy.refreshThread

end TidyBut

namespace Tidy

theorem empty : Tidy ∅ := ⟨Orderly.empty, fun found => nomatch found⟩

theorem summarized (tidy : store.Tidy) {id : ThreadId} {thread : Thread}
    (found : store.threads.get? id = some thread) : store.Summarized thread :=
  TidyBut.summarized tidy found List.not_mem_nil

theorem congr {other : Store} (tidy : store.Tidy) (messages : other.messages = store.messages)
    (threads : other.threads = store.threads) (nextMessage : other.nextMessage = store.nextMessage)
    (nextThread : other.nextThread = store.nextThread) : other.Tidy := by
  obtain ⟨orderly, summarized⟩ := tidy
  refine ⟨?_, fun found _ => (summarized (threads ▸ found) List.not_mem_nil).congr ?_⟩
  · obtain ⟨keyedMessages, keyedThreads, message_lt, thread_pos, thread_lt, next_pos, housed⟩ := orderly
    constructor
    all_goals simp only [messages, threads, nextMessage, nextThread]
    all_goals assumption
  · exact messagesOf_congr messages _

theorem found (tidy : store.Tidy) (peer : Identity) (isGroup : Bool) :
    (store.found peer isGroup).Tidy := by
  refine ⟨tidy.toOrderly.found peer isGroup, fun {id thread} eq _ => ?_⟩
  rw [Store.found, Table.get?_put] at eq
  have before : store.Summarized thread := by
    split at eq
    · cases eq
      have vacant := tidy.toOrderly.messagesOf_nextThread
      exact ⟨by rw [vacant]; rfl, by rw [vacant]; rfl⟩
    · exact tidy.summarized eq
  exact before.congr rfl

theorem ensureThread (tidy : store.Tidy) (peer : Identity) (isGroup : Bool) :
    (store.ensureThread peer isGroup).store.Tidy := by
  rw [ensureThread_store]
  split
  · exact tidy
  · exact tidy.found peer isGroup

theorem setDraft (tidy : store.Tidy) (id : ThreadId) (draft : Option String) :
    (store.setDraft id draft).store.Tidy := by
  unfold Store.setDraft
  cases found : store.threads.get? id with
  | none => exact tidy
  | some thread =>
    have own : thread.id = id := tidy.threads.key_eq found
    subst own
    obtain ⟨count, latest⟩ := tidy.summarized found
    exact (tidy.mono (List.nil_subset _)).settleThread found ⟨count, latest⟩

theorem setRequestStatus (tidy : store.Tidy) (id : ThreadId) (status : RequestStatus) :
    (store.setRequestStatus id status).store.Tidy := by
  unfold Store.setRequestStatus
  cases found : store.threads.get? id with
  | none => exact tidy
  | some thread =>
    have own : thread.id = id := tidy.threads.key_eq found
    subst own
    obtain ⟨count, latest⟩ := tidy.summarized found
    exact (tidy.mono (List.nil_subset _)).putThread found ⟨count, latest⟩

/-! ## Insertion -/

theorem enter (tidy : store.Tidy) {content : MessageContent}
    (home : content.thread = .none ∨ ∃ thread, store.threads.get? content.thread = some thread) :
    (store.enter content).TidyBut [content.thread] := by
  refine ⟨tidy.toOrderly.enter home, fun {id thread} found absent => ?_⟩
  obtain ⟨serverIds, eq⟩ := store.enter_eq content
  have found : store.threads.get? id = some thread := by
    rw [eq] at found
    exact found
  have away : content.thread ≠ thread.id := by
    rw [tidy.threads.key_eq found]
    exact fun same => absent (List.mem_singleton.2 same.symm)
  refine (tidy.summarized found).congr ?_
  rw [messagesOf_enter tidy.toOrderly, if_neg away, List.append_nil]

theorem insertMessage (tidy : store.Tidy) {content : MessageContent}
    (home : content.thread = .none ∨ ∃ thread, store.threads.get? content.thread = some thread) :
    (store.insertMessage content).store.Tidy := by
  have entered := tidy.enter home
  obtain ⟨serverIds, eq⟩ := store.enter_eq content
  have threads : (store.enter content).threads = store.threads := by rw [eq]
  have looked : (store.enter content).thread? content.thread = store.threads.get? content.thread := by
    rw [entered.thread?_eq, threads]
  rw [insertMessage_store]
  unfold recordInsert
  rw [show (store.newMessage content).thread = content.thread from rfl, looked]
  cases found : store.threads.get? content.thread with
  | none =>
    refine { entered with summarized := fun {id thread} stands _ => entered.summarized stands ?_ }
    intro mem
    rw [threads, List.mem_singleton.1 mem, found] at stands
    cases stands
  | some thread =>
    have own : thread.id = content.thread := tidy.threads.key_eq found
    obtain ⟨count, latest⟩ := tidy.summarized found
    have messages : (store.enter content).messagesOf thread.id =
        store.messagesOf thread.id ++ [store.newMessage content] := by
      rw [messagesOf_enter tidy.toOrderly, if_pos own.symm]
    have counted : (store.enter content).Summarized (thread.extended (store.newMessage content)) :=
      ⟨by simp [Thread.extended, messages, count], by simp [Thread.extended, messages]⟩
    rw [← own] at entered found
    rw [← threads] at found
    exact TidyBut.putThread entered found counted

end Tidy

/-! ## Updates -/

/-- The row of a thread is behind at most in showing an old state of one of these messages. -/
structure Shows (store : Store) (ids : List MessageId) (thread : Thread) : Prop where
  count : thread.messageCount = (store.messagesOf thread.id).length
  names : thread.lastMessage.map (·.message) = (store.messagesOf thread.id).getLast?.map (·.id)
  latest : ∀ {message : Message}, (store.messagesOf thread.id).getLast? = some message →
    message.id ∉ ids → thread.lastMessage = some message.summary

/-- No row is further behind than in showing an old state of one of these messages. -/
structure Dated (ids : List MessageId) (store : Store) : Prop extends Orderly store where
  shows : ∀ {id : ThreadId} {thread : Thread},
    store.threads.get? id = some thread → store.Shows ids thread

theorem Tidy.dated (tidy : store.Tidy) : store.Dated [] where
  toOrderly := tidy.toOrderly
  shows := by
    intro id thread found
    obtain ⟨count, latest⟩ := tidy.summarized found
    refine ⟨count, ?_, fun {message} last _ => ?_⟩
    · rw [latest, Option.map_map]
      rfl
    · rw [latest, last]
      rfl

namespace Dated

variable {ids : List MessageId}

theorem tidy (dated : store.Dated []) : store.Tidy := by
  refine ⟨dated.toOrderly, fun {id thread} found _ => ?_⟩
  obtain ⟨count, names, latest⟩ := dated.shows found
  refine ⟨count, ?_⟩
  cases last : (store.messagesOf thread.id).getLast? with
  | none =>
    rw [last] at names
    exact Option.map_eq_none_iff.1 names
  | some message => exact latest last List.not_mem_nil

theorem mono {more : List MessageId} (dated : store.Dated ids) (sub : ids ⊆ more) :
    store.Dated more where
  toOrderly := dated.toOrderly
  shows := fun found =>
    let shows := dated.shows found
    ⟨shows.count, shows.names, fun last absent => shows.latest last fun mem => absent (sub mem)⟩

/-- A message written over its old row may leave a summary of its old state. -/
theorem putMessage {message old : Message} (dated : store.Dated ids)
    (found : store.messages.get? message.id = some old) (home : message.thread = old.thread) :
    (store.putMessage message).Dated (message.id :: ids) where
  toOrderly := dated.toOrderly.putMessage found home
  shows := by
    intro id thread stands
    have stands : store.threads.get? id = some thread := stands
    have shows := dated.shows stands
    have messages := messagesOf_putMessage dated.toOrderly found home thread.id
    have same (other : Message) : (replacing message other).id = other.id := by
      unfold replacing
      split
      case isTrue eq => exact eq.symm
      case isFalse => rfl
    refine ⟨?_, ?_, fun {latest} last absent => ?_⟩
    · rw [messages, List.length_map, shows.count]
    · rw [messages, List.getLast?_map, Option.map_map, shows.names]
      congr 1
      funext other
      exact (same other).symm
    · rw [messages, List.getLast?_map] at last
      obtain ⟨other, lastBefore, rfl⟩ := Option.map_eq_some_iff.1 last
      rw [same] at absent
      obtain ⟨differ, absent⟩ := not_or.1 (mt List.mem_cons.2 absent)
      rw [replacing, if_neg differ]
      exact shows.latest lastBefore absent

theorem latest_eq (orderly : Orderly store) {message latest : Message} {id : ThreadId}
    (current : store.messages.get? message.id = some message)
    (last : (store.messagesOf id).getLast? = some latest) (same : latest.id = message.id) :
    latest = message ∧ message.thread = id := by
  obtain ⟨found, home⟩ := orderly.mem_messagesOf.1 (List.mem_of_getLast? last)
  rw [same, current, Option.some.injEq] at found
  exact ⟨found.symm, found ▸ home⟩

/-- A row that does not show the message owes nothing to it. -/
theorem shows_of_hidden {message : Message} {thread : Thread} (orderly : Orderly store)
    (shows : store.Shows (message.id :: ids) thread)
    (current : store.messages.get? message.id = some message)
    (hidden : message.thread = thread.id → ¬thread.lastMessage.any (·.message = message.id)) :
    store.Shows ids thread := by
  obtain ⟨count, names, latest⟩ := shows
  refine ⟨count, names, fun {other} last absent => latest last fun mem => ?_⟩
  rcases List.mem_cons.1 mem with same | mem
  · obtain ⟨summary, shown, name⟩ := Option.map_eq_some_iff.1 (names.trans (congrArg _ last))
    refine hidden (latest_eq orderly current last same).2 ?_
    exact (Option.any_eq_true _ _).2 ⟨summary, shown, decide_eq_true (name.trans same)⟩
  · exact absent mem

theorem shows_renewed {message : Message} {thread : Thread} (orderly : Orderly store)
    (shows : store.Shows (message.id :: ids) thread)
    (current : store.messages.get? message.id = some message)
    (shown : thread.lastMessage.any (·.message = message.id)) :
    store.Shows ids { thread with lastMessage := some message.summary } := by
  obtain ⟨summary, last, name⟩ := (Option.any_eq_true _ _).1 shown
  have name : summary.message = message.id := of_decide_eq_true name
  obtain ⟨count, names, -⟩ := shows
  rw [last, Option.map_some, name] at names
  refine ⟨count, names, fun {other} latest _ => ?_⟩
  have same : message.id = other.id := Option.some.inj (names.trans (congrArg _ latest))
  rw [(latest_eq orderly current latest same.symm).1]

/-- Renewing the summaries that show a message, once its row is written. -/
theorem recordUpdate {message : Message} (dated : store.Dated (message.id :: ids))
    (current : store.messages.get? message.id = some message) :
    (store.recordUpdate message).1.Dated ids := by
  unfold Store.recordUpdate
  rw [dated.thread?_eq]
  cases found : store.threads.get? message.thread with
  | none =>
    refine ⟨dated.toOrderly, fun {id other} stands => ?_⟩
    refine shows_of_hidden dated.toOrderly (dated.shows stands) current fun same => ?_
    rw [same, dated.threads.key_eq stands, stands] at found
    cases found
  | some thread =>
    have own : thread.id = message.thread := dated.threads.key_eq found
    dsimp only
    split
    case isTrue shown =>
      have renewed := shows_renewed dated.toOrderly (dated.shows found) current shown
      refine ⟨dated.toOrderly.putThread (own ▸ found), fun {id other} stands => ?_⟩
      rw [Store.putThread, Table.get?_put] at stands
      split at stands
      · cases stands
        exact ⟨renewed.count, renewed.names, renewed.latest⟩
      case isFalse away =>
        have kept : store.Shows ids other := by
          refine shows_of_hidden dated.toOrderly (dated.shows stands) current fun same => ?_
          exact absurd ((dated.threads.key_eq stands).symm.trans (same.symm.trans own.symm)) away
        exact ⟨kept.count, kept.names, kept.latest⟩
    case isFalse hidden =>
      refine ⟨dated.toOrderly, fun {id other} stands => ?_⟩
      refine shows_of_hidden dated.toOrderly (dated.shows stands) current fun same => ?_
      rw [same, dated.threads.key_eq stands, stands, Option.some.injEq] at found
      exact found ▸ hidden

end Dated

theorem Tidy.updateMessage {message : Message} {committed : Committed Unit} (tidy : store.Tidy)
    (home : ∀ {old : Message}, store.messages.get? message.id = some old → message.thread = old.thread)
    (done : store.updateMessage message = .ok committed) : committed.store.Tidy := by
  unfold Store.updateMessage at done
  split at done
  case isTrue stored =>
    obtain ⟨old, found⟩ := Table.has_iff.1 stored
    cases done
    refine ((tidy.dated.putMessage found (home found)).recordUpdate ?_).tidy
    simp [putMessage]
  case isFalse => cases done

theorem setStatuses_get?_of_stamped {status : Status} {now : Int} {message : Message}
    (stamped : { message with status, statusChanged := now } = message) (ids : List MessageId)
    (keyed : store.messages.KeyedBy (·.id))
    (current : store.messages.get? message.id = some message) :
    (setStatuses status now store ids).1.messages.get? message.id = some message := by
  induction ids generalizing store with
  | nil => exact current
  | cons id rest ih =>
    unfold setStatuses
    cases found : store.message? id with
    | none => exact ih keyed current
    | some other =>
      refine ih (keyed.put rfl) ?_
      rw [putMessage, Table.get?_put]
      split
      case isTrue same =>
        have own : other.id = id := keyed.key_eq found
        have eq : other = message := by
          rw [message?, ← own, ← same, current, Option.some.injEq] at found
          exact found.symm
        rw [eq, stamped]
      case isFalse => exact current

/-- Setting the state of messages leaves behind the summaries of those messages only, and what it
gives are the stored rows. -/
theorem Dated.setStatuses {old : List MessageId} (dated : store.Dated old) (status : Status)
    (now : Int) (ids : List MessageId) :
    (setStatuses status now store ids).1.Dated
        ((setStatuses status now store ids).2.map (·.id) ++ old) ∧
      ∀ message ∈ (setStatuses status now store ids).2,
        (setStatuses status now store ids).1.messages.get? message.id = some message := by
  induction ids generalizing store old with
  | nil => exact ⟨dated, fun _ mem => nomatch mem⟩
  | cons id rest ih =>
    unfold Store.setStatuses
    cases found : store.message? id with
    | none => exact ih dated
    | some message =>
      have own : message.id = id := dated.messages.key_eq found
      subst own
      have written := dated.putMessage (show store.messages.get?
        { message with status, statusChanged := now : Message }.id = some message from found) rfl
      obtain ⟨later, rows⟩ := ih written
      refine ⟨later.mono fun id mem => ?_, fun row mem => ?_⟩
      · rcases List.mem_append.1 mem with mem | mem
        · exact List.mem_append_left _ (List.mem_cons_of_mem _ mem)
        · rcases List.mem_cons.1 mem with rfl | mem
          · exact List.mem_append_left _ List.mem_cons_self
          · exact List.mem_append_right _ mem
      · rcases List.mem_cons.1 mem with rfl | mem
        · refine setStatuses_get?_of_stamped rfl rest (dated.messages.put rfl) ?_
          simp [Store.putMessage]
        · exact rows row mem

theorem Dated.announceUpdates {updated : List Message} {old : List MessageId}
    (dated : store.Dated (updated.map (·.id) ++ old))
    (current : ∀ message ∈ updated, store.messages.get? message.id = some message) :
    (store.announceUpdates updated).1.Dated old := by
  induction updated generalizing store with
  | nil => exact dated
  | cons message rest ih =>
    have first := current message List.mem_cons_self
    have kept (other : Message) (mem : other ∈ rest) :
        (store.recordUpdate message).1.messages.get? other.id = some other := by
      rw [recordUpdate_messages]
      exact current other (List.mem_cons_of_mem _ mem)
    exact ih (dated.recordUpdate first) kept

theorem Tidy.updateStatuses (tidy : store.Tidy) (ids : List MessageId) (status : Status)
    (now : Int) : (store.updateStatuses ids status now).store.Tidy := by
  obtain ⟨dated, current⟩ := tidy.dated.setStatuses status now ids
  exact (dated.announceUpdates current).tidy

/-! ## Deletion -/

/-- A message that is removed is counted too much in the row of its thread only. -/
theorem TidyBut.eraseMessage {id : MessageId} {message : Message} (tidy : store.TidyBut due)
    (stored : store.messages.get? id = some message) :
    ({ store with messages := store.messages.erase id }.unindexMessage message).TidyBut
      (message.thread :: due) where
  toOrderly := tidy.toOrderly.eraseMessage id message
  summarized := by
    intro other thread found absent
    have found : store.threads.get? other = some thread := by
      unfold unindexMessage at found
      split at found <;> exact found
    refine (tidy.summarized found fun mem => absent (List.mem_cons_of_mem _ mem)).congr ?_
    rw [messagesOf_eraseMessage tidy.toOrderly]
    refine List.filter_eq_self.2 fun row mem => decide_eq_true fun same => ?_
    obtain ⟨current, home⟩ := tidy.mem_messagesOf.1 mem
    rw [same, stored, Option.some.injEq] at current
    rw [tidy.threads.key_eq found, ← current] at home
    exact absent (home ▸ List.mem_cons_self)

theorem TidyBut.removeMessages (tidy : store.TidyBut due) (ids : List MessageId) :
    (removeMessages store ids).1.TidyBut ((removeMessages store ids).2.map (·.thread) ++ due) := by
  induction ids generalizing store due with
  | nil => exact tidy
  | cons id rest ih =>
    unfold Store.removeMessages
    cases stored : store.message? id with
    | none => exact ih tidy
    | some message =>
      refine (ih (tidy.eraseMessage stored)).mono fun id mem => ?_
      rcases List.mem_append.1 mem with mem | mem
      · exact List.mem_append_left _ (List.mem_cons_of_mem _ mem)
      · rcases List.mem_cons.1 mem with rfl | mem
        · exact List.mem_append_left _ List.mem_cons_self
        · exact List.mem_append_right _ mem

theorem get?_foldl_put {ids : List ThreadId} {table : Table ThreadId Unit} {id : ThreadId} :
    (∃ value, (ids.foldl (fun table id => table.put id ()) table).get? id = some value) ↔
      id ∈ ids ∨ ∃ value, table.get? id = some value := by
  induction ids generalizing table with
  | nil => simp
  | cons first rest ih =>
    refine ih.trans ?_
    rw [Table.get?_put, List.mem_cons]
    by_cases same : id = first <;> simp [same]

theorem mem_threadsOf {messages : List Message} {id : ThreadId} :
    id ∈ threadsOf messages ↔ id ∈ messages.map (·.thread) ∧ id ≠ .none := by
  refine Table.mem_keys.trans (get?_foldl_put.trans ?_)
  simp [← ThreadId.isNone_eq_false]

theorem Tidy.deleteMessages (tidy : store.Tidy) (ids : List MessageId) :
    (store.deleteMessages ids).store.Tidy := by
  have removed := TidyBut.removeMessages tidy ids
  have listed : (removeMessages store ids).1.TidyBut
      (threadsOf (removeMessages store ids).2 ++ []) := by
    refine removed.sub fun id mem some => ?_
    rw [List.append_nil] at mem ⊢
    exact mem_threadsOf.2 ⟨mem, some⟩
  exact listed.refreshThreads

end

end Store

/-! ## Any sequence of writes -/

/-- A new message names no thread or one that exists, and no message changes its thread. -/
def Write.Fits (store : Store) : Write → Prop
  | insertMessage content =>
    content.thread = .none ∨ ∃ thread, store.threads.get? content.thread = some thread
  | updateMessage message =>
    ∀ old, store.messages.get? message.id = some old → message.thread = old.thread
  | _ => True

namespace Store

variable {store : Store}

/-- What one write keeps. -/
theorem Tidy.after (tidy : store.Tidy) {write : Write} (fits : write.Fits store) :
    (write.after store).Tidy := by
  cases write with
  | insertMessage content => exact tidy.insertMessage fits
  | updateMessage message =>
    unfold Write.after
    cases done : (Write.updateMessage message).perform store with
    | ok committed => exact tidy.updateMessage (fits _) done
    | error failure => exact tidy
  | updateStatuses ids status now => exact tidy.updateStatuses ids status now
  | deleteMessages ids => exact tidy.deleteMessages ids
  | ensureThread peer isGroup => exact tidy.ensureThread peer isGroup
  | setDraft id draft => exact tidy.setDraft id draft
  | setRequestStatus id status => exact tidy.setRequestStatus id status
  | saveGroup group => exact tidy.congr rfl rfl rfl rfl
  | addAddressBookEntry entry => exact tidy.congr rfl rfl rfl rfl
  | beginResync => exact tidy.congr rfl rfl rfl rfl
  | deleteSyncedContacts => exact tidy.congr rfl rfl rfl rfl
  | commitResync => exact tidy.congr rfl rfl rfl rfl
  | applyContactBatch ops =>
    obtain ⟨contacts, profile, eq⟩ := store.applyContactBatch_store ops
    show (store.applyContactBatch ops).store.Tidy
    rw [eq]
    exact tidy.congr rfl rfl rfl rfl
  | markRegistered identity =>
    obtain ⟨contacts, eq⟩ := store.markRegistered_store identity
    show (store.markRegistered identity).store.Tidy
    rw [eq]
    exact tidy.congr rfl rfl rfl rfl

theorem Tidy.of_reached (reached : Reached Write.Fits store) : store.Tidy := by
  induction reached with
  | empty => exact Tidy.empty
  | write write _ fits tidy => exact tidy.after fits

/-- The summary of the message of a thread with the greatest number, or none if it has none. -/
def LatestIn (store : Store) (id : ThreadId) : Option ThreadSummary → Prop
  | none => ∀ message ∈ store.messages.values, message.thread ≠ id
  | some summary => ∃ message ∈ store.messages.values, message.thread = id ∧
      summary = message.summary ∧
      ∀ other ∈ store.messages.values, other.thread = id → other.id.val ≤ message.id.val

theorem Orderly.latestIn (orderly : Orderly store) (id : ThreadId) :
    store.LatestIn id ((store.messagesOf id).getLast?.map Message.summary) := by
  cases last : (store.messagesOf id).getLast? with
  | none =>
    intro message mem home
    have mem : message ∈ store.messagesOf id := List.mem_filter.2 ⟨mem, decide_eq_true home⟩
    rw [List.getLast?_eq_none_iff.1 last] at mem
    cases mem
  | some message =>
    obtain ⟨earlier, split⟩ := List.getLast?_eq_some_iff.1 last
    have mem : message ∈ store.messagesOf id := List.mem_of_getLast? last
    obtain ⟨stored, home⟩ := List.mem_filter.1 mem
    refine ⟨message, stored, of_decide_eq_true home, rfl, fun other stored home => ?_⟩
    have mem : other ∈ store.messagesOf id := List.mem_filter.2 ⟨stored, decide_eq_true home⟩
    have ascending : (store.messagesOf id).Pairwise fun a b => a.id.val < b.id.val :=
      orderly.messages.ascending.filter _
    rw [split] at mem ascending
    rcases List.mem_append.1 mem with mem | mem
    · exact Int.le_of_lt ((List.pairwise_append.1 ascending).2.2 _ mem _ List.mem_cons_self)
    · obtain rfl := List.mem_singleton.1 mem
      exact Int.le_refl _

/-- Whatever is written, in whatever order: a thread has as many messages as its row says and its
row shows the latest of them, and the thread of a message exists. -/
theorem threads_summarized (reached : Reached Write.Fits store) :
    (∀ thread ∈ store.threads.values,
      thread.messageCount = store.messages.values.countP (·.thread = thread.id) ∧
        store.LatestIn thread.id thread.lastMessage) ∧
      ∀ message ∈ store.messages.values, message.thread = .none ∨
        ∃ thread ∈ store.threads.values, thread.id = message.thread := by
  have tidy := Tidy.of_reached reached
  refine ⟨fun thread mem => ?_, fun message mem => ?_⟩
  · obtain ⟨count, latest⟩ := tidy.summarized (tidy.threads.mem_values_iff.1 mem)
    rw [latest, count, messagesOf, ← List.countP_eq_length_filter]
    exact ⟨rfl, tidy.toOrderly.latestIn thread.id⟩
  · refine (tidy.housed (tidy.mem_messages.1 mem)).imp_right fun housed => ?_
    obtain ⟨thread, found⟩ := housed
    exact ⟨thread, Table.mem_values.2 ⟨_, found⟩, tidy.threads.key_eq found⟩

/-- A message to a new thread, which is then marked as sent: the thread has this one message, and its row
shows it as sent, with the time at which it was written. -/
theorem threads_summarized_sent :
    let content : MessageContent :=
      { thread := ⟨1⟩, peer := ⟨"a@x"⟩, mime := textMime, timestamp := 7, body := Octets.ofText "hi" }
    let store := Write.after (Write.after (Write.after ∅ (.ensureThread ⟨"a@x"⟩ false))
      (.insertMessage content)) (.updateStatuses [⟨1⟩] .sent 8)
    (∀ thread ∈ store.threads.values,
      thread.messageCount = store.messages.values.countP (·.thread = thread.id) ∧
        store.LatestIn thread.id thread.lastMessage) ∧
    store.messages.values.map (fun message => (message.id, message.thread)) = [(⟨1⟩, ⟨1⟩)] ∧
    store.threads.values.map (fun thread => (thread.id, thread.messageCount, thread.lastMessage)) =
      [(⟨1⟩, 1, some ⟨⟨1⟩, .outgoing, .sent, textMime, "hi", 7⟩)] := by
  intro content store
  refine ⟨(threads_summarized (.write (.updateStatuses [⟨1⟩] .sent 8)
    (.write (.insertMessage _) (.write (.ensureThread ⟨"a@x"⟩ false) .empty trivial)
      (Or.inr ⟨_, rfl⟩)) trivial)).1, ?_, ?_⟩
  · decide +kernel
  · decide +kernel

end Store

end Messenger

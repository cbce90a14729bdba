/-
# One thread for each person

Threads are kept in a table by number, and an index leads from people to numbers.  The two are written
by different hands and a thread can go in two ways, with its last message and with its draft.  What
holds them together (`Indexed`) is

    the index leads to a number    exactly if a thread of that person has it
    the numbers of threads         are below the one that is given out next

Every edit keeps both, so they hold after any writes with any arguments, and numbers are never given
out again: a person whose thread went gets a new thread under a new number (`one_thread_each`).
-/
import Messenger.Proofs.Store.Edits
import Mathlib.Data.List.Induction

namespace Messenger.Store

/-- The index of people leads to exactly the threads that there are. -/
structure Indexed (store : Store) : Prop extends store.Filed where
  index : ∀ {peer : Identity} {id : ThreadId},
    store.threadOf.get? peer = some id ↔ store.peerOf? id = some peer
  below : ∀ {id : ThreadId} {peer : Identity},
    store.peerOf? id = some peer → id.val < store.nextThread.val

variable {store : Store}

theorem peerOf?_eq_some_iff {id : ThreadId} {peer : Identity} : store.peerOf? id = some peer ↔
    ∃ thread, store.threads.get? id = some thread ∧ thread.peer = peer :=
  Option.map_eq_some_iff

theorem peerOf?_putThread {row old : Thread} (found : store.threads.get? row.id = some old)
    (same : row.peer = old.peer) (id : ThreadId) :
    (store.putThread row).peerOf? id = store.peerOf? id := by
  unfold peerOf? Store.putThread
  rw [Table.get?_put]
  split
  case isTrue here => rw [here, found, Option.map_some, Option.map_some, same]
  case isFalse => rfl

theorem peerOf?_removeThread (row : Thread) (id : ThreadId) :
    (store.removeThread row).peerOf? id = if id = row.id then none else store.peerOf? id := by
  unfold peerOf? Store.removeThread
  rw [Table.get?_erase]
  split <;> rfl

theorem peerOf?_found (peer : Identity) (isGroup : Bool) (id : ThreadId) :
    (store.found peer isGroup).peerOf? id =
      if id = store.nextThread then some peer else store.peerOf? id := by
  unfold peerOf? Store.found
  rw [Table.get?_put]
  split <;> rfl

namespace Indexed

theorem empty : Indexed ∅ where
  toFiled := .empty
  index := ⟨nofun, nofun⟩
  below found := nomatch found

theorem threadForPeer?_iff (indexed : store.Indexed) {peer : Identity} {thread : Thread} :
    store.threadForPeer? peer = some thread ↔
      store.threads.get? thread.id = some thread ∧ thread.peer = peer := by
  constructor
  · intro known
    obtain ⟨id, leads, found⟩ := Option.bind_eq_some_iff.1 known
    obtain ⟨row, stands, own⟩ := peerOf?_eq_some_iff.1 (indexed.index.1 leads)
    obtain rfl : row = thread := Option.some.inj (stands.symm.trans found)
    exact ⟨indexed.threads.key_eq found ▸ found, own⟩
  · rintro ⟨found, own⟩
    have leads := indexed.index.2 (peerOf?_eq_some_iff.2 ⟨thread, found, own⟩)
    exact Option.bind_eq_some_iff.2 ⟨thread.id, leads, found⟩

theorem unknown (indexed : store.Indexed) {peer : Identity} (none : store.threadForPeer? peer = none) :
    store.threadOf.get? peer = .none := by
  refine Option.eq_none_iff_forall_ne_some.2 fun id leads => ?_
  obtain ⟨thread, found, -⟩ := peerOf?_eq_some_iff.1 (indexed.index.1 leads)
  rw [threadForPeer?, leads, Option.bind_some, found] at none
  cases none

theorem peerOf?_nextThread (indexed : store.Indexed) : store.peerOf? store.nextThread = none :=
  Option.eq_none_iff_forall_ne_some.2 fun _ found => Int.lt_irrefl _ (indexed.below found)

/-! ## Edits -/

theorem putThread (indexed : store.Indexed) {row old : Thread}
    (found : store.threads.get? row.id = some old) (same : row.peer = old.peer) :
    (store.putThread row).Indexed where
  toFiled := ⟨indexed.messages, indexed.threads.put rfl⟩
  index := by
    intro peer id
    rw [peerOf?_putThread found same]
    exact indexed.index
  below := by
    intro id peer known
    rw [peerOf?_putThread found same] at known
    exact indexed.below known

theorem removeThread (indexed : store.Indexed) {row old : Thread}
    (found : store.threads.get? row.id = some old) (same : row.peer = old.peer) :
    (store.removeThread row).Indexed where
  toFiled := ⟨indexed.messages, indexed.threads.erase _⟩
  index := by
    intro peer id
    have own : store.peerOf? row.id = some row.peer := peerOf?_eq_some_iff.2 ⟨old, found, same.symm⟩
    rw [peerOf?_removeThread, Store.removeThread, Table.get?_erase]
    -- The number and the person of the row belong to each other, and to nobody else.
    have both (known : store.peerOf? id = some peer) : peer = row.peer ↔ id = row.id := by
      constructor
      · rintro rfl
        exact Option.some.inj ((indexed.index.2 known).symm.trans (indexed.index.2 own))
      · rintro rfl
        exact Option.some.inj (known.symm.trans own)
    by_cases known : store.peerOf? id = some peer
    · simp [indexed.index.2 known, known, both known]
    · simp [mt indexed.index.1 known, known]
  below := by
    intro id peer known
    rw [peerOf?_removeThread] at known
    split at known
    · cases known
    · exact indexed.below known

theorem found (indexed : store.Indexed) {peer : Identity} (isGroup : Bool)
    (new : store.threadForPeer? peer = none) : (store.found peer isGroup).Indexed where
  toFiled := ⟨indexed.messages, indexed.threads.put rfl⟩
  index := by
    intro other id
    rw [peerOf?_found, Store.found, Table.get?_put]
    by_cases next : id = store.nextThread
    · subst next
      have none : store.threadOf.get? other ≠ some store.nextThread := by
        rw [Ne, indexed.index, indexed.peerOf?_nextThread]
        exact (Option.some_ne_none _).symm
      by_cases same : other = peer
      · simp [same]
      · simp [same, none, Ne.symm same]
    · by_cases same : other = peer
      · subst same
        have none : store.peerOf? id ≠ some other := by
          rw [Ne, ← indexed.index, indexed.unknown new]
          exact (Option.some_ne_none _).symm
        simp [next, none, Ne.symm next]
      · simp [next, same, indexed.index]
  below := by
    intro id other known
    have up : store.nextThread.val < store.nextThread.next.val := Int.lt_succ _
    rw [peerOf?_found] at known
    split at known
    case isTrue here => rw [here]; exact up
    case isFalse => exact Int.lt_trans (indexed.below known) up

theorem make (indexed : store.Indexed) {edit : Edit} (fits : edit.Fits store) :
    (edit.make store).Indexed := by
  cases edit with
  | revise row =>
    obtain ⟨old, found, same, -⟩ := fits
    exact indexed.putThread found same
  | answer row status => exact indexed.putThread fits rfl
  | close row =>
    obtain ⟨old, found, same⟩ := fits
    exact indexed.removeThread found same
  | found peer isGroup => exact indexed.found isGroup fits
  | aside | message | strike | group | people =>
    exact ⟨indexed.toFiled.make _, indexed.index, indexed.below⟩

theorem after (indexed : store.Indexed) (write : Write) : (write.after store).Indexed := by
  unfold Write.after
  cases done : write.perform store with
  | error failure => exact indexed
  | ok committed =>
    exact (write.edits indexed.toFiled done).keeps indexed fun _ _ indexed _ fits => indexed.make fits

end Indexed

/-! ## Any writes -/

/-- The store after some writes, from the empty one on. -/
def written (writes : List Write) : Store := writes.foldl Write.after ∅

theorem written_snoc (writes : List Write) (write : Write) :
    written (writes ++ [write]) = write.after (written writes) := List.foldl_append ..

theorem indexed_written (writes : List Write) : (written writes).Indexed := by
  induction writes using List.reverseRecOn with
  | nil => exact .empty
  | append_singleton before write ih =>
    rw [written_snoc]
    exact ih.after write

/-- Numbers are given out in ascending order. -/
theorem nextThread_le {kind : Edit → Prop} {told : List Change} {next : Store}
    (edits : Edits kind told store next) : store.nextThread.val ≤ next.nextThread.val := by
  induction edits with
  | refl => exact Int.le_refl _
  | tail _ last ih =>
    obtain ⟨edit, -, -, -⟩ := last
    refine Int.le_trans ih ?_
    cases edit with
    | found => exact Int.le_of_lt (Int.lt_succ _)
    | _ => exact Int.le_refl _

theorem nextThread_le_after (filed : store.Filed) (write : Write) :
    store.nextThread.val ≤ (write.after store).nextThread.val := by
  unfold Write.after
  cases done : write.perform store with
  | error failure => exact Int.le_refl _
  | ok committed => exact nextThread_le (write.edits filed done)

theorem nextThread_le_written (earlier later : List Write) :
    (written earlier).nextThread.val ≤ (written (earlier ++ later)).nextThread.val := by
  induction later using List.reverseRecOn with
  | nil => exact (List.append_nil earlier).symm ▸ Int.le_refl _
  | append_singleton before write ih =>
    have filed : (written (earlier ++ before)).Filed := (indexed_written _).toFiled
    rw [← List.append_assoc, written_snoc]
    exact Int.le_trans ih (nextThread_le_after filed write)

/-- At some time a thread had this number, or it was the answer when a thread was asked for. -/
inductive Seen (writes : List Write) (id : ThreadId) : Prop
  | stood (earlier later : List Write) (eq : writes = earlier ++ later) (thread : Thread)
      (found : (written earlier).threads.get? id = some thread)
  | answered (earlier later : List Write) (peer : Identity) (isGroup : Bool)
      (eq : writes = earlier ++ .ensureThread peer isGroup :: later)
      (answer : ((written earlier).ensureThread peer isGroup).value.id = id)

theorem get?_ensureThread (indexed : store.Indexed) (peer : Identity) (isGroup : Bool) :
    (store.ensureThread peer isGroup).store.threads.get? (store.ensureThread peer isGroup).value.id =
      some (store.ensureThread peer isGroup).value := by
  have later : (store.ensureThread peer isGroup).store.Indexed :=
    indexed.after (.ensureThread peer isGroup)
  exact (later.threadForPeer?_iff.1 (store.threadForPeer?_ensureThread peer isGroup)).1

theorem Seen.exists_thread {writes : List Write} {id : ThreadId} (seen : Seen writes id) :
    ∃ earlier later thread, writes = earlier ++ later ∧
      (written earlier).threads.get? id = some thread := by
  cases seen with
  | stood earlier later eq thread found => exact ⟨earlier, later, thread, eq, found⟩
  | answered earlier later peer isGroup eq answer =>
    subst answer
    refine ⟨earlier ++ [.ensureThread peer isGroup], later,
      ((written earlier).ensureThread peer isGroup).value, by simp [eq], ?_⟩
    rw [written_snoc]
    exact get?_ensureThread (indexed_written earlier) peer isGroup

/-- A number that was seen is not given out again. -/
theorem Seen.lt {writes : List Write} {id : ThreadId} (seen : Seen writes id) :
    id.val < (written writes).nextThread.val := by
  obtain ⟨earlier, later, thread, rfl, found⟩ := seen.exists_thread
  have known := peerOf?_eq_some_iff.2 ⟨thread, found, rfl⟩
  exact Int.lt_of_lt_of_le ((indexed_written earlier).below known) (nextThread_le_written earlier later)

/-- After any writes with any arguments the index of people leads to exactly the threads that there
are, each person has at most one, and a look-up by person finds it.  A thread that is asked for is the
one of the person as it is, if there is one; otherwise it is a new one without anything in it, with a
number above all that were ever seen. -/
theorem one_thread_each (writes : List Write) :
    let store := written writes
    (∀ peer id, store.threadOf.get? peer = some id ↔
      ∃ thread, store.threads.get? id = some thread ∧ thread.id = id ∧ thread.peer = peer) ∧
    (∀ one two a b, store.threads.get? one = some a → store.threads.get? two = some b →
      a.peer = b.peer → one = two) ∧
    (∀ peer thread, store.threadForPeer? peer = some thread ↔
      store.threads.get? thread.id = some thread ∧ thread.peer = peer) ∧
    ∀ peer isGroup,
      (∀ thread, store.threadForPeer? peer = some thread →
        store.ensureThread peer isGroup = ⟨thread, store, []⟩) ∧
      (store.threadForPeer? peer = none → ∃ id : ThreadId,
        (store.ensureThread peer isGroup).value = { id, peer, isGroup } ∧
        (store.ensureThread peer isGroup).store.threads = store.threads.put id { id, peer, isGroup } ∧
        ∀ other, Seen writes other → other.val < id.val) := by
  intro store
  have indexed : store.Indexed := indexed_written writes
  refine ⟨fun peer id => ?_, fun one two a b first second same => ?_,
    fun peer thread => indexed.threadForPeer?_iff, fun peer isGroup => ⟨fun thread known => ?_,
    fun new => ⟨store.nextThread, ?_, ?_, fun other seen => seen.lt⟩⟩⟩
  · refine indexed.index.trans (peerOf?_eq_some_iff.trans (exists_congr fun thread => ?_))
    exact and_congr_right fun found => (and_iff_right (indexed.threads.key_eq found)).symm
  · have leads := indexed.index.2 (peerOf?_eq_some_iff.2 ⟨a, first, rfl⟩)
    have same := indexed.index.2 (peerOf?_eq_some_iff.2 ⟨b, second, same.symm⟩)
    exact Option.some.inj (leads.symm.trans same)
  · rw [ensureThread, known]
  · rw [ensureThread, new]
  · rw [ensureThread, new]
    rfl

/-- A person whose thread went with its draft gets a new thread under a new number. -/
theorem one_thread_each_again :
    let writes : List Write := [.ensureThread ⟨"a@x"⟩ false, .setDraft ⟨1⟩ none]
    (written writes).threadForPeer? ⟨"a@x"⟩ = none ∧ Seen writes ⟨1⟩ ∧ ∃ id : ThreadId,
      ((written writes).ensureThread ⟨"a@x"⟩ true).value = { id, peer := ⟨"a@x"⟩, isGroup := true } ∧
      1 < id.val := by
  intro writes
  have gone : (written writes).threadForPeer? ⟨"a@x"⟩ = none := by decide +kernel
  have seen : Seen writes ⟨1⟩ := .answered [] [.setDraft ⟨1⟩ none] ⟨"a@x"⟩ false rfl rfl
  obtain ⟨id, made, -, above⟩ := ((one_thread_each writes).2.2.2 ⟨"a@x"⟩ true).2 gone
  exact ⟨gone, seen, id, made, above ⟨1⟩ seen⟩

end Messenger.Store

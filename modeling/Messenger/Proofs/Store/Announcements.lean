/-
# Nothing changes silently

An observer of the store keeps a copy of what it shows (`Mirror`), and reads again what it is told of.
It is told enough if every row that differs, and the contacts and the profile if they do, are named
among the changes (`Announced`).

    an edit        names the row that it puts or takes away           (`Edit.announced`)
    a write        is made of edits that it announces                 (`Write.edits`)
    an attempt     announces its write, or has failed and done nothing (`Attempt.outcome_cases`)

So the copy shows the store as it is after every write, whatever is written and whatever fails
(`changes_announced`).
-/
import Messenger.Proofs.Outbox.Runs
import Messenger.Proofs.Store.Edits

namespace Messenger

/-! ## What is announced -/

/-- Whatever an observer can see to differ between two states of the store is among the changes. -/
structure Store.Announced (before after : Store) (changes : List Change) : Prop where
  message : ∀ id, after.message? id ≠ before.message? id → .message id ∈ changes
  thread : ∀ id, after.threads.get? id ≠ before.threads.get? id → .thread id ∈ changes
  group : ∀ id, after.group? id ≠ before.group? id → .group id ∈ changes
  contacts : after.contacts ≠ before.contacts ∨ after.profile ≠ before.profile → .contacts ∈ changes

namespace Table

variable {κ : Type u} {ν : Type v} [Ord κ] [Std.TransOrd κ] [Std.LawfulEqOrd κ] [DecidableEq κ]
variable {table : Table κ ν} {key other : κ} {value : ν}

theorem key_of_put (differs : (table.put key value).get? other ≠ table.get? other) : other = key := by
  rw [get?_put] at differs
  exact Decidable.of_not_not fun away => differs (if_neg away)

omit [Std.TransOrd κ] in
theorem key_of_erase (differs : (table.erase key).get? other ≠ table.get? other) : other = key := by
  rw [get?_erase] at differs
  exact Decidable.of_not_not fun away => differs (if_neg away)

end Table

namespace Store.Announced

variable {first middle last store : Store} {changes more : List Change}

theorem refl (store : Store) (changes : List Change) : Announced store store changes where
  message _ differs := absurd rfl differs
  thread _ differs := absurd rfl differs
  group _ differs := absurd rfl differs
  contacts differs := absurd rfl (differs.elim id fun differs => absurd rfl differs)

theorem mono (announced : Announced first last changes)
    (tells : ∀ change ∈ changes, change ∈ more) : Announced first last more where
  message id differs := tells _ (announced.message id differs)
  thread id differs := tells _ (announced.thread id differs)
  group id differs := tells _ (announced.group id differs)
  contacts differs := tells _ (announced.contacts differs)

/-- What differs in the end differs at one of the two times. -/
theorem trans (one : Announced first middle changes) (two : Announced middle last changes) :
    Announced first last changes := by
  have either {α : Type} {a b c : α} (differs : c ≠ a) : b ≠ a ∨ c ≠ b := by
    by_cases same : b = a
    · exact Or.inr (same ▸ differs)
    · exact Or.inl same
  constructor
  case message => exact fun id differs => (either differs).elim (one.message id) (two.message id)
  case thread => exact fun id differs => (either differs).elim (one.thread id) (two.thread id)
  case group => exact fun id differs => (either differs).elim (one.group id) (two.group id)
  case contacts =>
    rintro (differs | differs)
    · exact (either differs).elim (one.contacts ∘ Or.inl) (two.contacts ∘ Or.inl)
    · exact (either differs).elim (one.contacts ∘ Or.inr) (two.contacts ∘ Or.inr)

end Store.Announced

theorem Edit.announced (store : Store) (edit : Edit) :
    store.Announced (edit.make store) (edit.changes store) := by
  have same := Store.Announced.refl store (edit.changes store)
  cases edit with
  | aside => exact { same with }
  | people => exact { same with contacts := fun _ => List.mem_cons_self }
  | message row =>
    exact { same with
      message := fun id differs => List.mem_singleton.2 (congrArg _ (Table.key_of_put differs)) }
  | strike id =>
    exact { same with
      message := fun id differs => List.mem_singleton.2 (congrArg _ (Table.key_of_erase differs)) }
  | revise row | answer row | found =>
    exact { same with
      thread := fun id differs => List.mem_singleton.2 (congrArg _ (Table.key_of_put differs)) }
  | close row =>
    exact { same with
      thread := fun id differs => List.mem_singleton.2 (congrArg _ (Table.key_of_erase differs)) }
  | group row =>
    exact { same with
      group := fun id differs => List.mem_singleton.2 (congrArg _ (Table.key_of_put differs)) }

theorem Edits.announced {kind : Edit → Prop} {told : List Change} {store next : Store}
    (edits : Edits kind told store next) : store.Announced next told := by
  induction edits with
  | refl => exact .refl store told
  | tail _ last ih =>
    obtain ⟨edit, -, -, tells⟩ := last
    exact ih.trans ((edit.announced _).mono tells)

/-! ## Attempts -/

/-- The use of the store that a write is. -/
def Write.call : Write → StoreCall
  | insertMessage _ => .insertMessage
  | updateMessage _ => .updateMessage
  | updateStatuses _ _ _ => .updateStatuses
  | deleteMessages _ => .deleteMessages
  | ensureThread _ _ => .ensureThread
  | setDraft _ _ => .setDraft
  | setRequestStatus _ _ => .setRequestStatus
  | saveGroup _ => .saveGroup
  | addAddressBookEntry _ => .addAddressBookEntry
  | beginResync => .beginResync
  | deleteSyncedContacts => .deleteSyncedContacts
  | applyContactBatch _ => .applyContactBatch
  | commitResync => .commitResync
  | markRegistered _ => .markRegistered

/-- A write that is tried, and what surrounds it at that time. -/
structure Attempt where
  host : Host
  write : Write

namespace Attempt

/-- What comes of an attempt: the host may make it fail, and the store may refuse it. -/
def outcome (attempt : Attempt) (store : Store) : Outbox.Outcome Unit :=
  (Action.commit? attempt.write.call attempt.write.perform).run attempt.host { store }

theorem outcome_cases (attempt : Attempt) (store : Store) :
    (∃ committed, attempt.write.perform store = .ok committed ∧
      attempt.outcome store = ⟨.ok (), { store := committed.store }, [], committed.changes, []⟩) ∨
    ∃ failure, attempt.outcome store = ⟨.error failure, { store }, [], [], []⟩ := by
  rcases Action.on_commit?_or attempt.write.call attempt.write.perform
    with ⟨committed, done, ran⟩ | ⟨failure, ran⟩
  · exact Or.inl ⟨committed, done, Action.run_of_ok ran⟩
  · exact Or.inr ⟨failure, Action.run_of_error ran⟩

end Attempt

/-! ## What an observer shows -/

/-- Takes over what was read under a key: a row is put in its place, and a row that is gone is taken
away. -/
def Table.refresh [Ord κ] [Std.TransOrd κ] [Std.LawfulEqOrd κ] (table : Table κ ν) (key : κ) :
    Option ν → Table κ ν
  | some value => table.put key value
  | none => table.erase key

theorem Table.get?_refresh [Ord κ] [Std.TransOrd κ] [Std.LawfulEqOrd κ] [DecidableEq κ]
    (table : Table κ ν) (key other : κ) (read : Option ν) :
    (table.refresh key read).get? other = if other = key then read else table.get? other := by
  cases read with
  | some value => exact table.get?_put key other value
  | none => exact table.get?_erase key other

/-- The copy that an observer keeps of what the store shows. -/
structure Mirror where
  messages : Table MessageId Message
  threads : Table ThreadId Thread
  groups : Table Identity Group
  contacts : Table Identity Contact
  profile : Option Contact

namespace Mirror

/-- A copy of all that the store shows. -/
def of (store : Store) : Mirror :=
  ⟨store.messages, store.threads, store.groups, store.contacts, store.profile⟩

/-- Reads again what a change names. -/
def reread (store : Store) (mirror : Mirror) : Change → Mirror
  | .message id => { mirror with messages := mirror.messages.refresh id (store.message? id) }
  | .thread id => { mirror with threads := mirror.threads.refresh id (store.threads.get? id) }
  | .group id => { mirror with groups := mirror.groups.refresh id (store.group? id) }
  | .contacts => { mirror with contacts := store.contacts, profile := store.profile }

/-- Reads again what each of the changes names. -/
def rereadAll (store : Store) (mirror : Mirror) (changes : List Change) : Mirror :=
  changes.foldl (reread store) mirror

/-- The mirror shows what a change names as the store has it. -/
def Shows (store : Store) (mirror : Mirror) : Change → Prop
  | .message id => mirror.messages.get? id = store.message? id
  | .thread id => mirror.threads.get? id = store.threads.get? id
  | .group id => mirror.groups.get? id = store.group? id
  | .contacts => mirror.contacts = store.contacts ∧ mirror.profile = store.profile

variable {store before : Store} {mirror : Mirror}

theorem shows_reread (store : Store) (mirror : Mirror) (change : Change) :
    (mirror.reread store change).Shows store change := by
  cases change with
  | contacts => exact ⟨rfl, rfl⟩
  | message id | thread id | group id => exact (Table.get?_refresh _ _ _ _).trans (if_pos rfl)

theorem Shows.reread {change : Change} (shows : mirror.Shows store change) (other : Change) :
    (mirror.reread store other).Shows store change := by
  by_cases same : change = other
  · subst same
    exact shows_reread store mirror change
  · cases change <;> cases other <;> first
      | exact shows
      | exact absurd rfl same
      | exact (Table.get?_refresh _ _ _ _).trans ((if_neg fun eq => same (congrArg _ eq)).trans shows)

theorem shows_rereadAll {change : Change} {changes : List Change}
    (either : change ∈ changes ∨ mirror.Shows store change) :
    (mirror.rereadAll store changes).Shows store change := by
  induction changes generalizing mirror with
  | nil => exact either.resolve_left List.not_mem_nil
  | cons first rest ih =>
    refine ih ?_
    rcases either with mem | shows
    · rcases List.mem_cons.1 mem with rfl | mem
      · exact Or.inr (shows_reread store mirror change)
      · exact Or.inl mem
    · exact Or.inr (shows.reread first)

theorem eq_of_shows (shows : ∀ change, mirror.Shows store change) : mirror = of store := by
  have messages : mirror.messages = store.messages := Table.ext_get? fun id => shows (.message id)
  have threads : mirror.threads = store.threads := Table.ext_get? fun id => shows (.thread id)
  have groups : mirror.groups = store.groups := Table.ext_get? fun id => shows (.group id)
  obtain ⟨contacts, profile⟩ := shows .contacts
  cases mirror
  simp only at messages threads groups contacts profile
  rw [of, messages, threads, groups, contacts, profile]

/-- If everything that differs is announced, a copy that is read again is a copy. -/
theorem rereadAll_of_announced {changes : List Change} (announced : before.Announced store changes) :
    (of before).rereadAll store changes = of store := by
  refine eq_of_shows fun change => shows_rereadAll ?_
  by_cases told : change ∈ changes
  · exact Or.inl told
  refine Or.inr ?_
  cases change with
  | message id => exact Classical.byContradiction fun stale => told (announced.message id (Ne.symm stale))
  | thread id => exact Classical.byContradiction fun stale => told (announced.thread id (Ne.symm stale))
  | group id => exact Classical.byContradiction fun stale => told (announced.group id (Ne.symm stale))
  | contacts =>
    constructor
    · exact Classical.byContradiction fun stale => told (announced.contacts (Or.inl (Ne.symm stale)))
    · exact Classical.byContradiction fun stale => told (announced.contacts (Or.inr (Ne.symm stale)))

/-- The store after some attempts, and the mirror of an observer who after each of them reads again
what was announced. -/
def watch : Store → Mirror → List Attempt → Store × Mirror
  | store, mirror, [] => (store, mirror)
  | store, mirror, attempt :: rest =>
    let outcome := attempt.outcome store
    watch outcome.outbox.store (mirror.rereadAll outcome.outbox.store outcome.changes) rest

end Mirror

namespace Store

/-- An attempt announces what it changes, or fails and changes nothing. -/
theorem announced_attempt {store : Store} (filed : store.Filed) (attempt : Attempt) :
    let outcome := attempt.outcome store
    outcome.outbox.store.Filed ∧ match outcome.result with
      | .ok _ => store.Announced outcome.outbox.store outcome.changes
      | .error _ => outcome.outbox.store = store ∧ outcome.changes = [] := by
  rcases attempt.outcome_cases store with ⟨committed, done, eq⟩ | ⟨failure, eq⟩
  · have edits := attempt.write.edits filed done
    rw [eq]
    exact ⟨edits.filed filed, edits.announced⟩
  · rw [eq]
    exact ⟨filed, rfl, rfl⟩

theorem mirror_watch {store : Store} (filed : store.Filed) (attempts : List Attempt) :
    (Mirror.watch store (.of store) attempts).2 = .of (Mirror.watch store (.of store) attempts).1 := by
  induction attempts generalizing store with
  | nil => rfl
  | cons attempt rest ih =>
    obtain ⟨kept, announced⟩ := announced_attempt filed attempt
    have copied : (Mirror.of store).rereadAll (attempt.outcome store).outbox.store
        (attempt.outcome store).changes = .of (attempt.outcome store).outbox.store := by
      split at announced
      · exact Mirror.rereadAll_of_announced announced
      · rw [announced.1, announced.2]
        rfl
    rw [Mirror.watch, copied]
    exact ih kept

/-- Messages and threads stand under their own numbers from the start and after every attempt to write.
An attempt announces every message, thread and group of which the row differs afterwards, and the
contacts if they or the profile differ; one that fails changes and announces nothing.  So an observer
who after each attempt reads again what was announced always shows the store as it is. -/
theorem changes_announced : Filed ∅ ∧ ∀ store : Store, store.Filed →
    (∀ attempt : Attempt,
      let outcome := attempt.outcome store
      outcome.outbox.store.Filed ∧ match outcome.result with
        | .ok _ => store.Announced outcome.outbox.store outcome.changes
        | .error _ => outcome.outbox.store = store ∧ outcome.changes = []) ∧
    ∀ attempts : List Attempt,
      (Mirror.watch store (.of store) attempts).2 =
        .of (Mirror.watch store (.of store) attempts).1 :=
  ⟨.empty, fun _ filed => ⟨announced_attempt filed, mirror_watch filed⟩⟩

/-- Clearing the draft of a thread without messages removes the thread, and announces it. -/
theorem changes_announced_cleared :
    let store := (Write.setDraft ⟨1⟩ (some "hi")).after ((Write.ensureThread ⟨"a@x"⟩ false).after ∅)
    let attempt : Attempt := ⟨{ settings := {}, serverId := toString }, .setDraft ⟨1⟩ none⟩
    let outcome := attempt.outcome store
    store.Filed ∧ outcome.result = .ok () ∧ (store.threads.get? ⟨1⟩).isSome ∧
      outcome.outbox.store.threads.get? ⟨1⟩ = none ∧ .thread ⟨1⟩ ∈ outcome.changes ∧
      (Mirror.watch store (.of store) [attempt]).2 = .of outcome.outbox.store := by
  intro store attempt outcome
  have filed : store.Filed := (Filed.empty.after _).after _
  have made : outcome.result = .ok () := rfl
  have stood : (store.threads.get? ⟨1⟩).isSome := by decide +kernel
  have gone : outcome.outbox.store.threads.get? ⟨1⟩ = none := by decide +kernel
  obtain ⟨announces, copies⟩ := changes_announced.2 store filed
  have told := (announces attempt).2
  rw [made] at told
  refine ⟨filed, made, stood, gone, told.thread ⟨1⟩ fun same => ?_, copies [attempt]⟩
  rw [← same, gone] at stood
  cases stood

end Store

end Messenger

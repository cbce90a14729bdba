/-
# What the outbox does, with a store that may fail

The host can make any use of the store fail, and what was done before stays done.  Whatever an action
does until then is a sequence of deeds: an event is published, the connection is noted, or one edit is
made to the store, and not just any edit (`Edit.Allowed`):

    threads    are made, and get other summaries; none is removed
    groups     are founded by us, edited from a row that is stored, or received        (`Group.Saved`)
    requests   for a conversation get another state, which may be an answer to be sent

Answers to conversation requests and the state of the connection are the business of few actions, which
are `free` to touch them.  All others leave them alone, so there is one lemma for each action, under the
action's own name, and it says both things.
-/
import Messenger.Proofs.Group.Members
import Messenger.Proofs.Outbox.Responses
import Messenger.Proofs.Outbox.Scans
import Messenger.Proofs.Store.Edits

namespace Messenger

/-- The answer to a conversation request that an event asks to send. -/
def Event.reply? : Event → Option (Identity × PrivacyAction)
  | .setUserPrivacyRequest peer action => some (peer, action)
  | _ => none

/-- A row of a group as the outbox writes it. -/
inductive Group.Saved (me : Option Identity) (store : Store) : Group → Prop
  | founded (id owner : Identity) (people : List Identity) (subject : Option String)
      (thread : ThreadId) (own : me = some owner) (home : store.threadOf.get? id = some thread) :
      Saved me store
        (({ id, owner, thread, subject } : Group).addMembers (people.filter (· ≠ owner)))
  | enlarged {key self : Identity} {group : Group} (stored : store.group? key = some group)
      (own : me = some self) (people : List Identity) :
      Saved me store (group.addMembers (people.filter (· ≠ self)))
  | reduced {key : Identity} {group : Group} (stored : store.group? key = some group)
      (people : List Identity) : Saved me store (group.kickMembers people)
  | renamed {key : Identity} {group : Group} (stored : store.group? key = some group)
      (subject : String) : Saved me store { group with subject := some subject }
  | parted {key : Identity} {group : Group} (stored : store.group? key = some group) :
      Saved me store { group with membership := .parted }
  | moved {key : Identity} {group : Group} (stored : store.group? key = some group)
      (thread : ThreadId) (home : store.threadOf.get? group.id = some thread) :
      Saved me store { group with thread }
  | received (id owner sender : Identity) (command : Option GroupCommand) (thread : ThreadId)
      (home : store.threadOf.get? id = some thread) :
      Saved me store ((received (store.group? id) id owner thread).applied me sender command)

variable {host : Host} {free : Prop}

/-- The edits that the outbox makes. -/
def Edit.Allowed (host : Host) (free : Prop) (store : Store) : Edit → Prop
  | close _ => False
  | answer row status => free ∨ row.requestStatus.pendingReply = none ∧ status.pendingReply = none
  | group row => row.Saved host.settings.selfIdentity store
  | _ => True

theorem Edit.allowed_of_isPlain {store : Store} {edit : Edit} (plain : edit.isPlain) :
    edit.Allowed host free store := by
  cases edit <;> trivial

/-- Allowed edits lead from one state of the store to another. -/
abbrev Amends (host : Host) (free : Prop) : Store → Store → Prop :=
  Relation.ReflTransGen fun store next =>
    ∃ edit : Edit, edit.Allowed host free store ∧ edit.Fits store ∧ next = edit.make store

theorem Edits.amends {told : List Change} {store next : Store}
    (edits : Edits (·.isPlain) told store next) : Amends host free store next := by
  refine Relation.ReflTransGen.mono ?_ _ _ edits
  rintro _ _ ⟨edit, plain, fits, -⟩
  exact ⟨edit, edit.allowed_of_isPlain plain, fits, rfl⟩

theorem Amends.one {store : Store} (edit : Edit) (allowed : edit.Allowed host free store)
    (fits : edit.Fits store) : Amends host free store (edit.make store) :=
  .single ⟨edit, allowed, fits, rfl⟩

/-- A step of a run. -/
inductive Deed (host : Host) (free : Prop) (run next : Outbox.Run) : Prop
  | aside (said : List Publication) (store_eq : next.store = run.store)
      (publications_eq : next.publications = run.publications ++ said)
      (plain : free ∨ next.connected = run.connected ∧
        ∀ publication ∈ said, publication.event.reply? = none)
  | edit (edit : Edit) (allowed : edit.Allowed host free run.store) (fits : edit.Fits run.store)
      (store_eq : next.store = edit.make run.store) (connected_eq : next.connected = run.connected)
      (publications_eq : next.publications = run.publications)

/-- Steps of a run, one after the other. -/
abbrev Deeds (host : Host) (free : Prop) : Outbox.Run → Outbox.Run → Prop :=
  Relation.ReflTransGen (Deed host free)

namespace Deeds

variable {run next : Outbox.Run}

/-- Nothing happens that anybody could see. -/
theorem unseen (store_eq : next.store = run.store) (connected_eq : next.connected = run.connected)
    (publications_eq : next.publications = run.publications) : Deeds host free run next :=
  .single (.aside [] store_eq (by simp [publications_eq])
    (Or.inr ⟨connected_eq, fun _ mem => nomatch mem⟩))

theorem of_amends (amends : Amends host free run.store next.store)
    (connected_eq : next.connected = run.connected)
    (publications_eq : next.publications = run.publications) : Deeds host free run next := by
  have led (store : Store) (amends : Amends host free run.store store) :
      Deeds host free run { run with store } := by
    induction amends with
    | refl => exact .refl
    | tail _ last ih =>
      obtain ⟨edit, allowed, fits, rfl⟩ := last
      exact ih.tail (.edit edit allowed fits rfl rfl rfl)
  exact (led next.store amends).trans (unseen rfl connected_eq publications_eq)

/-- What every allowed edit keeps is kept. -/
theorem keeps {holds : Store → Prop} (deeds : Deeds host free run next) (start : holds run.store)
    (step : ∀ (store : Store) (edit : Edit), holds store → edit.Allowed host free store →
      edit.Fits store → holds (edit.make store)) : holds next.store := by
  induction deeds with
  | refl => exact start
  | tail _ last ih =>
    cases last with
    | aside said store_eq => exact store_eq ▸ ih
    | edit edit allowed fits store_eq => exact store_eq ▸ step _ edit ih allowed fits

theorem filed (deeds : Deeds host free run next) (filed : run.store.Filed) : next.store.Filed :=
  deeds.keeps filed fun _ edit filed _ _ => filed.make edit

end Deeds

/-- What plain edits keep. -/
def Stable (holds : Store → Prop) : Prop :=
  ∀ (store : Store) (edit : Edit), holds store → edit.isPlain → holds (edit.make store)

/-- From a store in order of which `before` holds, an action does deeds, and if it does not fail,
`after` holds of its answer and the store that it leaves. -/
def Action.Does (host : Host) (free : Prop) (before : Store → Prop) (action : Action α)
    (after : α → Store → Prop) : Prop :=
  ∀ run : Outbox.Run, run.store.Filed → before run.store →
    match action.on host run with
    | .ok a next => Deeds host free run next ∧ after a next.store
    | .error _ next => Deeds host free run next

namespace Action.Does

variable {before : Store → Prop} {after : α → Store → Prop}

/-! ## How actions are built -/

theorem pure {a : α} (holds : ∀ store, before store → after a store) :
    Does host free before (pure a) after :=
  fun _ _ start => ⟨.refl, holds _ start⟩

theorem skip {a : α} : Does host free before (Pure.pure a) fun _ => before :=
  pure fun _ holds => holds

theorem fail (failure : Failure) : Does host free before (Action.fail failure) after := by
  intro _ _ _
  rw [on_fail]

theorem bind {action : Action β} {next : β → Action α} {between : β → Store → Prop}
    (one : Does host free before action between)
    (two : ∀ b, Does host free (between b) (next b) after) :
    Does host free before (action >>= next) after := by
  intro run filed start
  have first := one run filed start
  rw [on_bind]
  cases ran : action.on host run with
  | error failure later => rw [ran] at first; exact first
  | ok b later =>
    rw [ran] at first
    obtain ⟨deeds, holds⟩ := first
    have second := two b later (deeds.filed filed) holds
    dsimp only
    cases ran : (next b).on host later with
    | error failure last => rw [ran] at second; exact deeds.trans second
    | ok a last => rw [ran] at second; exact ⟨deeds.trans second.1, second.2⟩

theorem mono {action : Action α} {stronger : Store → Prop} {weaker : α → Store → Prop}
    (does : Does host free before action after)
    (pre : ∀ store, store.Filed → stronger store → before store)
    (post : ∀ a store, after a store → weaker a store) : Does host free stronger action weaker := by
  intro run filed start
  have done := does run filed (pre _ filed start)
  cases ran : action.on host run with
  | error failure later => rw [ran] at done; exact done
  | ok a later => rw [ran] at done; exact ⟨done.1, post _ _ done.2⟩

theorem pre {action : Action α} {stronger : Store → Prop} (does : Does host free before action after)
    (weaken : ∀ store, store.Filed → stronger store → before store) :
    Does host free stronger action after :=
  does.mono weaken fun _ _ h => h

theorem post {action : Action α} {weaker : α → Store → Prop} (does : Does host free before action after)
    (weaken : ∀ a store, after a store → weaker a store) : Does host free before action weaker :=
  does.mono (fun _ _ h => h) weaken

theorem map {action : Action β} {f : β → α} (does : Does host free before action fun b => after (f b)) :
    Does host free before (f <$> action) after := by
  rw [map_eq_pure_bind]
  exact does.bind fun b => pure fun _ holds => holds

theorem answer {action : Action β} {f : β → α} {rest : Store → Prop}
    (does : Does host free before action fun _ => rest) :
    Does host free before (action >>= fun b => Pure.pure (f b)) fun _ => rest :=
  does.bind fun _ => pure fun _ holds => holds

theorem read : Does host free before read fun a store => a = host ∧ before store := by
  intro run _ start
  rw [on_read]
  exact ⟨.refl, rfl, start⟩

theorem outbox : Does host free before Action.outbox fun _ => before := by
  intro run _ start
  rw [on_outbox]
  exact ⟨.refl, start⟩

theorem signal (told : Signal) : Does host free before (Action.signal told) fun _ => before := by
  intro run _ start
  rw [on_signal]
  exact ⟨.unseen rfl rfl rfl, start⟩

theorem issueServerId : Does host free before Action.issueServerId fun _ => before := by
  intro run _ start
  rw [on_issueServerId]
  exact ⟨.unseen rfl rfl rfl, start⟩

theorem setUploadService (known : Bool) :
    Does host free before (Action.setUploadService known) fun _ => before := by
  intro run _ start
  rw [on_setUploadService]
  exact ⟨.unseen rfl rfl rfl, start⟩

theorem setConnected (may : free) (connected : Bool) :
    Does host free before (Action.setConnected connected) fun _ => before := by
  intro run _ start
  rw [on_setConnected]
  exact ⟨.single (.aside [] rfl (by simp) (Or.inl may)), start⟩

theorem publish {event : Event} (plain : free ∨ event.reply? = none) :
    Does host free before (Action.publish event) fun _ => before := by
  intro run _ start
  rw [on_publish]
  refine ⟨.single (.aside _ rfl rfl (plain.imp_right fun plain => ⟨rfl, fun publication mem => ?_⟩)), start⟩
  rw [List.mem_singleton.1 mem]
  exact plain

theorem attempt {action : Action α} (does : Does host free before action fun _ _ => True) :
    Does host free before (Action.attempt action) fun _ _ => True := by
  intro run filed start
  have done := does run filed start
  rw [on_attempt]
  cases ran : action.on host run with
  | error failure later => rw [ran] at done; exact ⟨done, trivial⟩
  | ok a later => rw [ran] at done; exact done

theorem forM {items : List β} {action : β → Action Unit}
    (each : ∀ item ∈ items, Does host free before (action item) fun _ => before) :
    Does host free before (items.forM action) fun _ => before := by
  induction items with
  | nil => exact pure fun _ holds => holds
  | cons item rest ih =>
    refine (each item List.mem_cons_self).bind fun _ => ih fun other mem => ?_
    exact each other (List.mem_cons_of_mem _ mem)

/-! ## Uses of the store -/

theorem look (call : StoreCall) (f : Store → α) :
    Does host free before (Action.look call f) fun a store => a = f store ∧ before store := by
  intro run _ start
  rcases @on_look_or host run α call f with ran | ⟨failure, ran⟩
  · rw [ran]
    exact ⟨.refl, rfl, start⟩
  · rw [ran]

theorem commit {call : StoreCall} {f : Store → Committed α}
    (amends : ∀ store, store.Filed → before store → Amends host free store (f store).store) :
    Does host free before (Action.commit call f) fun a store => ∃ earlier, earlier.Filed ∧
      before earlier ∧ a = (f earlier).value ∧ store = (f earlier).store := by
  intro run filed start
  rcases @on_commit_or host run α call f with ran | ⟨failure, ran⟩
  · rw [ran]
    exact ⟨.of_amends (amends _ filed start) rfl rfl, run.store, filed, start, rfl, rfl⟩
  · rw [ran]

theorem commit? {call : StoreCall} {f : Store → Except Failure (Committed α)}
    (amends : ∀ store committed, store.Filed → before store → f store = .ok committed →
      Amends host free store committed.store) :
    Does host free before (Action.commit? call f) fun _ _ => True := by
  intro run filed start
  rcases @on_commit?_or host run α call f with ⟨committed, done, ran⟩ | ⟨failure, ran⟩
  · rw [ran]
    exact ⟨.of_amends (amends _ _ filed start done) rfl rfl, trivial⟩
  · rw [ran]

/-- What plain edits keep is kept by a write that is made of them. -/
theorem plain {kept : Store → Prop} {call : StoreCall} {f : Store → Committed α}
    (edits : ∀ store, store.Filed → before store →
      Edits (·.isPlain) (f store).changes store (f store).store)
    (start : ∀ store, before store → kept store) (stable : Stable kept) :
    Does host free before (Action.commit call f) fun _ => kept := by
  refine (commit fun store filed holds => (edits store filed holds).amends).post ?_
  rintro _ store ⟨earlier, filed, holds, -, rfl⟩
  exact (edits earlier filed holds).keeps (start earlier holds) fun store edit kept plain _ =>
    stable store edit kept plain

end Action.Does

end Messenger

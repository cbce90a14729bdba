/-
# Actions on a store that never fails

`action.on host run` is what an action makes of a run that is under way.  The equations below say
it of every step from which actions are built, as long as the host makes no use of the store fail
(`Host.Faultless`): what is asked of the store is then answered, what is written to it is taken
over, and only the program itself can give up.

For an action that is long and does not give up, `Action.Succeeds` says what it comes to without an
equation for every step.
-/
import Messenger.Outbox.Service
import Messenger.Proofs.Store.Writes

namespace Messenger

/-- The store never fails. -/
def Host.Faultless (host : Host) : Prop := ∀ call, host.fault call = none

namespace Action

/-- What an action makes of a run. -/
def on (action : Action α) (host : Host) (run : Outbox.Run) :
    EStateM.Result Failure Outbox.Run α :=
  ReaderT.run action host run

variable {host : Host} {run : Outbox.Run}

theorem run_of_ok {action : Action α} {outbox : Outbox} {a : α} {next : Outbox.Run}
    (ran : action.on host { outbox with } = .ok a next) : action.run host outbox =
      ⟨.ok a, next.toOutbox, next.publications, next.changes, next.signals⟩ := by
  unfold on at ran
  unfold Action.run
  rw [ran]

theorem run_of_error {action : Action α} {outbox : Outbox} {failure : Failure} {next : Outbox.Run}
    (ran : action.on host { outbox with } = .error failure next) : action.run host outbox =
      ⟨.error failure, next.toOutbox, next.publications, next.changes, next.signals⟩ := by
  unfold on at ran
  unfold Action.run
  rw [ran]

@[simp] theorem on_pure (a : α) : (pure a : Action α).on host run = .ok a run := rfl

@[simp] theorem on_bind (action : Action α) (next : α → Action β) :
    (action >>= next).on host run =
      match action.on host run with
      | .ok a later => (next a).on host later
      | .error failure later => .error failure later := by
  unfold on
  rw [ReaderT.run_bind]
  show EStateM.bind _ _ run = _
  unfold EStateM.bind
  cases ReaderT.run action host run <;> rfl

theorem ok_of_bind {action : Action β} {next : β → Action α} {a : α} {last : Outbox.Run}
    (ran : (action >>= next).on host run = .ok a last) :
    ∃ b middle, action.on host run = .ok b middle ∧ (next b).on host middle = .ok a last := by
  rw [on_bind] at ran
  cases first : action.on host run with
  | error failure middle =>
    rw [first] at ran
    cases ran
  | ok b middle =>
    rw [first] at ran
    exact ⟨b, middle, rfl, ran⟩

@[simp] theorem on_map (action : Action α) (f : α → β) :
    (f <$> action).on host run =
      match action.on host run with
      | .ok a later => .ok (f a) later
      | .error failure later => .error failure later := by
  rw [map_eq_pure_bind, on_bind]
  rfl

theorem on_discard (action : Action α) : (discard action).on host run =
    match action.on host run with
    | .ok _ later => .ok () later
    | .error failure later => .error failure later :=
  on_map action fun _ => ()

@[simp] theorem on_fail (failure : Failure) :
    (fail failure : Action α).on host run = .error failure run := rfl

@[simp] theorem on_read : (read : Action Host).on host run = .ok host run := rfl

theorem on_get : (get : Action Outbox.Run).on host run = .ok run run := rfl

@[simp] theorem on_outbox : outbox.on host run = .ok run.toOutbox run := rfl

@[simp] theorem on_publish (event : Event) : (publish event).on host run =
    .ok () { run with publications := run.publications ++ [⟨event, run.store⟩] } := rfl

@[simp] theorem on_signal (told : Signal) : (signal told).on host run =
    .ok () { run with signals := run.signals ++ [told] } := rfl

@[simp] theorem on_setConnected (connected : Bool) :
    (setConnected connected).on host run = .ok () { run with connected } := rfl

@[simp] theorem on_setUploadService (uploadService : Bool) :
    (setUploadService uploadService).on host run = .ok () { run with uploadService } := rfl

@[simp] theorem on_issueServerId : issueServerId.on host run =
    .ok (host.serverId run.issued) { run with issued := run.issued + 1 } := rfl

/-- It makes no difference whether the surroundings are read before or after a name is used. -/
theorem issueServerId_read (next : String → Host → Action α) :
    (issueServerId >>= fun name => read >>= next name) =
      read >>= fun host => issueServerId >>= fun name => next name host := rfl

@[simp] theorem on_accept (committed : Committed α) : (accept committed).on host run =
    .ok committed.value
      { run with store := committed.store, changes := run.changes ++ committed.changes } := rfl

/-- Going on after a failure keeps what was done before it. -/
@[simp] theorem on_attempt (action : Action α) : (attempt action).on host run =
    match action.on host run with
    | .ok _ later => .ok () later
    | .error _ later => .ok () later := by
  show EStateM.tryCatch (ReaderT.run (discard action) host) (fun _ => pure ()) run = _
  unfold EStateM.tryCatch
  rw [show ReaderT.run (discard action) host run = _ from on_discard action]
  cases action.on host run <;> rfl

theorem on_reach_of_works {call : StoreCall} (works : host.fault call = none) :
    (reach call).on host run = .ok () run := by
  rw [reach, on_bind, on_read]
  simp only [works]
  rfl

theorem on_reach_of_fault {call : StoreCall} {failure : Failure}
    (fault : host.fault call = some failure) : (reach call).on host run = .error failure run := by
  rw [reach, on_bind, on_read]
  simp only [fault]
  rfl

/-- The host may make any use of the store fail; nothing has happened then. -/
theorem on_reach_or (call : StoreCall) : (reach call).on host run = .ok () run ∨
    ∃ failure, (reach call).on host run = .error failure run := by
  cases fault : host.fault call with
  | none => exact Or.inl (on_reach_of_works fault)
  | some failure => exact Or.inr ⟨failure, on_reach_of_fault fault⟩

theorem on_look_or (call : StoreCall) (f : Store → α) :
    (look call f).on host run = .ok (f run.store) run ∨
      ∃ failure, (look call f).on host run = .error failure run := by
  rw [look, on_bind]
  rcases @on_reach_or host run call with reached | ⟨failure, failed⟩
  · rw [reached]
    exact Or.inl rfl
  · rw [failed]
    exact Or.inr ⟨failure, rfl⟩

/-- Whatever the host does, a write is taken over as a whole, or nothing has happened. -/
theorem on_commit?_or (call : StoreCall) (f : Store → Except Failure (Committed α)) :
    (∃ committed, f run.store = .ok committed ∧ (commit? call f).on host run = .ok committed.value
      { run with store := committed.store, changes := run.changes ++ committed.changes }) ∨
    ∃ failure, (commit? call f).on host run = .error failure run := by
  rw [commit?, on_bind]
  rcases @on_reach_or host run call with reached | ⟨failure, failed⟩
  · rw [reached]
    dsimp only
    rw [on_bind, on_get]
    dsimp only
    cases f run.store with
    | ok committed => exact Or.inl ⟨committed, rfl, on_accept committed⟩
    | error failure => exact Or.inr ⟨failure, on_fail failure⟩
  · rw [failed]
    exact Or.inr ⟨failure, rfl⟩

theorem on_commit_or (call : StoreCall) (f : Store → Committed α) :
    (commit call f).on host run = .ok (f run.store).value { run with
      store := (f run.store).store, changes := run.changes ++ (f run.store).changes } ∨
    ∃ failure, (commit call f).on host run = .error failure run := by
  refine (@on_commit?_or host run α call fun store => .ok (f store)).imp_left ?_
  rintro ⟨committed, done, ran⟩
  cases done
  exact ran

section
variable {call : StoreCall} (works : host.fault call = none)
include works

theorem on_look_of_works (f : Store → α) : (look call f).on host run = .ok (f run.store) run := by
  rw [look, on_bind, on_reach_of_works works]
  rfl

theorem on_commit_of_works (f : Store → Committed α) : (commit call f).on host run =
    .ok (f run.store).value { run with
      store := (f run.store).store, changes := run.changes ++ (f run.store).changes } := by
  rw [commit, on_bind, on_reach_of_works works]
  show (accept (f run.store)).on host run = _
  rw [on_accept]

end

theorem on_look_of_fault {call : StoreCall} {failure : Failure}
    (fault : host.fault call = some failure) (f : Store → α) :
    (look call f).on host run = .error failure run := by
  rw [look, on_bind, on_reach_of_fault fault]

theorem on_commit_of_fault {call : StoreCall} {failure : Failure}
    (fault : host.fault call = some failure) (f : Store → Committed α) :
    (commit call f).on host run = .error failure run := by
  rw [commit, on_bind, on_reach_of_fault fault]

section
variable (faultless : host.Faultless)
include faultless

theorem on_reach (call : StoreCall) : (reach call).on host run = .ok () run :=
  on_reach_of_works (faultless call)

theorem on_look (call : StoreCall) (f : Store → α) :
    (look call f).on host run = .ok (f run.store) run :=
  on_look_of_works (faultless call) f

theorem on_commit (call : StoreCall) (f : Store → Committed α) : (commit call f).on host run =
    .ok (f run.store).value { run with
      store := (f run.store).store, changes := run.changes ++ (f run.store).changes } :=
  on_commit_of_works (faultless call) f

theorem on_commit? (call : StoreCall) (f : Store → Except Failure (Committed α)) :
    (commit? call f).on host run =
      match f run.store with
      | .ok committed => .ok committed.value
          { run with store := committed.store, changes := run.changes ++ committed.changes }
      | .error failure => .error failure run := by
  rw [commit?, on_bind, on_reach faultless]
  show (match f run.store with
    | .ok committed => accept committed
    | .error failure => fail failure : Action α).on host run = _
  cases f run.store with
  | ok committed => exact on_accept committed
  | error failure => exact on_fail failure

theorem on_updateMessage (message : Message) (stored : run.store.messages.has message.id) :
    ∃ next, (commit? .updateMessage (·.updateMessage message)).on host run = .ok () next ∧
      next.toOutbox = { run.toOutbox with store := run.store.revise (some message) } ∧
      next.publications = run.publications := by
  obtain ⟨committed, done, after⟩ := Write.after_updateMessage message stored
  rw [on_commit? faultless, done]
  refine ⟨_, rfl, ?_, rfl⟩
  rw [Store.revise, after]

end

@[simp] theorem on_ite {c : Prop} [Decidable c] (yes no : Action α) :
    (if c then yes else no).on host run = if c then yes.on host run else no.on host run := by
  split <;> rfl

theorem on_forM_publish {items : List α} (event : α → Event) :
    (items.forM fun item => publish (event item)).on host run = .ok () { run with
      publications := run.publications ++ items.map fun item => ⟨event item, run.store⟩ } := by
  induction items generalizing run with
  | nil => simp
  | cons item rest ih =>
    have first : ((item :: rest).forM fun item => publish (event item)) =
        publish (event item) >>= fun _ => rest.forM fun item => publish (event item) := rfl
    rw [first, on_bind, on_publish]
    dsimp only
    rw [ih]
    simp

end Action

/-! ## Actions that come to their end -/

/-- From an outbox of which `before` holds, the action comes to its end, and `after` holds of its
answer and of the outbox that it leaves. -/
def Action.Succeeds (host : Host) (before : Outbox → Prop) (action : Action α)
    (after : α → Outbox → Prop) : Prop :=
  ∀ run : Outbox.Run, before run.toOutbox →
    ∃ a next, action.on host run = .ok a next ∧ after a next.toOutbox

namespace Action.Succeeds

variable {host : Host} {before : Outbox → Prop} {after : α → Outbox → Prop}

theorem pure {a : α} (holds : ∀ outbox, before outbox → after a outbox) :
    Succeeds host before (pure a) after :=
  fun run start => ⟨a, run, on_pure a, holds _ start⟩

theorem bind {action : Action β} {next : β → Action α} {between : β → Outbox → Prop}
    (one : Succeeds host before action between)
    (two : ∀ b, Succeeds host (between b) (next b) after) :
    Succeeds host before (action >>= next) after := by
  intro run start
  obtain ⟨b, middle, ran, holds⟩ := one run start
  obtain ⟨a, last, ran', holds'⟩ := two b middle holds
  refine ⟨a, last, ?_, holds'⟩
  rw [on_bind, ran]
  exact ran'

theorem mono {action : Action α} {weaker : α → Outbox → Prop}
    (succeeds : Succeeds host before action after)
    (post : ∀ a outbox, after a outbox → weaker a outbox) :
    Succeeds host before action weaker := by
  intro run start
  obtain ⟨a, next, ran, holds⟩ := succeeds run start
  exact ⟨a, next, ran, post a _ holds⟩

theorem map {action : Action β} {f : β → α}
    (succeeds : Succeeds host before action fun b => after (f b)) :
    Succeeds host before (f <$> action) after := by
  rw [map_eq_pure_bind]
  exact succeeds.bind fun b => pure fun _ holds => holds

theorem run {action : Action α} (succeeds : Succeeds host before action after) {outbox : Outbox}
    (start : before outbox) : ∃ a, (action.run host outbox).result = .ok a ∧
      after a (action.run host outbox).outbox := by
  obtain ⟨a, next, ran, holds⟩ := succeeds { outbox with } start
  rw [run_of_ok ran]
  exact ⟨a, rfl, holds⟩

theorem knowing {action : Action α} {fact : Prop} (succeeds : fact → Succeeds host before action after) :
    Succeeds host (fun outbox => fact ∧ before outbox) action after :=
  fun run start => succeeds start.1 run start.2

theorem reading {next : Host → Action α} (rest : Succeeds host before (next host) after) :
    Succeeds host before (read >>= next) after := by
  intro run start
  obtain ⟨a, last, ran, holds⟩ := rest run start
  refine ⟨a, last, ?_, holds⟩
  rw [on_bind, on_read]
  exact ran

theorem issueServerId
    (keeps : ∀ outbox, before outbox → before { outbox with issued := outbox.issued + 1 }) :
    Succeeds host before issueServerId fun _ => before :=
  fun _ start => ⟨_, _, on_issueServerId, keeps _ start⟩

section
variable (faultless : host.Faultless)
include faultless

theorem look (call : StoreCall) (f : Store → α) :
    Succeeds host before (look call f) fun a outbox => a = f outbox.store ∧ before outbox :=
  fun run start => ⟨_, run, on_look faultless call f, rfl, start⟩

theorem commit {call : StoreCall} {f : Store → Committed α}
    (holds : ∀ outbox, before outbox →
      after (f outbox.store).value { outbox with store := (f outbox.store).store }) :
    Succeeds host before (commit call f) after :=
  fun _ start => ⟨_, _, on_commit faultless call f, holds _ start⟩

end

end Action.Succeeds

end Messenger

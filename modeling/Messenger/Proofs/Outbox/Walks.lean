/-
# Every action is a walk

On a store that never fails, whatever an action does is a sequence of moves that fit
(`Action.Walks`), also when it gives up half-way.  The rules follow the way in which actions are
built; then comes one lemma for each action, under the action's own name.  Starting a message over,
scans and the end of an upload are moves that not every action may make, so the lemmas say of which
`kind` the moves are.

A message of ours is named and stored in one move, although the program names it first and stores
it later; nothing can come between the two, and no name is ever used up for nothing (`Walks.post`).
-/
import Messenger.Proofs.Outbox.Moves
import Messenger.Proofs.Outbox.Runs
import Messenger.Proofs.Store.Rows

namespace Messenger

/-- A run has gone on by moves of this kind. -/
def Goes (host : Host) (kind : Move → Prop) (run next : Outbox.Run) : Prop :=
  ∃ published, next.publications = run.publications ++ published ∧
    Walk host kind run.toOutbox published next.toOutbox

namespace Goes

variable {host : Host} {kind : Move → Prop} {run next later : Outbox.Run}

theorem refl (run : Outbox.Run) : Goes host kind run run := ⟨[], by simp, .refl _⟩

theorem trans (one : Goes host kind run next) (two : Goes host kind next later) :
    Goes host kind run later := by
  obtain ⟨first, eq, before⟩ := one
  obtain ⟨second, eq', after⟩ := two
  exact ⟨first ++ second, by rw [eq', eq, List.append_assoc], before.trans after⟩

theorem move (move : Move) (allowed : kind move) (fits : move.Fits host run.toOutbox)
    (left : next.toOutbox = (move.make run.toOutbox).1)
    (published : next.publications = run.publications ++ (move.make run.toOutbox).2) :
    Goes host kind run next :=
  ⟨_, published, left ▸ (Walk.refl run.toOutbox).move move allowed fits⟩

end Goes

/-- From an outbox of which `before` holds, an action walks, and if it does not give up, `after`
holds of its answer and the outbox that it leaves. -/
def Action.Walks (host : Host) (kind : Move → Prop) (before : Outbox → Prop) (action : Action α)
    (after : α → Outbox → Prop) : Prop :=
  ∀ run : Outbox.Run, before run.toOutbox →
    match action.on host run with
    | .ok a next => Goes host kind run next ∧ after a next.toOutbox
    | .error _ next => Goes host kind run next

namespace Action.Walks

variable {host : Host} {kind : Move → Prop} {before : Outbox → Prop} {after : α → Outbox → Prop}

theorem pure {a : α} (holds : ∀ outbox, before outbox → after a outbox) :
    Walks host kind before (pure a) after :=
  fun run start => ⟨.refl run, holds _ start⟩

theorem skip {a : α} : Walks host kind before (Pure.pure a) fun _ => before :=
  pure fun _ holds => holds

theorem fail (failure : Failure) : Walks host kind before (Action.fail failure) after := by
  intro run _
  rw [on_fail]
  exact .refl run

theorem bind {action : Action β} {next : β → Action α} {between : β → Outbox → Prop}
    (one : Walks host kind before action between)
    (two : ∀ b, Walks host kind (between b) (next b) after) :
    Walks host kind before (action >>= next) after := by
  intro run start
  have first := one run start
  rw [on_bind]
  cases ran : action.on host run with
  | error failure later => rw [ran] at first; exact first
  | ok b later =>
    rw [ran] at first
    obtain ⟨goes, holds⟩ := first
    have second := two b later holds
    dsimp only
    cases ran : (next b).on host later with
    | error failure last => rw [ran] at second; exact goes.trans second
    | ok a last => rw [ran] at second; exact ⟨goes.trans second.1, second.2⟩

theorem mono {action : Action α} {stronger : Outbox → Prop} {weaker : α → Outbox → Prop}
    (walks : Walks host kind before action after) (pre : ∀ outbox, stronger outbox → before outbox)
    (post : ∀ a outbox, after a outbox → weaker a outbox) :
    Walks host kind stronger action weaker := by
  intro run start
  have walked := walks run (pre _ start)
  cases ran : action.on host run with
  | error failure later => rw [ran] at walked; exact walked
  | ok a later => rw [ran] at walked; exact ⟨walked.1, post _ _ walked.2⟩

/-- What is so wherever the action may start can be used in showing that it walks. -/
theorem given {action : Action α} {fact : Prop} (so : ∀ outbox, before outbox → fact)
    (walks : fact → Walks host kind before action after) : Walks host kind before action after :=
  fun run start => walks (so _ start) run start

theorem map {action : Action β} {f : β → α} (walks : Walks host kind before action fun b => after (f b)) :
    Walks host kind before (f <$> action) after := by
  rw [map_eq_pure_bind]
  exact walks.bind fun b => pure fun _ holds => holds

theorem answer {action : Action β} {f : β → α} (walks : Walks host kind before action fun _ _ => True) :
    Walks host kind before (action >>= fun b => Pure.pure (f b)) fun _ _ => True :=
  walks.bind fun _ => pure fun _ holds => holds

theorem read : Walks host kind before read fun a outbox => a = host ∧ before outbox := by
  intro run start
  rw [on_read]
  exact ⟨.refl run, rfl, start⟩

theorem outbox : Walks host kind before Action.outbox fun a outbox => a = outbox ∧ before outbox := by
  intro run start
  rw [on_outbox]
  exact ⟨.refl run, rfl, start⟩

theorem signal (told : Signal) : Walks host kind before (Action.signal told) fun _ => before := by
  intro run start
  rw [on_signal]
  exact ⟨⟨[], by simp, .refl _⟩, start⟩

theorem of_move {action : Action α} (move : Outbox → Move)
    (allowed : ∀ outbox, before outbox → kind (move outbox))
    (fits : ∀ outbox, before outbox → (move outbox).Fits host outbox)
    (made : ∀ run : Outbox.Run, before run.toOutbox → ∃ a next, action.on host run = .ok a next ∧
      next.toOutbox = ((move run.toOutbox).make run.toOutbox).1 ∧
      next.publications = run.publications ++ ((move run.toOutbox).make run.toOutbox).2 ∧
      after a next.toOutbox) :
    Walks host kind before action after := by
  intro run start
  obtain ⟨a, next, eq, left, published, holds⟩ := made run start
  rw [eq]
  exact ⟨.move (move run.toOutbox) (allowed _ start) (fits _ start) left published, holds⟩

theorem announce {event : Event} (allowed : kind (.announce event))
    (fits : ∀ outbox, before outbox → (Move.announce event).Fits host outbox) :
    Walks host kind before (publish event) fun _ => before :=
  of_move (fun _ => .announce event) (fun _ _ => allowed) fits fun _ start =>
    ⟨_, _, on_publish event, rfl, rfl, start⟩

theorem tell {event : Event} (allowed : kind (.announce event)) (subject : event.subject? = none)
    (media : event.media? = none) : Walks host kind before (publish event) fun _ => before :=
  announce allowed fun _ _ => ⟨subject, by simp [media]⟩

theorem complete {id : MessageId} (allowed : kind (.complete id))
    (fits : ∀ outbox, before outbox → (Move.complete id).Fits host outbox) :
    Walks host kind before (publish (.sendMessageRequest id)) fun _ => before :=
  of_move (fun _ => .complete id) (fun _ _ => allowed) fits fun _ start =>
    ⟨_, _, on_publish _, rfl, rfl, start⟩

theorem attempt {action : Action α} (walks : Walks host kind before action fun _ _ => True) :
    Walks host kind before (Action.attempt action) fun _ _ => True := by
  intro run start
  have walked := walks run start
  rw [on_attempt]
  cases ran : action.on host run with
  | error failure later => rw [ran] at walked; exact ⟨walked, trivial⟩
  | ok a later => rw [ran] at walked; exact walked

theorem forM {items : List β} {action : β → Action Unit}
    (each : ∀ item ∈ items, Walks host kind before (action item) fun _ => before) :
    Walks host kind before (items.forM action) fun _ => before := by
  induction items with
  | nil => exact pure fun _ holds => holds
  | cons item rest ih =>
    refine (each item List.mem_cons_self).bind fun _ => ih fun other mem => ?_
    exact each other (List.mem_cons_of_mem _ mem)

section
variable (faultless : host.Faultless)
include faultless

theorem look (call : StoreCall) (f : Store → α) :
    Walks host kind before (Action.look call f) fun a outbox => a = f outbox.store ∧ before outbox := by
  intro run start
  rw [on_look faultless]
  exact ⟨.refl run, rfl, start⟩

theorem commit {call : StoreCall} {f : Store → Committed α} (entry : Write)
    (allowed : kind (.write entry)) (ours : ∀ outbox, before outbox → entry.Ours outbox.store)
    (same : ∀ store, entry.after store = (f store).store) :
    Walks host kind before (Action.commit call f) fun a outbox => ∃ earlier, before earlier ∧
      a = (f earlier.store).value ∧ outbox = { earlier with store := (f earlier.store).store } := by
  refine of_move (fun _ => .write entry) (fun _ _ => allowed) ours fun run start => ?_
  refine ⟨_, _, on_commit faultless _ _, ?_, ?_, run.toOutbox, start, rfl, rfl⟩
  · simp [Move.make, same]
  · simp [Move.make]

end

end Action.Walks

/-! ## Handing over -/

namespace Outbox

open Messenger.Action

variable {host : Host} {kind : Move → Prop} (faultless : host.Faultless)
include faultless

theorem on_threadStalled (message : Message) (run : Run) : (threadStalled message).on host run =
    .ok (!message.thread.isNone && run.store.isHeldBack message) run := by
  unfold threadStalled
  rw [on_ite, on_pure, on_look faultless]
  cases message.thread.isNone <;> rfl

theorem on_dispatchFresh (message : Message) (run : Run) : (dispatchFresh message).on host run =
    .ok () { run with publications := run.publications ++
      (run.toOutbox.firstAttempt message).toList.map fun dispatch => run.publication dispatch.event } := by
  unfold dispatchFresh firstAttempt
  simp only [on_bind, on_ite, on_pure, on_threadStalled faultless, on_publish, on_outbox]
  by_cases pending : message.status = .pending
  · simp [pending]
  rw [if_neg pending, if_neg pending]
  cases !message.thread.isNone && run.store.isHeldBack message with
  | true => simp
  | false =>
    cases message.needsUpload with
    | false => rfl
    | true => cases run.uploadService <;> simp [publication, Dispatch.event]

theorem on_membersFor (messages : List Message) (run : Run) :
    (membersFor messages).on host run = .ok (run.store.membersFor messages) run := by
  unfold membersFor Store.membersFor
  rw [on_ite, on_pure, on_look faultless]
  split <;> rfl

theorem on_resend (options : ScanOptions) (run : Run) : ∃ next,
    (resend options).on host run = .ok (run.toOutbox.plan options) next ∧
      next.toOutbox = ((Move.scan options).make run.toOutbox).1 ∧
      next.publications = run.publications ++ ((Move.scan options).make run.toOutbox).2 := by
  unfold resend
  simp only [on_bind, on_ite, on_pure, on_look faultless, on_membersFor faultless, on_outbox,
    on_forM_publish, on_commit faultless]
  show ∃ next, (if (run.toOutbox.plan options).delete.isEmpty = true then _ else _) = _ ∧ _
  split
  case isTrue none =>
    refine ⟨_, rfl, ?_, rfl⟩
    rw [Move.make, if_pos none]
  case isFalse some =>
    refine ⟨_, rfl, ?_, rfl⟩
    rw [Move.make, if_neg some]
    rfl

end Outbox

namespace Action.Walks

open Outbox

variable {host : Host} {kind : Move → Prop} {before : Outbox → Prop} (faultless : host.Faultless)
include faultless

/-- The first attempt for a message that was just written, be it new or prepared. -/
theorem dispatchFresh {message : Message} (move : Move)
    (same : ∀ outbox, move.make outbox = (Move.attempt message.id).make outbox) (allowed : kind move)
    (stored : ∀ outbox, before outbox → outbox.store.HoldsOpen message)
    (fits : ∀ outbox, before outbox → move.Fits host outbox) :
    Walks host kind before (dispatchFresh message) fun _ => before := by
  refine of_move (fun _ => move) (fun _ _ => allowed) fits fun run start => ?_
  refine ⟨_, _, on_dispatchFresh faultless message run, ?_, ?_, start⟩
  · rw [same]
    rfl
  · rw [same]
    simp [Move.make, (stored _ start).stored]

theorem resend (options : ScanOptions) (allowed : kind (.scan options)) :
    Walks host kind before (resend options) fun _ _ => True := by
  refine of_move (fun _ => .scan options) (fun _ _ => allowed) (fun _ _ => trivial) fun run _ => ?_
  obtain ⟨next, ran, left, published⟩ := on_resend faultless options run
  exact ⟨_, next, ran, left, published, trivial⟩

/-! ## New messages -/

theorem loadThread (id : ThreadId) : Walks host kind before (loadThread id)
    fun thread outbox => outbox.store.threads.get? id = some thread ∧ before outbox := by
  refine (look faultless _ _).bind fun found => ?_
  cases found with
  | none => exact fail _
  | some thread => exact pure fun outbox ⟨eq, holds⟩ => ⟨eq.symm, holds⟩

theorem loadGroup (id : Identity) : Walks host kind before (loadGroup id)
    fun group outbox => outbox.store.group? id = some group ∧ before outbox := by
  refine (look faultless _ _).bind fun found => ?_
  cases found with
  | none => exact fail _
  | some group => exact pure fun outbox ⟨eq, holds⟩ => ⟨eq.symm, holds⟩

theorem groupRefOf (thread : Thread) : Walks host kind before (groupRefOf thread)
    fun ref outbox => (∀ group ∈ ref, ∃ stored, outbox.store.group? thread.peer = some stored ∧
      group = ⟨stored.id, stored.owner⟩) ∧ before outbox := by
  unfold Outbox.groupRefOf
  split
  · refine (loadGroup faultless _).bind fun group => pure fun outbox ⟨found, holds⟩ => ⟨?_, holds⟩
    intro ref eq
    exact ⟨group, found, (Option.some.inj eq).symm⟩
  · exact pure fun outbox holds => ⟨fun _ eq => (nomatch eq), holds⟩

section
variable (basic : ∀ {move : Move}, move.isBasic → kind move)
include basic

theorem post {draft : String → MessageContent} {next : Message → Action α} {after : α → Outbox → Prop}
    (drafted : ∀ outbox name, before outbox → Drafted outbox.store (draft name))
    (outgoing : ∀ name, (draft name).direction = .outgoing)
    (named : ∀ name, (draft name).serverId = some name)
    (rest : ∀ message, Walks host kind
      (fun outbox => outbox.store.HoldsOpen message ∧ message.direction = .outgoing)
      (next message) after) :
    Walks host kind before (issueServerId >>= fun name =>
      Action.commit .insertMessage (·.insertMessage (draft name)) >>= next) after := by
  have stored : Walks host kind before (issueServerId >>= fun name =>
      Action.commit .insertMessage (·.insertMessage (draft name)))
      fun message outbox => outbox.store.HoldsOpen message ∧ message.direction = .outgoing := by
    refine of_move (fun outbox => .post (draft (host.serverId outbox.issued)))
      (fun _ _ => basic rfl) (fun outbox start => ?_) fun run start => ?_
    · exact ⟨drafted outbox _ start, outgoing _, named _⟩
    · rw [on_bind, on_issueServerId]
      dsimp only
      rw [on_commit faultless]
      refine ⟨_, _, rfl, rfl, ?_, ⟨run.store.message?_insertMessage _, ?_⟩, outgoing _⟩
      · simp [Move.make]
      · exact (drafted _ _ start).unhanded (outgoing _)
  have once := stored.bind rest
  rw [bind_assoc] at once
  exact once

omit basic in
theorem insertMessage {content : MessageContent} (allowed : kind (.write (.insertMessage content)))
    (drafted : ∀ outbox, before outbox → Drafted outbox.store content)
    (incoming : content.direction = .incoming) :
    Walks host kind before (Action.commit .insertMessage (·.insertMessage content))
      fun message outbox => outbox.store.message? message.id = some message := by
  refine Walks.mono (commit faultless (.insertMessage content) allowed
    (fun outbox start => ⟨drafted outbox start, incoming⟩) ?_) (fun _ holds => holds) ?_
  · exact fun _ => rfl
  rintro message outbox ⟨earlier, -, rfl, rfl⟩
  exact earlier.store.message?_insertMessage content

omit basic in
theorem updateMessage {message : Message} (allowed : kind (.write (.updateMessage message)))
    (revised : ∀ outbox, before outbox →
      ∃ old, outbox.store.messages.get? message.id = some old ∧ Revised old message) :
    Walks host kind before (Action.commit? .updateMessage (·.updateMessage message))
      fun _ outbox => outbox.store.message? message.id = some message := by
  intro run start
  rw [on_commit? faultless]
  cases done : run.store.updateMessage message with
  | error failure => exact .refl run
  | ok committed =>
    refine ⟨.move (.write (.updateMessage message)) allowed (revised _ start) ?_ ?_, ?_⟩
    · simp [Move.make, Write.after, Write.perform, done]
    · simp [Move.make]
    · show committed.store.message? message.id = some message
      rw [Store.message?, Store.updateMessage_messages done, Table.get?_put, if_pos rfl]

omit basic in
theorem ensureThread (peer : Identity) (isGroup : Bool)
    (allowed : kind (.write (.ensureThread peer isGroup))) :
    Walks host kind before (Action.commit .ensureThread (·.ensureThread peer isGroup))
      fun thread outbox => outbox.store.threadForPeer? peer = some thread ∧
        ∃ earlier, before earlier ∧ outbox.store = (earlier.store.ensureThread peer isGroup).store := by
  refine Walks.mono (commit faultless (.ensureThread peer isGroup) allowed (fun _ _ => trivial) ?_)
    (fun _ holds => holds) ?_
  · exact fun _ => rfl
  rintro thread outbox ⟨earlier, start, rfl, rfl⟩
  exact ⟨earlier.store.threadForPeer?_ensureThread peer isGroup, earlier, start, rfl⟩

theorem enqueue {draft : String → MessageContent}
    (drafted : ∀ outbox name, before outbox → Drafted outbox.store (draft name))
    (outgoing : ∀ name, (draft name).direction = .outgoing)
    (named : ∀ name, (draft name).serverId = some name) :
    Walks host kind before (issueServerId >>= fun name => enqueue (draft name)) fun _ _ => True :=
  post faultless basic drafted outgoing named fun message =>
    (dispatchFresh faultless (.attempt message.id) (fun _ => rfl) (basic rfl) (fun _ holds => holds.1)
      fun _ holds => ⟨message, holds.1, rfl, holds.2⟩).bind fun _ => pure fun _ _ => trivial

omit basic in
/-- A message is composed as its thread has it, and then named; what follows gives it the rest. -/
theorem compose {id : ThreadId} (thread : Thread) (mime : String) {next : MessageContent → Action α}
    {after : α → Outbox → Prop}
    (rest : ∀ (group : Option GroupRef) (draft : String → MessageContent),
      (∀ name, (draft name).ComposedIn thread group) → (∀ name, (draft name).serverId = some name) →
      Walks host kind
        (fun outbox => ∀ content : MessageContent, content.ComposedIn thread group →
          Drafted outbox.store content)
        (issueServerId >>= fun name => next (draft name)) after) :
    Walks host kind (fun outbox => outbox.store.threads.get? id = some thread)
      (compose thread mime >>= next) after := by
  unfold Outbox.compose
  simp only [bind_assoc, pure_bind]
  refine (groupRefOf faultless thread).bind fun group => read.bind fun host => ?_
  refine (rest group _ (fun _ => ?_) fun _ => rfl).mono ?_ fun _ _ holds => holds
  · exact ⟨rfl, rfl, rfl, rfl, rfl, rfl, nofun⟩
  · rintro outbox ⟨-, known, found⟩ content composed
    exact .composed id thread group found known composed

theorem composeAndEnqueue {id : ThreadId} (thread : Thread) (mime : String)
    {fill : MessageContent → MessageContent}
    (filled : ∀ content group, content.ComposedIn thread group → (fill content).ComposedIn thread group)
    (named : ∀ content, (fill content).serverId = content.serverId) :
    Walks host kind (fun outbox => outbox.store.threads.get? id = some thread)
      (Outbox.compose thread mime >>= fun content => Outbox.enqueue (fill content))
      fun _ _ => True := by
  refine compose faultless thread mime fun group draft composed name => ?_
  refine enqueue faultless basic (fun outbox one drafted => ?_) (fun one => ?_) fun one => ?_
  · exact drafted _ (filled _ group (composed one))
  · exact (filled _ group (composed one)).direction_eq
  · rw [named, name]

theorem sendText (thread : ThreadId) (text : String) (inReplyTo : Option MessageId) :
    Walks host kind before (sendText thread text inReplyTo) fun _ _ => True := by
  refine (loadThread faultless thread).bind fun row => ?_
  refine (composeAndEnqueue faultless basic row textMime ?_ ?_).mono (fun _ holds => holds.1)
    fun _ _ h => h
  · exact fun _ _ composed => { composed with }
  · exact fun _ => rfl

theorem sendLocation (thread : ThreadId) (location : Location) :
    Walks host kind before (sendLocation thread location) fun _ _ => True := by
  refine (loadThread faultless thread).bind fun row => ?_
  refine (composeAndEnqueue faultless basic row locationMime ?_ ?_).mono (fun _ holds => holds.1)
    fun _ _ h => h
  · exact fun _ _ composed => { composed with }
  · exact fun _ => rfl

theorem sendBinary (thread : ThreadId) (binary : Binary) :
    Walks host kind before (sendBinary thread binary) fun _ _ => True := by
  refine (loadThread faultless thread).bind fun row => ?_
  refine (compose faultless row binary.mime fun group draft composed name => ?_).mono
    (fun _ holds => holds.1) fun _ _ h => h
  rw [issueServerId_read]
  refine read.bind fun host => ?_
  dsimp only
  split
  · refine post faultless basic (fun outbox one holds => ?_) ?_ name fun message => ?_
    · exact holds.2 _ { composed one with file := fun _ mem => Option.some.inj mem ▸ rfl }
    · exact fun one => (composed one).direction_eq
    · refine (announce (basic rfl) fun outbox holds => ⟨rfl, fun id mem => ?_⟩).bind fun _ =>
        pure fun _ _ => trivial
      rw [← Option.some.inj mem]
      exact ⟨message, holds.1.stored, holds.2⟩
  · refine enqueue faultless basic (fun outbox one holds => ?_) ?_ name
    · exact holds.2 _ { composed one with file := fun _ mem => Option.some.inj mem ▸ rfl }
    · exact fun one => (composed one).direction_eq

end

end Action.Walks

end Messenger

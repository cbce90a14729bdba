/-
# A request that is refused has done nothing

A request is a sequence of writes, names that are used up and events that are published, and there
is nothing that would undo the first of them when a later one cannot be done.  None has to be
undone: what a request needs is looked up before it begins.

| a request needs | and else is refused as |
| :-- | :-- |
| the row of its thread | `invalidOperation`, the thread is unknown |
| the row of its group, or of the group of its thread | `groupNotFound` |
| our own identity | `invalidOperation`, it is not configured |
| the row of its message | `messageNotFound` |

`Request.vet` is this table as a function of the settings and the store.  An action is vetted by
such a function (`Vetted`) if it gives up for the reason that is found there, and then where it
began, and comes to its end if nothing is missing.  `refused_without_effect` says so of every
request.
-/
import Messenger.Proofs.Outbox.Arrival
import Messenger.Proofs.Outbox.Reconnect

namespace Messenger

/-! ## What is needed -/

/-- What was found; it fails if nothing was. -/
def Failure.unless (failure : Failure) : Option α → Except Failure α
  | some a => .ok a
  | none => .error failure

def Store.threadRow (store : Store) (id : ThreadId) : Except Failure Thread :=
  (Failure.invalidOperation ("unknown thread " ++ toString id.val)).unless (store.threads.get? id)

def Store.groupRow (store : Store) (id : Identity) : Except Failure Group :=
  (Failure.groupNotFound id.text).unless (store.group? id)

def Store.messageRow (store : Store) (id : MessageId) : Except Failure Message :=
  (Failure.messageNotFound id.val).unless (store.message? id)

def Settings.me (settings : Settings) : Except Failure Identity :=
  (Failure.invalidOperation "self identity not configured").unless settings.selfIdentity

/-- A message goes to a thread that is there, and to a group that is there if the thread is one of
a group. -/
def Store.vetThread (store : Store) (id : ThreadId) : Except Failure Unit := do
  let row ← store.threadRow id
  if row.isGroup then discard (store.groupRow row.peer)

/-- Looks up what a request needs. -/
def Outbox.Request.vet (settings : Settings) (store : Store) : Request → Except Failure Unit
  | .sendText thread .. | .sendLocation thread _ | .sendBinary thread _ => store.vetThread thread
  | .createGroup .. => discard settings.me
  | .addGroupMembers group _ => do
    let _ ← settings.me
    discard (store.groupRow group)
  | .removeGroupMembers group _ | .setGroupSubject group _ | .leaveGroup group =>
    discard (store.groupRow group)
  | .retryMessage id => discard (store.messageRow id)
  | .replySubscription thread _ => discard (store.threadRow thread)
  | .retryMessagesTo _ | .retryAll | .incoming _ | .resend _ => .ok ()

namespace Action

/-! ## Actions that look first -/

/-- The action gives what is read in the store, or the reason why there is no such thing, and does
nothing else. -/
def Reads (host : Host) (value : Store → Except Failure α) (action : Action α) : Prop :=
  ∀ run, action.on host run =
    match value run.store with
    | .ok a => .ok a run
    | .error failure => .error failure run

/-- The action comes to its end. -/
def Completes (host : Host) (action : Action α) : Prop :=
  ∀ run, ∃ a next, action.on host run = .ok a next

/-- The action gives up where it began, for the reason that is found in the store, and comes to its
end if none is. -/
def Vetted (host : Host) (vet : Store → Except Failure Unit) (action : Action α) : Prop :=
  ∀ run, match vet run.store with
    | .ok _ => ∃ a next, action.on host run = .ok a next
    | .error failure => action.on host run = .error failure run

variable {host : Host} {vet : Store → Except Failure Unit}

namespace Completes

theorem pure (a : α) : Completes host (Pure.pure a : Action α) :=
  fun run => ⟨a, run, on_pure a⟩

theorem bind {action : Action β} {next : β → Action α} (one : Completes host action)
    (two : ∀ b, Completes host (next b)) : Completes host (action >>= next) := by
  intro run
  obtain ⟨b, middle, ran⟩ := one run
  obtain ⟨a, last, ended⟩ := two b middle
  refine ⟨a, last, ?_⟩
  rw [on_bind, ran]
  exact ended

theorem reading {next : Host → Action α} (rest : Completes host (next host)) :
    Completes host (read >>= next) :=
  fun run => rest run

theorem ite {c : Prop} [Decidable c] {yes no : Action α} (one : Completes host yes)
    (two : Completes host no) : Completes host (if c then yes else no) := by
  split
  · exact one
  · exact two

theorem publish (event : Event) : Completes host (publish event) :=
  fun _ => ⟨(), _, on_publish event⟩

theorem issueServerId : Completes host issueServerId :=
  fun _ => ⟨_, _, on_issueServerId⟩

theorem outbox : Completes host outbox :=
  fun run => ⟨_, run, on_outbox⟩

section
variable (faultless : host.Faultless)
include faultless

theorem look (call : StoreCall) (f : Store → α) : Completes host (look call f) :=
  fun run => ⟨_, run, on_look faultless call f⟩

theorem commit (call : StoreCall) (f : Store → Committed α) : Completes host (commit call f) :=
  fun _ => ⟨_, _, on_commit faultless call f⟩

end

end Completes

theorem Vetted.refused {action : Action α} (vetted : Vetted host vet action) {run : Outbox.Run}
    {failure : Failure} (missing : vet run.store = .error failure) :
    action.on host run = .error failure run := by
  have found := vetted run
  rw [missing] at found
  exact found

theorem Vetted.done {action : Action α} (vetted : Vetted host vet action) {run : Outbox.Run} {u : Unit}
    (complete : vet run.store = .ok u) : ∃ a next, action.on host run = .ok a next := by
  have found := vetted run
  rw [complete] at found
  exact found

theorem Vetted.of_completes {action : Action α} (completes : Completes host action) :
    Vetted host (fun _ => .ok ()) action :=
  completes

theorem Vetted.bind {action : Action β} {value : Store → Except Failure β} {next : β → Action α}
    {vet : β → Store → Except Failure Unit} (reads : Reads host value action)
    (vetted : ∀ b, Vetted host (vet b) (next b)) :
    Vetted host (fun store => value store >>= fun b => vet b store) (action >>= next) := by
  intro run
  have ran : (action >>= next).on host run =
      match value run.store with
      | .ok b => (next b).on host run
      | .error failure => .error failure run := by
    rw [on_bind, reads run]
    cases value run.store <;> rfl
  rw [ran]
  dsimp only
  cases value run.store with
  | error failure => rfl
  | ok b => exact vetted b run

theorem Vetted.once {action : Action β} {value : Store → Except Failure β} {next : β → Action α}
    (reads : Reads host value action) (completes : ∀ b, Completes host (next b)) :
    Vetted host (fun store => discard (value store)) (action >>= next) := by
  have vetted := Vetted.bind reads fun b => Vetted.of_completes (completes b)
  intro run
  have found := vetted run
  revert found
  cases value run.store <;> exact id

theorem Vetted.andThen {action : Action β} {next : β → Action α} (vetted : Vetted host vet action)
    (completes : ∀ b, Completes host (next b)) : Vetted host vet (action >>= next) := by
  intro run
  cases found : vet run.store with
  | error failure =>
    dsimp only
    rw [on_bind, vetted.refused found]
  | ok _ =>
    obtain ⟨b, middle, ran⟩ := vetted.done found
    obtain ⟨a, last, ended⟩ := completes b middle
    refine ⟨a, last, ?_⟩
    rw [on_bind, ran]
    exact ended

theorem Vetted.map {action : Action α} (vetted : Vetted host vet action) (f : α → β) :
    Vetted host vet (f <$> action) := by
  rw [map_eq_pure_bind]
  exact vetted.andThen fun a => Completes.pure (f a)

end Action

namespace Outbox

open Messenger.Action

variable {host : Host}

/-! ## Looking up -/

theorem reads_selfIdentity : Reads host (fun _ => host.settings.me) selfIdentity := by
  intro run
  rw [selfIdentity, on_bind, on_read]
  dsimp only [Settings.me]
  cases host.settings.selfIdentity <;> rfl

section
variable (faultless : host.Faultless)
include faultless

theorem reads_loadThread (id : ThreadId) : Reads host (·.threadRow id) (loadThread id) := by
  intro run
  rw [loadThread, on_bind, on_look faultless]
  dsimp only [Store.threadRow]
  cases run.store.threads.get? id <;> rfl

theorem reads_loadGroup (id : Identity) : Reads host (·.groupRow id) (loadGroup id) := by
  intro run
  rw [loadGroup, on_bind, on_look faultless]
  dsimp only [Store.groupRow]
  cases run.store.group? id <;> rfl

/-! ## What comes to its end -/

theorem completes_dispatchFresh (message : Message) : Completes host (dispatchFresh message) :=
  fun run => ⟨_, _, on_dispatchFresh faultless message run⟩

theorem completes_resend (options : ScanOptions) : Completes host (resend options) := by
  intro run
  obtain ⟨next, ran, -⟩ := on_resend faultless options run
  exact ⟨_, next, ran⟩

theorem completes_sendSubscriptionReplies : Completes host sendSubscriptionReplies := by
  intro run
  obtain ⟨next, ran, -⟩ := on_sendSubscriptionReplies faultless run
  exact ⟨_, next, ran⟩

theorem completes_enqueue (content : MessageContent) : Completes host (enqueue content) :=
  (Completes.commit faultless _ _).bind fun message =>
    (completes_dispatchFresh faultless message).bind fun _ => .pure message.id

theorem completes_save (group : Group) : Completes host (save group) := .commit faultless _ _

theorem completes_moveToThread (group : Group) (thread : Thread) :
    Completes host (moveToThread group thread) :=
  .ite (.pure group) ((completes_save faultless _).bind fun _ => .pure _)

theorem completes_sendGroupCommand (group : Group) (command : GroupCommand) :
    Completes host (sendGroupCommand group command) := by
  refine (Completes.commit faultless _ _).bind fun thread => ?_
  refine (completes_moveToThread faultless group thread).bind fun moved => ?_
  refine Completes.issueServerId.bind fun serverId => Completes.reading ?_
  exact (completes_enqueue faultless _).bind fun id => .pure (id, moved)

theorem completes_edit (group : Group) (command : GroupCommand) :
    Completes host (do save group; return (← sendGroupCommand group command).1) :=
  (completes_save faultless group).bind fun _ =>
    (completes_sendGroupCommand faultless group command).bind fun _ => .pure _

theorem completes_retryHeld (query : Query) (options : ScanOptions) :
    Completes host (retryHeld query options) := by
  refine (Completes.look faultless _ _).bind fun held => Completes.reading ?_
  refine (Completes.commit faultless _ _).bind fun count => ?_
  exact (completes_resend faultless options).bind fun _ => .pure count

theorem completes_incoming (inbound : InboundMessage) : Completes host (incoming inbound) := by
  intro run
  cases known : run.store.messageByServerId? .incoming inbound.serverId with
  | none => exact ⟨_, _, on_incoming faultless.takes known⟩
  | some message => exact ⟨_, _, on_incoming_known faultless.takes (known ▸ rfl)⟩

/-! ## What is vetted -/

/-- A new message asks for the group of its thread before it uses up a name. -/
theorem vetted_compose (row : Thread) (mime : String) :
    Vetted host (fun store => if row.isGroup then discard (store.groupRow row.peer) else .ok ())
      (compose row mime) := by
  have grouped : Vetted host
      (fun store => if row.isGroup then discard (store.groupRow row.peer) else .ok ())
      (groupRefOf row) := by
    unfold groupRefOf
    split
    · exact Vetted.once (reads_loadGroup faultless row.peer) fun _ => .pure _
    · exact Vetted.of_completes (.pure _)
  exact grouped.andThen fun group =>
    Completes.reading (Completes.issueServerId.bind fun serverId => .pure _)

theorem vetted_toThread (id : ThreadId) (mime : String) {next : Thread → MessageContent → Action α}
    (completes : ∀ row content, Completes host (next row content)) :
    Vetted host (·.vetThread id) (do
      let row ← loadThread id
      let content ← compose row mime
      next row content) := by
  refine Vetted.bind (reads_loadThread faultless id) fun row => ?_
  exact (vetted_compose faultless row mime).andThen (completes row)

theorem vetted_retryMessage (id : MessageId) :
    Vetted host (fun store => discard (store.messageRow id)) (retryMessage id) := by
  have restarted (message : Message) : Completes host (do
      let now := (← read).now
      let _ ← commit .updateStatuses (·.updateStatuses [id] .sending now)
      let _ ← resend (.forPeer message.peer)
      return 1) :=
    .reading ((Completes.commit faultless _ _).bind fun _ =>
      (completes_resend faultless _).bind fun _ => .pure 1)
  intro run
  rw [retryMessage, on_bind, on_look faultless]
  dsimp only [Store.messageRow]
  cases run.store.message? id with
  | none => rfl
  | some message => exact restarted message run

/-- Every request is vetted, and nothing else keeps it from being carried out. -/
theorem vetted_perform (request : Request) :
    Vetted host (request.vet host.settings) (perform request) := by
  have loaded (id : Identity) := reads_loadGroup faultless id
  cases request with
  | sendText thread text inReplyTo =>
    exact (vetted_toThread faultless thread _ fun _ _ => completes_enqueue faultless _).map _
  | sendLocation thread location =>
    exact (vetted_toThread faultless thread _ fun _ _ => completes_enqueue faultless _).map _
  | sendBinary thread binary =>
    refine (vetted_toThread faultless thread _ fun _ _ => Completes.reading ?_).map _
    refine .ite ?_ (completes_enqueue faultless _)
    exact (Completes.commit faultless _ _).bind fun _ => (Completes.publish _).bind fun _ => .pure _
  | createGroup id people subject =>
    refine (Vetted.once reads_selfIdentity fun me => ?_).map _
    exact (Completes.commit faultless _ _).bind fun _ => completes_edit faultless _ _
  | addGroupMembers id people =>
    refine (Vetted.bind reads_selfIdentity fun me => ?_).map _
    exact Vetted.once (loaded id) fun _ => completes_edit faultless _ _
  | removeGroupMembers id people =>
    exact (Vetted.once (loaded id) fun _ => completes_edit faultless _ _).map _
  | setGroupSubject id subject =>
    exact (Vetted.once (loaded id) fun _ => completes_edit faultless _ _).map _
  | leaveGroup id =>
    refine (Vetted.once (loaded id) fun group => ?_).map _
    refine (completes_sendGroupCommand faultless group .part).bind fun _ => ?_
    exact (completes_save faultless _).bind fun _ => .pure _
  | retryMessage id => exact (vetted_retryMessage faultless id).map _
  | retryMessagesTo peer =>
    exact (Vetted.of_completes (completes_retryHeld faultless _ _)).map _
  | retryAll => exact (Vetted.of_completes (completes_retryHeld faultless _ _)).map _
  | replySubscription thread action =>
    refine (Vetted.once (reads_loadThread faultless thread) fun row => ?_).map _
    refine (Completes.commit faultless _ _).bind fun _ => Completes.outbox.bind fun outbox => ?_
    exact .ite (completes_sendSubscriptionReplies faultless) (.pure ())
  | incoming message => exact (Vetted.of_completes (completes_incoming faultless message)).map _
  | resend options => exact (Vetted.of_completes (completes_resend faultless options)).map _

end

/-! ## The service -/

/-- Why a service refuses a request, if it does. -/
def Service.refusal? (service : Service) (settings : Settings) (request : Request) : Option Failure :=
  if service.running then
    match request.vet settings service.outbox.store with
    | .ok _ => none
    | .error failure => some failure
  else some .workerStopped

section
variable (faultless : host.Faultless) {service : Service} {request : Request}
include faultless

theorem request_of_refusal {failure : Failure}
    (refused : service.refusal? host.settings request = some failure) :
    service.request host request = service.idle (.error failure) := by
  unfold Service.refusal? at refused
  unfold Service.request
  split at refused
  case isFalse stopped =>
    rw [if_neg stopped, Option.some.inj refused]
  case isTrue running =>
    rw [if_pos running]
    cases missing : request.vet host.settings service.outbox.store with
    | ok _ =>
      rw [missing] at refused
      cases refused
    | error reason =>
      rw [missing] at refused
      rw [← Option.some.inj refused]
      exact run_of_error ((vetted_perform faultless request).refused missing)

theorem request_of_no_refusal (accepted : service.refusal? host.settings request = none) :
    ∃ answer, (service.request host request).result = .ok answer := by
  unfold Service.refusal? at accepted
  unfold Service.request
  split at accepted
  case isFalse => cases accepted
  case isTrue running =>
    rw [if_pos running]
    cases found : request.vet host.settings service.outbox.store with
    | error missing =>
      rw [found] at accepted
      cases accepted
    | ok _ =>
      have complete : request.vet host.settings
          ({ service.outbox with } : Run).store = .ok _ := found
      obtain ⟨answer, next, ran⟩ := (vetted_perform faultless request).done complete
      exact ⟨answer, congrArg Outcome.result (run_of_ok ran)⟩

end

/-- Whatever is stored and whatever the state of the connection, a request fails exactly if what it
needs is missing or the service has stopped.  All is then as it was: what is stored, with the
numbers that come next, the state of the connection, the names that are used up; and nothing was
published, announced or signalled. -/
theorem refused_without_effect (faultless : host.Faultless) (service : Service) (request : Request) :
    let outcome := service.request host request
    (∀ failure, outcome.result = .error failure ↔
      service.refusal? host.settings request = some failure) ∧
    ∀ failure, outcome.result = .error failure → outcome = service.idle (.error failure) := by
  intro outcome
  have known (failure : Failure) (failed : outcome.result = .error failure) :
      service.refusal? host.settings request = some failure := by
    cases reason : service.refusal? host.settings request with
    | none =>
      obtain ⟨answer, answered⟩ := request_of_no_refusal faultless reason
      cases failed.symm.trans answered
    | some other =>
      have refused := congrArg Outcome.result (request_of_refusal faultless reason)
      cases failed.symm.trans refused
      rfl
  refine ⟨fun failure => ⟨known failure, fun reason => ?_⟩, fun failure failed => ?_⟩
  · exact congrArg Outcome.result (request_of_refusal faultless reason)
  · exact request_of_refusal faultless (known failure failed)

/-- A text for a group that is known only by its thread is refused, and its name is not used up. -/
theorem refused_without_effect_group :
    let host : Host := { settings := {}, serverId := toString }
    let outbox := (({} : Outbox).respond host (.openThread ⟨"g@x"⟩ true)).1
    let request : Request := .sendText ⟨1⟩ "hello" none
    (outbox.store.threads.get? ⟨1⟩).map (·.isGroup) = some true ∧
      ({ outbox : Service }.request host request) =
        ({ outbox : Service }.idle (.error (.groupNotFound "g@x"))) := by
  intro host outbox request
  have here : host.Faultless := fun _ => rfl
  obtain ⟨reasons, without⟩ := refused_without_effect here { outbox } request
  have refused : ({ outbox : Service }.refusal? host.settings request) =
      some (.groupNotFound "g@x") := by decide +kernel
  exact ⟨by decide +kernel, without _ ((reasons _).2 refused)⟩

end Outbox

end Messenger

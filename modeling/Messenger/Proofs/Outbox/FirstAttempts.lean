/-
# First attempts and scans

A message is handed over for the first time right after it was stored, and again by every scan as long
as it is open.  The two look at different things:

| | a first attempt | a scan |
| :-- | :-- | :-- |
| passes over a message | that waits for review | in all but three states |
| lets it wait for a command | that is not acknowledged | that the scan seeks |
| and for the group | does not look | skips a message to nobody |

For new messages the first two rows come to the same.  A new message of ours waits for review or is on
its way, and a command has no file and never waits for review, so it is sought exactly as long as it
is not acknowledged (`clear_iff_not_heldBack`).  What is left is the group: a first attempt sends a new
message without a file exactly if a scan would send it or skip it for its empty group
(`first_attempt_as_scanned`).

A `Moment` is an outbox in which a message was just stored.  Every request that posts a message
without a file leads to one, makes the first attempt there, and is done, but for the group that we
leave (`posts_perform`).
-/
import Messenger.Proofs.Outbox.Effects
import Messenger.Proofs.Outbox.Reconnect
import Messenger.Proofs.Outbox.Replicas

namespace Messenger

/-! ## The two ways -/

theorem Scan.verdict_free_iff {uploadAvailable : Bool} {membersOf : Identity → List Identity}
    {sought : List Message} {message : Message} (threaded : message.thread ≠ .none)
    (plain : message.attachment = none) :
    verdict uploadAvailable membersOf sought message = .send ∨
      verdict uploadAvailable membersOf sought message = .skip .emptyGroup ↔
        ¬HeldBack sought message := by
  have sent : ¬FileHere message.toMessageContent := by simp [FileHere, plain]
  simp only [verdict, if_neg threaded, if_neg sent]
  by_cases held : HeldBack sought message
  · simp [held]
  · by_cases vacant : Vacant membersOf message.toMessageContent <;> simp [held, vacant]

namespace Outbox

section
variable {outbox : Outbox} {message : Message}

/-- What keeps a message from its first attempt keeps it from being sent by a scan. -/
theorem clear_iff_not_heldBack (coherent : outbox.store.Coherent)
    (sought : message ∈ outbox.sought {}) :
    outbox.store.Clear message ↔ ¬Scan.HeldBack (outbox.sought {}) message := by
  constructor
  · rintro clear ⟨-, command, listed, carries, home, below⟩
    obtain ⟨stored, outgoing, qualifies, -⟩ := mem_sought.1 listed
    have acknowledged := clear command stored outgoing home below carries
    revert qualifies acknowledged
    cases command.status <;> decide
  · intro free command stored outgoing home below carries
    refine Decidable.byContradiction fun waits => free ?_
    have listed := command_sought coherent rfl sought stored outgoing home carries waits
    obtain ⟨stored', outgoing', -⟩ := mem_sought.1 sought
    have posted := coherent.posted (coherent.tidy.mem_messages.1 stored') outgoing'
    exact ⟨coherent.thread_ne_none posted, command, listed, carries, home, below⟩

theorem firstAttempt_of_plain (threaded : message.thread ≠ .none)
    (plain : message.attachment = none) : outbox.firstAttempt message =
      if message.status = .pending ∨ outbox.store.isHeldBack message then none
      else some (.send message.id) := by
  have sent : message.needsUpload = false := by simp [MessageContent.needsUpload, plain]
  rw [firstAttempt, ThreadId.isNone_eq_false.2 threaded, sent]
  by_cases waits : message.status = .pending
  · simp [waits]
  · cases outbox.store.isHeldBack message <;> simp [waits]

/-- What the whole plan decides about a message. -/
theorem puts_wholePlan (keyed : outbox.store.messages.KeyedBy (·.id)) {options : ScanOptions}
    (stored : message ∈ outbox.store.messages.values) {decision : Decision} :
    (outbox.wholePlan options).Puts message.id decision ↔ message ∈ outbox.sought options ∧
      Scan.verdict outbox.uploadService outbox.store.liveMembersOf (outbox.sought options) message =
        decision := by
  rw [wholePlan, puts_planScan keyed.keys_nodup, ← sought_eq_candidates]
  constructor
  · rintro ⟨other, listed, same, decided⟩
    have listed' := (mem_sought.1 listed).1
    have eq : other = message := Scan.Ascending.eq_of_id keyed.ascending listed' stored same
    exact eq ▸ ⟨listed, decided⟩
  · rintro ⟨listed, decided⟩
    exact ⟨message, listed, rfl, decided⟩

/-- A first attempt sends a new message without a file exactly if the whole plan sends it or skips it
for its group. -/
theorem firstAttempt_iff_planned (coherent : outbox.store.Coherent)
    (stored : message ∈ outbox.store.messages.values) (outgoing : message.direction = .outgoing)
    (fresh : message.status = .pending ∨ message.status = .sending)
    (plain : message.attachment = none) :
    outbox.firstAttempt message = some (.send message.id) ↔
      (outbox.wholePlan {}).Puts message.id .send ∨
        (outbox.wholePlan {}).Puts message.id (.skip .emptyGroup) := by
  have posted := coherent.posted (coherent.tidy.mem_messages.1 stored) outgoing
  have threaded := coherent.thread_ne_none posted
  have ready : message.Ready := by simp [MessageContent.Ready, plain]
  have sought : message ∈ outbox.sought {} ↔ message.status ≠ .pending := by
    rw [sought_of_ready stored outgoing ready]
    rcases fresh with waits | sends
    · simp [waits, Scan.statusQualifies]
    · simp [sends, Scan.statusQualifies]
  rw [puts_wholePlan coherent.tidy.messages stored, puts_wholePlan coherent.tidy.messages stored,
    ← and_or_left, Scan.verdict_free_iff threaded plain, firstAttempt_of_plain threaded plain]
  calc (if message.status = .pending ∨ outbox.store.isHeldBack message then none
        else some (Dispatch.send message.id)) = some (.send message.id)
    _ ↔ message.status ≠ .pending ∧ outbox.store.isHeldBack message = false := by simp
    _ ↔ message ∈ outbox.sought {} ∧ outbox.store.Clear message :=
      and_congr sought.symm Store.isHeldBack_eq_false_iff
    _ ↔ message ∈ outbox.sought {} ∧ ¬Scan.HeldBack (outbox.sought {}) message :=
      and_congr_right (clear_iff_not_heldBack coherent)

end

/-! ## Messages that were just stored -/

/-- An outbox, and the message that is stored in it next. -/
structure Moment where
  draft : Outbox
  content : MessageContent

namespace Moment

variable (moment : Moment)

def message : Message := (moment.draft.store.insertMessage moment.content).value

def outbox : Outbox :=
  { moment.draft with store := (moment.draft.store.insertMessage moment.content).store }

def attempted : List Publication :=
  (moment.outbox.firstAttempt moment.message).toList.map fun dispatch =>
    moment.outbox.publication dispatch.event

/-- The message is one of ours and without a file, and was drafted in a coherent store. -/
structure Sound : Prop where
  coherent : moment.draft.store.Coherent
  drafted : Drafted moment.draft.store moment.content
  outgoing : moment.content.direction = .outgoing
  plain : moment.content.attachment = none

variable {moment}

theorem publications_dispatchFresh {host : Host} (faultless : host.Faultless) :
    ((dispatchFresh moment.message).run host moment.outbox).publications = moment.attempted := by
  rw [Action.run_of_ok (on_dispatchFresh faultless moment.message _)]
  exact List.nil_append _

namespace Sound

theorem coherent_outbox (sound : moment.Sound) : moment.outbox.store.Coherent :=
  sound.coherent.insertMessage sound.drafted

theorem stored (sound : moment.Sound) : moment.message ∈ moment.outbox.store.messages.values :=
  sound.coherent_outbox.tidy.mem_messages.2 (moment.draft.store.message?_insertMessage moment.content)

end Sound

end Moment

end Outbox

/-! ## Requests that post -/

/-- A move that publishes nothing. -/
def Move.isQuiet : Move → Bool
  | write _ => true
  | _ => false

theorem Move.silent_of_isQuiet {outbox : Outbox} {move : Move} (quiet : move.isQuiet) :
    (move.make outbox).2 = [] := by
  cases move with
  | write entry => rfl
  | _ => cases quiet

theorem Walk.silent {host : Host} {first last : Outbox} {published : List Publication}
    (walk : Walk host (·.isQuiet) first published last) : published = [] := by
  induction walk with
  | refl => rfl
  | move move _ quiet _ ih => rw [ih, Move.silent_of_isQuiet quiet, List.append_nil]

open Outbox (Moment)

/-- From an outbox of which `before` holds, an action that comes to its end has stored a message, made
the first attempt for it, and published nothing else; `after` says what it answers and leaves. -/
def Action.Posts (host : Host) (before : Outbox → Prop) (action : Action α)
    (after : α → Moment → Outbox → Prop) : Prop :=
  ∀ run : Outbox.Run, run.store.Coherent → before run.toOutbox →
    ∀ a next, action.on host run = .ok a next → ∃ moment : Moment, moment.Sound ∧
      next.publications = run.publications ++ moment.attempted ∧ after a moment next.toOutbox

namespace Action.Posts

variable {host : Host} {before : Outbox → Prop} {after : α → Moment → Outbox → Prop}

theorem mono {action : Action α} {stronger : Outbox → Prop} {weaker : α → Moment → Outbox → Prop}
    (posts : Posts host before action after)
    (pre : ∀ outbox, outbox.store.Coherent → stronger outbox → before outbox)
    (post : ∀ a moment outbox, after a moment outbox → weaker a moment outbox) :
    Posts host stronger action weaker := by
  intro run coherent start a next ran
  obtain ⟨moment, sound, published, holds⟩ := posts run coherent (pre _ coherent start) a next ran
  exact ⟨moment, sound, published, post a moment _ holds⟩

theorem given {action : Action α} {fact : Prop}
    (so : ∀ outbox, outbox.store.Coherent → before outbox → fact)
    (posts : fact → Posts host before action after) : Posts host before action after :=
  fun run coherent start => posts (so _ coherent start) run coherent start

/-- What only writes may come before. -/
theorem preparing {action : Action β} {next : β → Action α} {between : β → Outbox → Prop}
    (walks : Walks host (·.isQuiet) before action between)
    (rest : ∀ b, Posts host (between b) (next b) after) : Posts host before (action >>= next) after := by
  intro run coherent start a last ran
  obtain ⟨b, middle, first, second⟩ := ok_of_bind ran
  have walked := walks run start
  rw [first] at walked
  obtain ⟨⟨published, eq, walk⟩, holds⟩ := walked
  have coherent' : middle.store.Coherent :=
    walk.keeps coherent fun _ _ coherent _ fits => Move.coherent_make coherent fits
  obtain ⟨moment, sound, published', holds'⟩ := rest b middle coherent' holds a last second
  refine ⟨moment, sound, ?_, holds'⟩
  rw [published', eq, walk.silent, List.append_nil]

theorem reading {next : Host → Action α} (rest : Posts host before (next host) after) :
    Posts host before (read >>= next) after :=
  fun run => rest run

/-- What publishes nothing may come after. -/
theorem closing {action : Action β} {next : β → Action α} {between : β → Moment → Outbox → Prop}
    (posts : Posts host before action between)
    (rest : ∀ b moment (run : Outbox.Run), between b moment run.toOutbox →
      ∀ a last, (next b).on host run = .ok a last →
        last.publications = run.publications ∧ after a moment last.toOutbox) :
    Posts host before (action >>= next) after := by
  intro run coherent start a last ran
  obtain ⟨b, middle, first, second⟩ := ok_of_bind ran
  obtain ⟨moment, sound, published, holds⟩ := posts run coherent start b middle first
  obtain ⟨quiet, holds'⟩ := rest b moment middle holds a last second
  exact ⟨moment, sound, quiet.trans published, holds'⟩

theorem answer {action : Action β} {f : β → α}
    (posts : Posts host before action fun b => after (f b)) :
    Posts host before (action >>= fun b => pure (f b)) after := by
  refine posts.closing fun b moment run holds a last ran => ?_
  cases ran
  exact ⟨rfl, holds⟩

theorem map {action : Action β} {f : β → α} (posts : Posts host before action fun b => after (f b)) :
    Posts host before (f <$> action) after := by
  rw [map_eq_pure_bind]
  exact posts.answer

/-! ## Every request that posts -/

open Outbox (HasGroup Request)

/-- Nothing was done after the first attempt, and the answer is the number of the message. -/
def Last (id : MessageId) (moment : Moment) (outbox : Outbox) : Prop :=
  id = moment.message.id ∧ outbox = moment.outbox

section
variable (faultless : host.Faultless)
include faultless

theorem enqueue {draft : String → MessageContent}
    (drafted : ∀ outbox name, before outbox → Drafted outbox.store (draft name))
    (outgoing : ∀ name, (draft name).direction = .outgoing)
    (plain : ∀ name, (draft name).attachment = none) :
    Posts host before (issueServerId >>= fun name => Outbox.enqueue (draft name))
      fun id moment outbox => Last id moment outbox ∧
        ∃ earlier, before earlier ∧ moment.draft.store = earlier.store := by
  intro run coherent start id next ran
  simp only [Outbox.enqueue, on_bind, on_issueServerId, on_commit faultless,
    Outbox.on_dispatchFresh faultless, on_pure] at ran
  cases ran
  refine ⟨⟨{ run.toOutbox with issued := run.issued + 1 }, draft (host.serverId run.issued)⟩,
    ⟨coherent, ?_, outgoing _, plain _⟩, rfl, ⟨rfl, rfl⟩, run.toOutbox, start, rfl⟩
  exact drafted run.toOutbox _ start

/-- A message is composed as its thread has it, and then named; what follows gives it the rest. -/
theorem compose {id : ThreadId} (thread : Thread) (mime : String) {next : MessageContent → Action α}
    (rest : ∀ (group : Option GroupRef) (draft : String → MessageContent),
      (∀ name, (draft name).ComposedIn thread group) → (∀ name, (draft name).attachment = none) →
      Posts host
        (fun outbox => ∀ content : MessageContent, content.ComposedIn thread group →
          Drafted outbox.store content)
        (issueServerId >>= fun name => next (draft name)) after) :
    Posts host (fun outbox => outbox.store.threads.get? id = some thread)
      (Outbox.compose thread mime >>= next) after := by
  unfold Outbox.compose
  simp only [bind_assoc, pure_bind]
  refine preparing (Walks.groupRefOf faultless thread) fun group => reading ?_
  refine (rest group _ (fun _ => ?_) fun _ => rfl).mono ?_ fun _ _ _ holds => holds
  · exact ⟨rfl, rfl, rfl, rfl, rfl, rfl, nofun⟩
  · rintro outbox - ⟨known, found⟩ content composed
    exact .composed id thread group found known composed

theorem toThread (id : ThreadId) (mime : String) {fill : MessageContent → MessageContent}
    (filled : ∀ content thread group,
      content.ComposedIn thread group → (fill content).ComposedIn thread group)
    (plain : ∀ content, content.attachment = none → (fill content).attachment = none) :
    Posts host before (do
      let row ← Outbox.loadThread id
      let content ← Outbox.compose row mime
      Outbox.enqueue (fill content)) Last := by
  refine preparing (Walks.loadThread faultless id) fun row => ?_
  refine (compose faultless row mime fun group draft composed bare => ?_).mono
    (fun _ _ holds => holds.1) fun _ _ _ holds => holds
  refine (enqueue faultless (fun outbox name drafted => ?_) (fun name => ?_) fun name => ?_).mono
    (fun _ _ holds => holds) fun _ _ _ holds => holds.1
  · exact drafted _ (filled _ row group (composed name))
  · exact (filled _ row group (composed name)).direction_eq
  · exact plain _ (bare name)

/-- A command is sent in the thread of its group, and the group is stored as it was moved there. -/
theorem sendGroupCommand (group : Group) (command : GroupCommand) :
    Posts host (HasGroup group) (Outbox.sendGroupCommand group command)
      fun sent moment outbox => Last sent.1 moment outbox ∧ sent.2.id = group.id ∧
        HasGroup sent.2 moment.outbox := by
  refine preparing (Walks.ensureThread faultless group.id true rfl) fun thread => ?_
  refine preparing (Walks.moveToThread faultless group thread fun _ => rfl) fun moved => ?_
  rw [issueServerId_read]
  refine reading ?_
  rw [← bind_assoc]
  refine answer ((enqueue faultless ?_ (fun _ => rfl) fun _ => rfl).mono (fun _ _ holds => holds) ?_)
  · rintro outbox name ⟨same, home, earlier, ⟨found, -⟩, left⟩
    exact Walks.drafted_command found same home left command name _
  · rintro id moment outbox ⟨last, before, ⟨same, -, earlier, ⟨-, start, kept, ensured⟩, either⟩, eq⟩
    refine ⟨last, same, ?_⟩
    have stored : HasGroup moved before := by
      rcases either with ⟨rfl, rfl⟩ | rfl
      · refine kept.of_groups ?_
        rw [ensured]
        exact start.store.groups_ensureThread _ true
      · exact Outbox.hasGroup_saveGroup moved earlier
    refine stored.of_groups ((moment.draft.store.insertMessage_groups _).trans ?_)
    rw [eq]

/-- A group is stored as it has become, and those who belong to it are told. -/
theorem edit (group : Group) (command : GroupCommand) :
    Posts host before (do
      Outbox.save group
      return (← Outbox.sendGroupCommand group command).1) Last := by
  refine preparing (Walks.save faultless group rfl) fun _ => answer ?_
  refine (sendGroupCommand faultless group command).mono ?_ fun _ _ _ sent => sent.1
  rintro outbox - ⟨earlier, -, rfl⟩
  exact Outbox.hasGroup_saveGroup group earlier

end

end Action.Posts

namespace Outbox

open Messenger.Action

/-- The request posts a message without a file. -/
def Request.postsPlain : Request → Bool
  | sendText .. | sendLocation .. | createGroup .. | addGroupMembers .. | removeGroupMembers ..
  | setGroupSubject .. | leaveGroup _ => true
  | _ => false

/-- What such a request leaves if this is where its message was stored: a group that we leave is marked
as left after it was told. -/
def Request.concluded (request : Request) (outbox : Outbox) : Outbox :=
  match request with
  | leaveGroup group =>
    match outbox.store.group? group with
    | some row =>
      { outbox with store := (outbox.store.saveGroup { row with membership := .parted }).store }
    | none => outbox
  | _ => outbox

section
variable {host : Host} (faultless : host.Faultless)
include faultless

theorem posts_leaveGroup (group : Identity) : Posts host (fun _ => True) (leaveGroup group)
    fun id moment outbox => id = moment.message.id ∧
      outbox = (Request.leaveGroup group).concluded moment.outbox := by
  refine .preparing (Walks.loadGroup faultless group) fun row => ?_
  refine .given (fun outbox coherent found => coherent.groups.key_eq found.1) fun own => ?_
  have told : Posts host (fun outbox => outbox.store.group? group = some row ∧ True) _ _ :=
    (Posts.sendGroupCommand faultless row .part).mono
      (fun outbox _ found => (congrArg outbox.store.group? own).trans found.1) fun _ _ _ sent => sent
  refine told.closing fun sent moment run holds id last ran => ?_
  obtain ⟨⟨same, eq⟩, moved, kept⟩ := holds
  simp only [save, on_bind, on_commit faultless, on_pure] at ran
  cases ran
  have kept : moment.outbox.store.group? group = some sent.2 := (moved.trans own) ▸ kept
  refine ⟨rfl, same, ?_⟩
  simp only [Request.concluded, kept]
  rw [← eq]

/-- Every request that posts a message without a file stores it, makes the first attempt for it, and is
done, but for the group that we leave. -/
theorem posts_perform {request : Request} (posts : request.postsPlain) :
    Posts host (fun _ => True) (perform request) fun answer moment outbox =>
      answer = .message moment.message.id ∧ outbox = request.concluded moment.outbox := by
  have finish {action : Action MessageId} (done : ∀ outbox, request.concluded outbox = outbox)
      (posted : Posts host (fun _ => True) action Posts.Last) :
      Posts host (fun _ => True) (Answer.message <$> action) fun answer moment outbox =>
        answer = .message moment.message.id ∧ outbox = request.concluded moment.outbox := by
    refine (posted.mono (fun _ _ start => start) ?_).map
    rintro id moment outbox ⟨rfl, rfl⟩
    exact ⟨rfl, (done _).symm⟩
  cases request with
  | sendText thread text inReplyTo =>
    refine finish (fun _ => rfl) (Posts.toThread faultless thread _ ?_ fun _ bare => bare)
    exact fun _ _ _ composed => { composed with }
  | sendLocation thread location =>
    refine finish (fun _ => rfl) (Posts.toThread faultless thread _ ?_ fun _ bare => bare)
    exact fun _ _ _ composed => { composed with }
  | createGroup group people subject =>
    refine finish (fun _ => rfl) (.preparing Walks.selfIdentity fun me => ?_)
    refine .preparing (Walks.ensureThread faultless group true rfl) fun thread => ?_
    exact Posts.edit faultless _ _
  | addGroupMembers group people =>
    refine finish (fun _ => rfl) (.preparing Walks.selfIdentity fun me => ?_)
    exact .preparing (Walks.loadGroup faultless group) fun row => Posts.edit faultless _ _
  | removeGroupMembers group people | setGroupSubject group subject =>
    refine finish (fun _ => rfl) (.preparing (Walks.loadGroup faultless group) fun row => ?_)
    exact Posts.edit faultless _ _
  | leaveGroup group =>
    refine ((posts_leaveGroup faultless group).mono (fun _ _ start => start) ?_).map
    rintro id moment outbox ⟨rfl, eq⟩
    exact ⟨rfl, eq⟩
  | _ => cases posts

end

namespace Moment

variable {moment : Moment} {host : Host}

/-- The first attempt sends the message exactly if a scan would send it or skip it for its group. -/
theorem Sound.sends_iff (sound : moment.Sound) (faultless : host.Faultless) :
    .sendMessageRequest moment.message.id ∈
        ((dispatchFresh moment.message).run host moment.outbox).publications.map (·.event) ↔
      (moment.outbox.wholePlan {}).Puts moment.message.id .send ∨
        (moment.outbox.wholePlan {}).Puts moment.message.id (.skip .emptyGroup) := by
  have fresh := sound.drafted.status_eq sound.outgoing
  rw [publications_dispatchFresh faultless, attempted, List.map_map,
    ← firstAttempt_iff_planned sound.coherent_outbox sound.stored sound.outgoing fresh sound.plain]
  cases moment.outbox.firstAttempt moment.message with
  | none => simp
  | some dispatch => cases dispatch <;> simp [publication, Dispatch.event, eq_comm]

end Moment

/-- In every life of the outbox, when a request has stored a message without a file, the first attempt
for it sends it exactly if a scan of all that is stored at that moment would send it or skip it for
having nobody in its group; this is the only thing on which the two differ.  The request publishes what
the first attempt does, and leaves what was stored by then. -/
theorem first_attempt_as_scanned {stimuli : List Stimulus}
    (faultless : ∀ stimulus ∈ stimuli, stimulus.host.Faultless) {host : Host} (here : host.Faultless)
    {request : Request} (posts : request.postsPlain) {id : MessageId}
    (answered : ((perform request).run host (play {} stimuli).1).result = .ok (.message id)) :
    ∃ moment : Moment,
      let outcome := (perform request).run host (play {} stimuli).1
      let attempt := (dispatchFresh moment.message).run host moment.outbox
      let plan := moment.outbox.wholePlan {}
      let sends := .sendMessageRequest id ∈ attempt.publications.map (·.event)
      moment.message.id = id ∧ moment.message.attachment = none ∧
      outcome.publications = attempt.publications ∧
      outcome.outbox = request.concluded moment.outbox ∧
      (sends ↔ .send id ∈ plan.dispatch ∨ (id, .emptyGroup) ∈ plan.skipped) ∧
      ((sends ↔ .send id ∈ plan.dispatch) ↔ (id, .emptyGroup) ∉ plan.skipped) := by
  have coherent : (play {} stimuli).1.store.Coherent := coherent_play .empty faultless
  cases ran : (perform request).on host { (play {} stimuli).1 with } with
  | error failure next =>
    rw [Action.run_of_error ran] at answered
    cases answered
  | ok answer next =>
    rw [Action.run_of_ok ran] at answered ⊢
    obtain ⟨moment, sound, published, eq, left⟩ :=
      posts_perform here posts _ coherent trivial answer next ran
    obtain rfl : id = moment.message.id :=
      Answer.message.inj ((Except.ok.inj answered).symm.trans eq)
    have planned := sound.sends_iff here
    refine ⟨moment, rfl, sound.plain, ?_, left, planned, ?_⟩
    · exact (published.trans (List.nil_append _)).trans (Moment.publications_dispatchFresh here).symm
    · -- what is skipped for its group is not sent as well
      have apart (skipped : (moment.outbox.wholePlan {}).Puts moment.message.id (.skip .emptyGroup)) :
          ¬(moment.outbox.wholePlan {}).Puts moment.message.id .send := fun sent =>
        nomatch puts_unique sound.coherent_outbox.tidy.messages.keys_nodup sent skipped
      rw [planned]
      exact ⟨fun same skipped => apart skipped (same.1 (Or.inr skipped)),
        fun unskipped => or_iff_left unskipped⟩

/-- The command that creates a group of nobody is sent at once, and no scan would send it. -/
theorem first_attempt_as_scanned_nobody :
    let host : Host := { settings := { selfIdentity := some ⟨"me@x"⟩ }, serverId := toString }
    let inputs : List Input :=
      [.openThread ⟨"a@x"⟩ false, .request (.sendText ⟨1⟩ "hello" none)]
    let stimuli := inputs.map (Stimulus.mk host)
    let request : Request := .createGroup ⟨"g@x"⟩ [] none
    let outcome := (perform request).run host (play {} stimuli).1
    (∀ stimulus ∈ stimuli, stimulus.host.Faultless) ∧ host.Faultless ∧ request.postsPlain ∧
      outcome.result = .ok (.message ⟨2⟩) ∧
      .sendMessageRequest ⟨2⟩ ∈ outcome.publications.map (·.event) ∧
      outcome.outbox.wholePlan {} =
        { dispatch := [.send ⟨1⟩], skipped := [(⟨2⟩, .emptyGroup)] } := by
  intro host inputs stimuli request outcome
  have faultless : ∀ stimulus ∈ stimuli, stimulus.host.Faultless :=
    List.forall_mem_map.2 fun _ _ _ => rfl
  have here : host.Faultless := fun _ => rfl
  have result : outcome.result = .ok (.message ⟨2⟩) := by
    have answered : outcome.result.toOption = some (.message ⟨2⟩) := by decide +kernel
    cases eq : outcome.result with
    | error failure =>
      rw [eq] at answered
      cases answered
    | ok answer =>
      rw [eq] at answered
      exact congrArg _ (Option.some.inj answered)
  have coherent : outcome.outbox.store.Coherent :=
    coherent_perform (coherent_play .empty faultless) here request
  have plan : outcome.outbox.wholePlan {} =
      { dispatch := [.send ⟨1⟩], skipped := [(⟨2⟩, .emptyGroup)] } := by
    rw [wholePlan_eq coherent.tidy.messages]
    decide +kernel
  obtain ⟨moment, -, -, published, left, sends, -⟩ :=
    first_attempt_as_scanned faultless here rfl result
  have left : outcome.outbox = moment.outbox := left
  rw [← left, plan] at sends
  refine ⟨faultless, here, rfl, result, ?_, plan⟩
  rw [published, ← left]
  exact sends.2 (Or.inr List.mem_cons_self)

end Outbox

end Messenger

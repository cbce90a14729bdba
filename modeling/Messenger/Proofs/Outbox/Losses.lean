/-
# An answer goes with its thread

An answer that waits for a connection waits in the row of its thread, and nowhere else.  Whether a
thread may go is decided by its messages and its draft alone, so an answer is lost when the person at
the device deletes the last message of its thread, or clears the draft of a thread without messages,
before there is a connection.

A life with such clearings is a list of `Happening`s.  An answer that waits is sent when there is a
connection exactly if the life has `Spared` its thread until then (`reply_sent_iff_spared`): all else
leaves it where it is.
-/
import Messenger.Proofs.Outbox.Replies
import Messenger.Proofs.Store.Clearing

namespace Messenger

/-- What happens in a life of the outbox: it is told something, or threads are cleared. -/
inductive Happening where
  | told (stimulus : Stimulus)
  | cleared (clearing : Clearing)

namespace Happening

/-- The store does not fail when it happens. -/
def Faultless : Happening → Prop
  | told stimulus => stimulus.host.Faultless
  | cleared _ => True

/-- No answer is given or sent, and the thread is not made to wait again. -/
def LeavesAnswers (id : ThreadId) : Happening → Prop
  | told stimulus => stimulus.input ≠ .event .connected ∧ stimulus.input ≠ .awaitReply id ∧
      ∀ other action, stimulus.input ≠ .request (.replySubscription other action)
  | cleared _ => True

/-- The thread goes with it. -/
def Empties (store : Store) (id : ThreadId) : Happening → Prop
  | told _ => False
  | cleared clearing => clearing.Empties store id

end Happening

/-! ## Answers when threads are cleared -/

namespace Store

variable {store : Store}

theorem reply?_of_cleared (filed : store.Filed) {clearing : Clearing} {id : ThreadId}
    {reply : Identity × PrivacyAction} (waits : (clearing.write.after store).reply? id = some reply) :
    store.reply? id = some reply := by
  obtain ⟨row, found, waits⟩ := Option.bind_eq_some_iff.1 waits
  obtain ⟨old, stood, peer, status⟩ := inherits_clearing filed clearing id row found
  refine Option.bind_eq_some_iff.2 ⟨old, stood, ?_⟩
  rwa [Thread.reply?, ← peer, ← status]

theorem reply?_of_not_empties (tidy : store.Tidy) (filed : store.Filed) {clearing : Clearing}
    {id : ThreadId} {reply : Identity × PrivacyAction} (waits : store.reply? id = some reply)
    (spared : ¬clearing.Empties store id) : (clearing.write.after store).reply? id = some reply := by
  obtain ⟨old, stood, waits⟩ := Option.bind_eq_some_iff.1 waits
  have stays := mt (gone_iff_empties tidy stood clearing).1 spared
  obtain ⟨row, found⟩ := Option.ne_none_iff_exists'.1 stays
  obtain ⟨_, stood', peer, status⟩ := inherits_clearing filed clearing id row found
  cases stood.symm.trans stood'
  refine Option.bind_eq_some_iff.2 ⟨row, found, ?_⟩
  rwa [Thread.reply?, peer, status]

theorem reply?_of_empties (tidy : store.Tidy) {clearing : Clearing} {id : ThreadId}
    {reply : Identity × PrivacyAction} (waits : store.reply? id = some reply)
    (emptied : clearing.Empties store id) : (clearing.write.after store).reply? id = none := by
  obtain ⟨old, stood, -⟩ := Option.bind_eq_some_iff.1 waits
  rw [reply?, (gone_iff_empties tidy stood clearing).2 emptied, Option.bind_none]

theorem Indexed.reply?_unique (indexed : store.Indexed) {one two : ThreadId}
    {reply other : Identity × PrivacyAction} (waits : store.reply? one = some reply)
    (waits' : store.reply? two = some other) (same : reply.1 = other.1) : one = two := by
  have place {id : ThreadId} {reply : Identity × PrivacyAction} (waits : store.reply? id = some reply) :
      store.threadOf.get? reply.1 = some id := by
    obtain ⟨row, found, waits⟩ := Option.bind_eq_some_iff.1 waits
    obtain ⟨action, -, rfl⟩ := Option.map_eq_some_iff.1 waits
    exact indexed.index.2 (peerOf?_eq_some_iff.2 ⟨row, found, rfl⟩)
  exact Option.some.inj ((place waits).symm.trans (same ▸ place waits'))

theorem Coherent.cleared (coherent : store.Coherent) (indexed : store.Indexed) (clearing : Clearing) :
    (clearing.write.after store).Coherent := by
  have tidy : (clearing.write.after store).Tidy :=
    coherent.tidy.after (by cases clearing <;> exact trivial)
  have indexed' := indexed.after clearing.write
  have groups := groups_clearing indexed.toFiled clearing
  refine ⟨tidy, groups ▸ coherent.groups, indexed'.index.1, fun {id message} stored outgoing => ?_⟩
  have posted := coherent.posted (stored_of_cleared clearing stored) outgoing
  refine ⟨?_, posted.group, posted.command, posted.file⟩
  -- The thread of a message that is still there is still there, and it is that of the same person.
  obtain ⟨old, stood, peer⟩ := peerOf?_eq_some_iff.1 posted.peer
  rcases tidy.housed stored with none | ⟨row, found⟩
  · rw [none, coherent.tidy.threads_get?_none] at stood
    cases stood
  · obtain ⟨_, stood', same, -⟩ := inherits_clearing indexed.toFiled clearing _ row found
    cases stood.symm.trans stood'
    exact peerOf?_eq_some_iff.2 ⟨row, found, same.trans peer⟩

end Store

/-! ## Lives in which threads are cleared -/

namespace Outbox

variable {outbox : Outbox} {host : Host}

def after (outbox : Outbox) : Happening → Outbox
  | .told stimulus => (outbox.respond stimulus.host stimulus.input).1
  | .cleared clearing => { outbox with store := clearing.write.after outbox.store }

/-- The outbox after some happenings. -/
def live (outbox : Outbox) (happenings : List Happening) : Outbox := happenings.foldl after outbox

theorem live_snoc (outbox : Outbox) (happenings : List Happening) (last : Happening) :
    outbox.live (happenings ++ [last]) = (outbox.live happenings).after last :=
  List.foldl_append

/-- The thread was not emptied at any time. -/
def Spared (outbox : Outbox) (id : ThreadId) (happenings : List Happening) : Prop :=
  ∀ before happening later, happenings = before ++ happening :: later →
    ¬happening.Empties (outbox.live before).store id

theorem spared_snoc {id : ThreadId} {happenings : List Happening} {last : Happening} :
    outbox.Spared id (happenings ++ [last]) ↔
      outbox.Spared id happenings ∧ ¬last.Empties (outbox.live happenings).store id :=
  forall_split_snoc

/-- What is so in every life. -/
structure Sound (outbox : Outbox) : Prop where
  coherent : outbox.store.Coherent
  indexed : outbox.store.Indexed
  idle : outbox.connected = true → ∀ id, outbox.store.reply? id = none

theorem Sound.empty : Sound {} where
  coherent := .empty
  indexed := .empty
  idle := nofun

theorem reply?_awaitReply (filed : outbox.store.Filed) (other id : ThreadId) :
    (outbox.respond host (.awaitReply other)).1.store.reply? id =
      if id = other then none else outbox.store.reply? id := by
  refine (Store.reply?_setRequestStatus filed other .waitingReply id).trans ?_
  split
  · exact Option.bind_fun_none _
  · rfl

theorem Sound.respond (sound : outbox.Sound) (faultless : host.Faultless) (input : Input) :
    (outbox.respond host input).1.Sound where
  coherent := coherent_respond sound.coherent faultless input
  indexed := indexed_respond sound.indexed input
  idle := by
    intro connected id
    have turn := turn_respond faultless sound.coherent sound.indexed sound.idle input
    rw [turn.connected] at connected
    have left := left?_of_linked sound.idle connected
    refine (turn.left ?_ id).trans (left id)
    rintro other rfl
    exact sound.idle connected other

theorem Sound.after (sound : outbox.Sound) {happening : Happening} (faultless : happening.Faultless) :
    (outbox.after happening).Sound := by
  cases happening with
  | told stimulus => exact sound.respond faultless stimulus.input
  | cleared clearing =>
    refine ⟨sound.coherent.cleared sound.indexed clearing, sound.indexed.after clearing.write, ?_⟩
    intro connected id
    refine Option.eq_none_iff_forall_ne_some.2 fun reply waits => ?_
    have waited := Store.reply?_of_cleared sound.indexed.toFiled waits
    rw [sound.idle connected] at waited
    cases waited

theorem sound_live {happenings : List Happening}
    (faultless : ∀ happening ∈ happenings, happening.Faultless) (sound : outbox.Sound) :
    (outbox.live happenings).Sound := by
  induction happenings using List.reverseRecOn with
  | nil => exact sound
  | append_singleton before last ih =>
    rw [live_snoc]
    refine (ih fun other mem => faultless other (List.mem_append_left _ mem)).after ?_
    exact faultless last (by simp)

/-- Where no answer is given or sent, answers stay where they are, but for that of a thread that is
made to wait again. -/
theorem reply?_told (sound : outbox.Sound) {stimulus : Stimulus} (faultless : stimulus.host.Faultless)
    {thread : ThreadId} (leaves : (Happening.told stimulus).LeavesAnswers thread) (id : ThreadId) :
    (outbox.after (.told stimulus)).store.reply? id = outbox.store.reply? id ∨
      stimulus.input = .awaitReply id ∧ (outbox.after (.told stimulus)).store.reply? id = none := by
  obtain ⟨host, input⟩ := stimulus
  obtain ⟨unconnected, -, unanswered⟩ := leaves
  have turn := turn_respond faultless sound.coherent sound.indexed sound.idle input
  have stays : outbox.left? input id = outbox.store.reply? id := by
    unfold left?
    split
    · exact absurd rfl (unanswered _ _)
    · exact absurd rfl unconnected
    · rfl
  by_cases waits : ∃ other, input = .awaitReply other
  · obtain ⟨other, rfl⟩ := waits
    have left := @reply?_awaitReply outbox host sound.indexed.toFiled other id
    split at left
    case isTrue here => exact Or.inr ⟨here ▸ rfl, left⟩
    case isFalse => exact Or.inl left
  · refine Or.inl ((turn.left (fun other here => absurd ⟨other, here⟩ waits) id).trans stays)

/-- Without a new answer, an answer that waits has waited before. -/
theorem reply?_of_after (sound : outbox.Sound) {happening : Happening} (faultless : happening.Faultless)
    {thread id : ThreadId} (leaves : happening.LeavesAnswers thread) {reply : Identity × PrivacyAction}
    (waits : (outbox.after happening).store.reply? id = some reply) :
    outbox.store.reply? id = some reply := by
  cases happening with
  | told stimulus =>
    rcases reply?_told sound faultless leaves id with same | ⟨-, none⟩
    · exact same ▸ waits
    · cases waits.symm.trans none
  | cleared clearing => exact Store.reply?_of_cleared sound.indexed.toFiled waits

/-- An answer waits on in a thread that is not emptied. -/
theorem reply?_after (sound : outbox.Sound) {happening : Happening} (faultless : happening.Faultless)
    {id : ThreadId} (leaves : happening.LeavesAnswers id) {reply : Identity × PrivacyAction}
    (waits : outbox.store.reply? id = some reply) (spared : ¬happening.Empties outbox.store id) :
    (outbox.after happening).store.reply? id = some reply := by
  cases happening with
  | told stimulus =>
    rcases reply?_told sound faultless leaves id with same | ⟨here, -⟩
    · exact same.trans waits
    · exact absurd here leaves.2.1
  | cleared clearing =>
    exact Store.reply?_of_not_empties sound.coherent.tidy sound.indexed.toFiled waits spared

/-- No answer for the person waits. -/
def Silent (outbox : Outbox) (peer : Identity) : Prop :=
  ∀ id reply, outbox.store.reply? id = some reply → reply.1 ≠ peer

theorem silent_of_empties (sound : outbox.Sound) {clearing : Clearing} {id : ThreadId}
    {reply : Identity × PrivacyAction} (waits : outbox.store.reply? id = some reply)
    (emptied : clearing.Empties outbox.store id) : (outbox.after (.cleared clearing)).Silent reply.1 := by
  intro other late left same
  have waited := Store.reply?_of_cleared sound.indexed.toFiled left
  obtain rfl := sound.indexed.reply?_unique waits waited same.symm
  cases left.symm.trans (Store.reply?_of_empties sound.coherent.tidy waits emptied)

/-- While no other answer is given, an answer waits in its thread until that is emptied, and none waits
for the person after that. -/
theorem waits_or_silent (sound : outbox.Sound) {id : ThreadId} {reply : Identity × PrivacyAction}
    (waits : outbox.store.reply? id = some reply) {later : List Happening}
    (faultless : ∀ happening ∈ later, happening.Faultless)
    (leaves : ∀ happening ∈ later, happening.LeavesAnswers id) :
    (outbox.Spared id later → (outbox.live later).store.reply? id = some reply) ∧
      (¬outbox.Spared id later → (outbox.live later).Silent reply.1) := by
  induction later using List.reverseRecOn with
  | nil =>
    refine ⟨fun _ => waits, fun emptied => absurd ?_ emptied⟩
    intro before happening after eq
    cases before <;> cases eq
  | append_singleton before last ih =>
    obtain ⟨faultless_before, faultless_last⟩ := List.forall_mem_append.1 faultless
    obtain ⟨leaves_before, leaves_last⟩ := List.forall_mem_append.1 leaves
    have here := faultless_last last List.mem_cons_self
    have leaves := leaves_last last List.mem_cons_self
    have sound : (outbox.live before).Sound := sound_live faultless_before sound
    obtain ⟨waits, silent⟩ := ih faultless_before leaves_before
    rw [live_snoc, spared_snoc]
    constructor
    · rintro ⟨earlier, spared⟩
      exact reply?_after sound here leaves (waits earlier) spared
    · intro emptied
      by_cases earlier : outbox.Spared id before
      case neg =>
        exact fun other late left => silent earlier other late (reply?_of_after sound here leaves left)
      case pos =>
        have emptied : last.Empties (outbox.live before).store id :=
          not_not.1 fun spared => emptied ⟨earlier, spared⟩
        cases last with
        | told stimulus => exact emptied.elim
        | cleared clearing => exact silent_of_empties sound (waits earlier) emptied

theorem mem_repliesIn {published : List Publication} {reply : Identity × PrivacyAction} :
    reply ∈ repliesIn published ↔ Event.ofReply reply ∈ published.map (·.event) := by
  have asks (event : Event) : event.reply? = some reply ↔ event = .ofReply reply := by
    cases event with
    | setUserPrivacyRequest peer action =>
      obtain ⟨peer', action'⟩ := reply
      simp [Event.reply?, Event.ofReply]
    | _ => simp [Event.reply?, Event.ofReply]
  simp [repliesIn, List.mem_filterMap, List.mem_map, asks]

/-- In every life of the outbox whose store does not fail, in which threads are cleared as well: an
answer that waits, and to which no other answer is given, is sent when there is a connection exactly if
its thread was not emptied until then. -/
theorem reply_sent_iff_spared {past later : List Happening} {host : Host}
    (faultless : ∀ happening ∈ past ++ later, happening.Faultless) (here : host.Faultless)
    {id : ThreadId} {row : Thread} {action : PrivacyAction}
    (found : (live {} past).store.threads.get? id = some row)
    (pending : row.requestStatus.pendingReply = some action)
    (leaves : ∀ happening ∈ later, happening.LeavesAnswers id) :
    .setUserPrivacyRequest row.peer action ∈
        ((live {} (past ++ later)).respond host (.event .connected)).2.map (·.event) ↔
      (live {} past).Spared id later := by
  obtain ⟨faultless_past, faultless_later⟩ := List.forall_mem_append.1 faultless
  have sound : (live {} past).Sound := sound_live faultless_past .empty
  have waits : (live {} past).store.reply? id = some (row.peer, action) := by
    rw [Store.reply?, found, Option.bind_some, Thread.reply?, pending, Option.map_some]
  obtain ⟨kept, silent⟩ := waits_or_silent sound waits faultless_later leaves
  have last : (live {} (past ++ later)).Sound := sound_live faultless .empty
  have turn := turn_connected here last.coherent last.indexed.toFiled
  have split : live {} (past ++ later) = (live {} past).live later := List.foldl_append
  refine (@mem_repliesIn _ (row.peer, action)).symm.trans ?_
  rw [turn.sent]
  refine (Store.mem_waiting last.indexed.toFiled).trans ?_
  rw [split]
  constructor
  · rintro ⟨other, sent⟩
    exact not_not.1 fun emptied => silent emptied other _ sent rfl
  · exact fun spared => ⟨id, kept spared⟩

/-- A stranger writes, we block them while there is no connection and delete what they wrote: they are
not blocked when there is one again. -/
theorem reply_sent_iff_spared_deleted :
    let host : Host := { settings := {}, serverId := toString }
    let message : InboundMessage :=
      ⟨"s1", ⟨"alice@x"⟩, textMime, .ofText "hi", false, 0, none, none, none, none, false⟩
    let past : List Happening := [.told ⟨host, .request (.incoming message)⟩,
      .told ⟨host, .request (.replySubscription ⟨1⟩ .block)⟩]
    let later : List Happening := [.cleared (.deleteMessages [⟨1⟩])]
    ((live {} past).store.threads.get? ⟨1⟩).map (·.requestStatus.pendingReply) = some (some .block) ∧
      ¬(live {} past).Spared ⟨1⟩ later ∧ .setUserPrivacyRequest ⟨"alice@x"⟩ .block ∉
        ((live {} (past ++ later)).respond host (.event .connected)).2.map (·.event) := by
  intro host message past later
  have here : host.Faultless := fun _ => rfl
  have faultless : ∀ happening ∈ past ++ later, happening.Faultless := by
    simp [past, later, Happening.Faultless, Host.Faultless, host]
  have state : ((live {} past).store.threads.get? ⟨1⟩).map
      (fun row => (row.peer, row.requestStatus.pendingReply, row.draft)) =
        some (⟨"alice@x"⟩, some .block, none) := by decide +kernel
  obtain ⟨row, found, fields⟩ := Option.map_eq_some_iff.1 state
  obtain ⟨peer, pending, draft⟩ : row.peer = ⟨"alice@x"⟩ ∧
      row.requestStatus.pendingReply = some .block ∧ row.draft = none := by simpa using fields
  have emptied : ¬(live {} past).Spared ⟨1⟩ later := fun spared =>
    spared [] _ [] rfl ⟨by decide +kernel, by decide +kernel, row, found, by rw [draft]; rfl⟩
  have sent := reply_sent_iff_spared faultless here found pending
    (by simp [later, Happening.LeavesAnswers])
  refine ⟨by rw [found, Option.map_some, pending], emptied, ?_⟩
  rw [← peer]
  exact mt sent.1 emptied

end Outbox

end Messenger

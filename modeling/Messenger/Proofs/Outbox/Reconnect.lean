/-
# What is handed over again after a reconnect

A connection may be lost between handing a message over and hearing of it again, and then nobody
knows whether it arrived.  When there is a connection again a scan hands over what is open.

    handed over    its file, if it has one, is on the server, and stays there   (`ready_play`)
    ready          a scan that seeks it sends it unless it skips it             (`send_mem_plan`)

So everything that was handed over and is open goes out again, unless the scan skips it behind a
group command or because its group is empty, with one exception.  A message that was held for
review is handed over as it is when its peer subscribes, so it is still held for all the scans that
come later, and after a reconnect nothing is heard of it (`resent_iff`).
-/
import Messenger.Proofs.Outbox.Handovers
import Mathlib.Data.List.Nodup

namespace Messenger

/-! ## What is ready -/

namespace Store

variable {store other : Store}

/-- The message is stored, and if it is ours, its file is on the server. -/
def HoldsReady (store : Store) (id : MessageId) : Prop :=
  ∃ message, store.message? id = some message ∧ (message.direction = .outgoing → message.Ready)

theorem HoldsReady.mono {restarted : MessageId → Prop} {id : MessageId}
    (ready : store.HoldsReady id) (keeps : store.Keeps restarted other) : other.HoldsReady id := by
  obtain ⟨old, found, ready⟩ := ready
  obtain ⟨new, stored, follows⟩ := keeps id old found
  exact ⟨new, stored, fun outgoing => follows.ready (ready (follows.direction_eq ▸ outgoing))⟩

theorem Posted.ready {message : MessageContent} (posted : store.Posted message)
    (uploaded : message.needsUpload = false) : message.Ready := by
  intro attachment mem
  have here := posted.file attachment mem
  rw [Option.mem_def] at mem
  rw [MessageContent.needsUpload, mem, Option.any_some, Attachment.needsUpload, here,
    Bool.true_and, Option.isNone_eq_false_iff] at uploaded
  exact uploaded

end Store

section
variable {outbox : Outbox} {host : Host}

theorem Move.ready_make (coherent : outbox.store.Coherent) {move : Move}
    (fits : move.Fits host outbox) {id : MessageId} {publication : Publication}
    (mem : publication ∈ (move.make outbox).2) (sends : publication.event = .sendMessageRequest id) :
    publication.store.HoldsReady id := by
  have subject : publication.event.subject? = some id := by rw [sends]; rfl
  obtain ⟨message, found, rfl, suits, -⟩ := handsOver_of_made coherent fits mem subject
  rw [store_of_made mem]
  exact ⟨message, found, fun outgoing => (coherent.posted found outgoing).ready (suits.send sends)⟩

/-- Whatever was asked to be sent in a life of the outbox is stored and ready. -/
theorem Outbox.ready_play {stimuli : List Stimulus} (coherent : outbox.store.Coherent)
    (faultless : ∀ stimulus ∈ stimuli, stimulus.host.Faultless) {id : MessageId}
    {publication : Publication} (mem : publication ∈ (outbox.play stimuli).2)
    (sends : publication.event = .sendMessageRequest id) :
    (outbox.play stimuli).1.store.HoldsReady id := by
  obtain ⟨before, stimulus, after, rfl, published⟩ := mem_play.1 mem
  have early : (outbox.play before).1.store.Coherent := by
    refine coherent_play coherent fun other mem => ?_
    exact faultless other (List.mem_append_left _ mem)
  have here := faultless stimulus (List.mem_append_right _ List.mem_cons_self)
  obtain ⟨later, move, led, made⟩ := made_of_published early here published
  have ready := Move.ready_make led.coherent made.fits made.mem sends
  exact ready.mono (keeps_published coherent faultless mem)

end

/-! ## What a scan sends -/

namespace Scan

variable {uploadAvailable : Bool} {membersOf : Identity → List Identity}

theorem decisions_ids (stalled : List ThreadId) (messages : List Message) :
    (decisions uploadAvailable membersOf stalled messages).map Prod.fst = messages.map (·.id) := by
  induction messages generalizing stalled with
  | nil => rfl
  | cons first rest ih =>
    unfold decisions
    split
    · exact congrArg _ (ih stalled)
    · exact congrArg _ (ih _)

theorem exists_decision {stalled : List ThreadId} {messages : List Message} {message : Message}
    (mem : message ∈ messages) :
    ∃ decision, (message.id, decision) ∈ decisions uploadAvailable membersOf stalled messages ∧
      (decision = .skip .stalled ∨
        decision = decideFree uploadAvailable membersOf message.toMessageContent) := by
  induction messages generalizing stalled with
  | nil => cases mem
  | cons first rest ih =>
    unfold decisions
    split
    · rcases List.mem_cons.1 mem with rfl | mem
      · exact ⟨_, List.mem_cons_self, Or.inl rfl⟩
      · obtain ⟨decision, decided, how⟩ := ih mem
        exact ⟨decision, List.mem_cons_of_mem _ decided, how⟩
    · rcases List.mem_cons.1 mem with rfl | mem
      · exact ⟨_, List.mem_cons_self, Or.inr rfl⟩
      · obtain ⟨decision, decided, how⟩ := ih mem
        exact ⟨decision, List.mem_cons_of_mem _ decided, how⟩

theorem decideFree_of_ready {message : MessageContent} (ready : message.Ready) :
    decideFree uploadAvailable membersOf message = .send ∨
      decideFree uploadAvailable membersOf message = .skip .emptyGroup ∨
      decideFree uploadAvailable membersOf message = .delete := by
  unfold decideFree
  rw [ready.uploaded]
  split
  · split
    · exact Or.inr (Or.inr rfl)
    · exact Or.inr (Or.inl rfl)
  · exact Or.inl rfl

end Scan

namespace Outbox

variable {outbox : Outbox} {host : Host} {options : ScanOptions}

/-- What a scan decides about the messages that it seeks. -/
def verdicts (outbox : Outbox) (options : ScanOptions) : List (MessageId × Decision) :=
  Scan.decisions outbox.uploadService (outbox.store.membersFor (outbox.store.queryMessages unsent)) []
    (outbox.sought options)

theorem plan_eq (outbox : Outbox) (options : ScanOptions) :
    outbox.plan options = .ofDecisions (outbox.verdicts options) := rfl

theorem verdict_unique (coherent : outbox.store.Coherent) {id : MessageId} {one two : Decision}
    (first : (id, one) ∈ outbox.verdicts options) (second : (id, two) ∈ outbox.verdicts options) :
    one = two := by
  have stored : (outbox.store.messages.values.map (·.id)).Nodup := coherent.tidy.messages.keys_nodup
  have sought : ((outbox.sought options).map (·.id)).Nodup := by
    refine ((List.mergeSort_perm _ _).map _).nodup_iff.2 ?_
    exact stored.sublist ((List.filter_sublist.trans List.filter_sublist).map _)
  have once : ((outbox.verdicts options).map Prod.fst).Nodup := by
    rw [verdicts, Scan.decisions_ids]
    exact sought
  exact congrArg Prod.snd (List.inj_on_of_nodup_map once first second rfl)

theorem send_mem_plan (coherent : outbox.store.Coherent) {message : Message}
    (sought : message ∈ outbox.sought options) (ready : message.Ready) :
    .send message.id ∈ (outbox.plan options).dispatch ↔
      (message.id, .stalled) ∉ (outbox.plan options).skipped ∧
        (message.id, .emptyGroup) ∉ (outbox.plan options).skipped := by
  have kept : (message.id, .delete) ∉ outbox.verdicts options := by
    intro deletes
    have deleted := Plan.mem_delete.2 deletes
    rw [← plan_eq, plan_delete coherent options] at deleted
    cases deleted
  rw [plan_eq, Plan.mem_dispatch, Plan.mem_skipped, Plan.mem_skipped]
  constructor
  · intro sends
    refine ⟨fun skips => ?_, fun skips => ?_⟩
    · cases verdict_unique coherent sends skips
    · cases verdict_unique coherent sends skips
  · rintro ⟨unstalled, somebody⟩
    obtain ⟨decision, decided, how⟩ : ∃ decision, (message.id, decision) ∈ outbox.verdicts options ∧
        (decision = .skip .stalled ∨ decision = Scan.decideFree outbox.uploadService
          (outbox.store.membersFor (outbox.store.queryMessages unsent)) message.toMessageContent) :=
      Scan.exists_decision sought
    have free : decision ≠ .skip .stalled := by
      rintro rfl
      exact unstalled decided
    obtain rfl := how.resolve_left free
    rcases Scan.decideFree_of_ready ready with sends | skips | deletes
    · rw [sends] at decided
      exact decided
    · rw [skips] at decided
      exact absurd decided somebody
    · rw [deletes] at decided
      exact absurd decided kept

end Outbox

/-! ## A new connection -/

namespace Outbox

open Messenger.Action

/-- A run has gone on, and nothing was published about messages. -/
def Run.Beside (run next : Run) : Prop :=
  ∃ told, next.publications = run.publications ++ told ∧
    ∀ publication ∈ told, publication.event.subject? = none

theorem Run.Beside.refl (run : Run) : run.Beside run :=
  ⟨[], (List.append_nil _).symm, fun _ mem => absurd mem List.not_mem_nil⟩

theorem Run.Beside.trans {run middle next : Run} (one : run.Beside middle) (two : middle.Beside next) :
    run.Beside next := by
  obtain ⟨first, eq, plain⟩ := one
  obtain ⟨second, eq', plain'⟩ := two
  refine ⟨first ++ second, by rw [eq', eq, List.append_assoc], fun publication mem => ?_⟩
  exact (List.mem_append.1 mem).elim (plain publication) (plain' publication)

section
variable {host : Host} {outbox : Outbox} (faultless : host.Faultless)
include faultless

theorem on_resendReceipts (run : Run) :
    ∃ next, resendReceipts.on host run = .ok () next ∧ run.Beside next := by
  rw [resendReceipts, on_bind, on_look faultless]
  refine ⟨_, on_forM_publish _, _, rfl, ?_⟩
  intro publication mem
  obtain ⟨message, -, rfl⟩ := List.mem_map.1 mem
  rfl

theorem on_sendSubscriptionReply (thread : Thread) (run : Run) :
    ∃ next, (sendSubscriptionReply thread).on host run = .ok () next ∧ run.Beside next := by
  unfold sendSubscriptionReply
  split
  · exact ⟨run, rfl, .refl run⟩
  case h_2 action _ =>
    rw [on_bind, on_publish]
    refine ⟨_, on_commit faultless _ _, _, rfl, ?_⟩
    intro publication mem
    rw [List.mem_singleton.1 mem]
    rfl

theorem on_sendSubscriptionReplies (run : Run) :
    ∃ next, sendSubscriptionReplies.on host run = .ok () next ∧ run.Beside next := by
  have each (threads : List Thread) (run : Run) :
      ∃ next, (threads.forM sendSubscriptionReply).on host run = .ok () next ∧ run.Beside next := by
    induction threads generalizing run with
    | nil => exact ⟨run, rfl, .refl run⟩
    | cons thread rest ih =>
      obtain ⟨middle, ran, beside⟩ := on_sendSubscriptionReply faultless thread run
      obtain ⟨next, ran', beside'⟩ := ih middle
      refine ⟨next, ?_, beside.trans beside'⟩
      have first : (thread :: rest).forM sendSubscriptionReply =
          sendSubscriptionReply thread >>= fun _ => rest.forM sendSubscriptionReply := rfl
      rw [first, on_bind, ran]
      exact ran'
  rw [sendSubscriptionReplies, on_bind, on_look faultless]
  exact each _ run

/-- When there is a connection, a scan hands over what is open; nothing else that comes is about
messages. -/
theorem respond_connected (outbox : Outbox) : ∃ told,
    (outbox.respond host (.event .connected)).2 =
      ((outbox.plan {}).dispatch.map fun dispatch => outbox.publication dispatch.event) ++ told ∧
    ∀ publication ∈ told, publication.event.subject? = none := by
  obtain ⟨scanned, ran, -, published⟩ := on_resend faultless {} { outbox with connected := true }
  obtain ⟨receipted, ran', beside⟩ := on_resendReceipts faultless scanned
  obtain ⟨last, ran'', beside'⟩ := on_sendSubscriptionReplies faultless receipted
  obtain ⟨told, eq, plain⟩ := beside.trans beside'
  refine ⟨told, ?_, plain⟩
  refine (congrArg Prod.snd (respond_connected_of ran ran' ran'')).trans (eq.trans ?_)
  rw [published]
  rfl

theorem sends_connected {id : MessageId} :
    (∃ publication ∈ (outbox.respond host (.event .connected)).2,
      publication.event = .sendMessageRequest id) ↔ .send id ∈ (outbox.plan {}).dispatch := by
  obtain ⟨told, eq, plain⟩ := respond_connected faultless outbox
  rw [eq]
  constructor
  · rintro ⟨publication, mem, sends⟩
    rcases List.mem_append.1 mem with scanned | beside
    · obtain ⟨dispatch, planned, rfl⟩ := List.mem_map.1 scanned
      cases dispatch <;> cases sends
      exact planned
    · have silent := plain publication beside
      rw [sends] at silent
      cases silent
  · intro planned
    exact ⟨_, List.mem_append_left _ (List.mem_map_of_mem planned), rfl⟩

end

/-- A scan for messages that are not held seeks what is open and ready. -/
theorem sought_of_ready {outbox : Outbox} {message : Message}
    (stored : message ∈ outbox.store.messages.values)
    (outgoing : message.direction = .outgoing) (ready : message.Ready) :
    message ∈ outbox.sought {} ↔ Scan.statusQualifies {} message.status := by
  have media : Scan.mediaQualifies {} message.attachment := by
    unfold Scan.mediaQualifies
    split
    · rfl
    case h_2 attachment has => exact ready attachment has
  rw [mem_sought]
  exact ⟨fun sought => sought.2.2.1, fun status => ⟨stored, outgoing, status, media, nofun⟩⟩

/-- In every life of the outbox, a message of ours that was handed over and has not been answered is
handed over again when the connection is lost and comes back, unless the scan skips it because a
group command holds it back or its group is empty; but what is held for review is not. -/
theorem resent_iff {stimuli : List Stimulus}
    (faultless : ∀ stimulus ∈ stimuli, stimulus.host.Faultless) {lost back : Host}
    (back_faultless : back.Faultless) {id : MessageId} {message : Message}
    (stored : (play {} stimuli).1.store.message? id = some message)
    (outgoing : message.direction = .outgoing)
    (unanswered : message.status ∈ [Status.pending, .sending, .error])
    (handed : ∃ publication ∈ (play {} stimuli).2, publication.event = .sendMessageRequest id) :
    let before := (play {} stimuli).1
    let plan := (before.respond lost (.event .disconnected)).1.plan {}
    (∃ publication ∈
        (before.play [⟨lost, .event .disconnected⟩, ⟨back, .event .connected⟩]).2,
      publication.event = .sendMessageRequest id) ↔
      message.status ≠ .pending ∧ (id, .stalled) ∉ plan.skipped ∧ (id, .emptyGroup) ∉ plan.skipped := by
  intro before plan
  have coherent : before.store.Coherent := coherent_play .empty faultless
  obtain rfl : message.id = id := coherent.tidy.messages.key_eq stored
  have ready : message.Ready := by
    obtain ⟨publication, mem, sends⟩ := handed
    obtain ⟨same, found, ready⟩ := ready_play .empty faultless mem sends
    obtain rfl : same = message := Option.some.inj (found.symm.trans stored)
    exact ready outgoing
  -- losing the connection publishes nothing and leaves the store as it is
  let offline : Outbox := { before with connected := false, uploadService := false }
  have again : (before.play [⟨lost, .event .disconnected⟩, ⟨back, .event .connected⟩]).2 =
      (offline.respond back (.event .connected)).2 := List.append_nil _
  have sought : message ∈ offline.sought {} ↔ Scan.statusQualifies {} message.status :=
    sought_of_ready (coherent.tidy.mem_messages.2 stored) outgoing ready
  rw [again, sends_connected back_faultless]
  by_cases held : message.status = .pending
  case pos =>
    refine iff_of_false (fun planned => ?_) fun resent => resent.1 held
    obtain ⟨earlier, picked, later, eq, own, -⟩ :=
      sought_of_decided (Plan.mem_dispatch.1 planned) nofun
    have listed : picked ∈ offline.sought {} := by simp [eq]
    obtain rfl : picked = message := by
      have found := coherent.tidy.mem_messages.1 (mem_sought.1 listed).1
      rw [own] at found
      exact Option.some.inj (found.symm.trans stored)
    have open_again := sought.1 listed
    rw [held] at open_again
    cases open_again
  case neg =>
    have open_still : Scan.statusQualifies {} message.status := by
      revert unanswered held
      cases message.status <;> decide
    have offline_coherent : offline.store.Coherent := coherent
    rw [send_mem_plan offline_coherent (sought.2 open_still) ready]
    exact (and_iff_right held).symm

/-- A message waits for a reply, goes out when its peer subscribes, and is not handed over again. -/
theorem resent_iff_held :
    let host : Host := { settings := {}, serverId := toString }
    let inputs : List Input := [.openThread ⟨"a@x"⟩ false, .awaitReply ⟨1⟩,
      .request (.sendText ⟨1⟩ "hello" none), .event (.userSubscribed ⟨"a@x"⟩)]
    let stimuli := inputs.map (Stimulus.mk host)
    (∃ publication ∈ (play {} stimuli).2, publication.event = .sendMessageRequest ⟨1⟩) ∧
      ¬∃ publication ∈ ((play {} stimuli).1.play
          [⟨host, .event .disconnected⟩, ⟨host, .event .connected⟩]).2,
        publication.event = .sendMessageRequest ⟨1⟩ := by
  intro host inputs stimuli
  have here : host.Faultless := fun _ => rfl
  have faultless : ∀ stimulus ∈ stimuli, stimulus.host.Faultless :=
    List.forall_mem_map.2 fun _ _ => here
  have held : ((play {} stimuli).1.store.message? ⟨1⟩).map
      (fun message => (message.direction, message.status)) = some (.outgoing, .pending) := by
    decide +kernel
  obtain ⟨message, stored, eq⟩ := Option.map_eq_some_iff.1 held
  obtain ⟨outgoing, pending⟩ := Prod.mk.inj eq
  have events : .sendMessageRequest ⟨1⟩ ∈ (play {} stimuli).2.map (·.event) := by decide +kernel
  have handed := List.mem_map.1 events
  refine ⟨handed, fun again => ?_⟩
  have unanswered : message.status ∈ [Status.pending, .sending, .error] := by
    rw [pending]
    decide
  exact ((resent_iff faultless here stored outgoing unanswered handed).1 again).1 pending

end Outbox

end Messenger

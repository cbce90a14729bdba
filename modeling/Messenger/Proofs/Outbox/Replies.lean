/-
# Answers to conversation requests are sent once

An answer that is given while there is no connection waits in the row of its thread, and one that is
given later for the same thread takes its place.  So an answer is in one of three places:

    asked      it was given for a thread that is there                  (`Outbox.asked`)
    waiting    in the row of the thread, while there is no connection   (`Store.waiting`)
    sent       an event asks for it                                     (`repliesIn`)

What a response sends and leaves is what has waited and what was given, at most (`Turn.conserved`).  What
waits after a life is what was given last and could not be sent (`Unsent`), as long as nobody is made to
wait again in between (`Patient`).
-/
import Messenger.Proofs.Outbox.Lifecycles
import Messenger.Proofs.Outbox.Turns
import Mathlib.Data.List.Perm.Subperm

namespace Messenger

namespace Outbox

variable {outbox : Outbox} {input : Input}

/-! ## Nothing is sent twice -/

theorem left?_eq_some {id : ThreadId} {reply : Identity × PrivacyAction}
    (waits : outbox.left? input id = some reply) :
    outbox.store.reply? id = some reply ∨ outbox.given? input = some reply := by
  unfold left? at waits
  split at waits
  case h_1 =>
    split at waits
    · split at waits
      · cases waits
      · exact Or.inr waits
    · exact Or.inl waits
  case h_2 => cases waits
  case h_3 => exact Or.inl waits

theorem left?_of_linked (idle : outbox.connected = true → ∀ id, outbox.store.reply? id = none)
    (linked : outbox.linked input = true) (id : ThreadId) : outbox.left? input id = none := by
  unfold left?
  split
  case h_1 other action =>
    have connected : outbox.connected = true := linked
    rw [if_pos connected, idle connected, ite_self]
  case h_2 => rfl
  case h_3 unanswered unconnected =>
    unfold Outbox.linked at linked
    split at linked
    · exact absurd rfl unconnected
    · cases linked
    · exact idle linked id

theorem due_or_left (idle : outbox.connected = true → ∀ id, outbox.store.reply? id = none)
    (input : Input) : outbox.due input = [] ∨ (∀ id, outbox.left? input id = none) ∧
      (outbox.due input).Subperm (outbox.store.waiting ++ (outbox.given? input).toList) := by
  unfold due
  split
  case h_1 id action =>
    split
    case isTrue connected =>
      refine Or.inr ⟨fun other => ?_, (List.sublist_append_right _ _).subperm⟩
      show (if other = id then if outbox.connected then none else _ else _) = none
      rw [if_pos connected, idle connected, ite_self]
    case isFalse => exact Or.inl rfl
  case h_2 => exact Or.inr ⟨fun _ => rfl, (List.sublist_append_left _ _).subperm⟩
  case h_3 => exact Or.inl rfl

/-- What is sent and what is left was waiting or was given. -/
theorem Turn.conserved {after : Outbox × List Publication} (turn : Turn outbox input after)
    (bare : ∀ id, input = .awaitReply id → outbox.store.reply? id = none)
    (idle : outbox.connected = true → ∀ id, outbox.store.reply? id = none)
    (filed : outbox.store.Filed) (indexed : after.1.store.Indexed) :
    (repliesIn after.2 ++ after.1.store.waiting).Subperm
      (outbox.store.waiting ++ (outbox.given? input).toList) := by
  rw [turn.sent]
  rcases due_or_left idle input with nothing | ⟨none, due⟩
  · rw [nothing, List.nil_append]
    refine List.subperm_of_subset (indexed.waiting_distinct.of_map _) fun reply waits => ?_
    obtain ⟨id, waits⟩ := (Store.mem_waiting indexed.toFiled).1 waits
    rw [turn.left bare] at waits
    rcases left?_eq_some waits with waited | given
    · exact List.mem_append_left _ ((Store.mem_waiting filed).2 ⟨id, waited⟩)
    · exact List.mem_append_right _ (Option.mem_toList.2 given)
  · have empty : after.1.store.waiting = [] :=
      Store.waiting_eq_nil indexed.toFiled fun id => (turn.left bare id).trans (none id)
    rw [empty, List.append_nil]
    exact due

/-- The answers that are given in a life of the outbox, each to a thread that is there. -/
def asked (outbox : Outbox) : List Stimulus → List (Identity × PrivacyAction)
  | [] => []
  | stimulus :: rest => (outbox.given? stimulus.input).toList ++
      (outbox.respond stimulus.host stimulus.input).1.asked rest

theorem asked_snoc (outbox : Outbox) (stimuli : List Stimulus) (stimulus : Stimulus) :
    outbox.asked (stimuli ++ [stimulus]) =
      outbox.asked stimuli ++ ((outbox.play stimuli).1.given? stimulus.input).toList := by
  induction stimuli generalizing outbox with
  | nil => exact List.append_nil _
  | cons first rest ih =>
    rw [List.cons_append, asked, asked, ih, List.append_assoc]
    rfl

end Outbox

/-! ## Lives of the outbox -/

/-- There was a connection, and it was not lost since. -/
def Linked : List Stimulus → Prop :=
  Since (fun _ stimulus => stimulus.input = .event .connected)
    (fun other => other.input = .event .disconnected)

/-- This is the latest answer that was given for the thread, it was given while there was no connection,
and there has been none since. -/
def Unsent (id : ThreadId) (action : PrivacyAction) : List Stimulus → Prop :=
  Since
    (fun early stimulus => stimulus.input = .request (.replySubscription id action) ∧
      (Outbox.play {} early).1.connected = false ∧
      ∃ thread, (Outbox.play {} early).1.store.threads.get? id = some thread)
    (fun other => other.input = .event .connected ∨
      ∃ action, other.input = .request (.replySubscription id action))

/-- No thread is made to wait again for which an answer is still to be sent. -/
def Patient (stimuli : List Stimulus) : Prop :=
  ∀ before stimulus after, stimuli = before ++ stimulus :: after →
    ∀ id, stimulus.input = .awaitReply id → ∀ action, ¬Unsent id action before

namespace Outbox

variable {stimuli : List Stimulus}

/-- How answers stand after a part of a life. -/
structure Prompt (stimuli : List Stimulus) : Prop where
  indexed : (play {} stimuli).1.store.Indexed
  linked : (play {} stimuli).1.connected = true ↔ Linked stimuli
  idle : (play {} stimuli).1.connected = true → ∀ id, (play {} stimuli).1.store.reply? id = none
  latest : ∀ id action, ((play {} stimuli).1.store.reply? id).map Prod.snd = some action ↔
    Unsent id action stimuli
  conserved : (repliesIn (play {} stimuli).2 ++ (play {} stimuli).1.store.waiting).Subperm
    (asked {} stimuli)

/-- Whether there is a connection is known. -/
theorem linked_snoc {stimulus : Stimulus}
    (linked : (play {} stimuli).1.connected = true ↔ Linked stimuli) :
    (play {} stimuli).1.linked stimulus.input = true ↔ Linked (stimuli ++ [stimulus]) := by
  refine Iff.trans ?_ since_snoc.symm
  unfold Outbox.linked
  split
  case h_1 here => simp [here]
  case h_2 here => simp [here]
  case h_3 connected disconnected =>
    refine linked.trans ⟨fun still => Or.inr ⟨still, disconnected⟩, fun still => ?_⟩
    exact (still.resolve_left connected).1

theorem unsent_snoc {stimulus : Stimulus} {id : ThreadId} {action : PrivacyAction} :
    Unsent id action (stimuli ++ [stimulus]) ↔
      (stimulus.input = .request (.replySubscription id action) ∧ (play {} stimuli).1.connected = false ∧
        ∃ thread, (play {} stimuli).1.store.threads.get? id = some thread) ∨
      Unsent id action stimuli ∧ ¬(stimulus.input = .event .connected ∨
        ∃ action, stimulus.input = .request (.replySubscription id action)) :=
  since_snoc

/-- What waits in a thread is the latest answer that was given for it and could not be sent. -/
theorem latest_snoc {stimulus : Stimulus} {id : ThreadId} {action : PrivacyAction}
    (latest : ((play {} stimuli).1.store.reply? id).map Prod.snd = some action ↔
      Unsent id action stimuli) :
    ((play {} stimuli).1.left? stimulus.input id).map Prod.snd = some action ↔
      Unsent id action (stimuli ++ [stimulus]) := by
  rw [unsent_snoc]
  unfold left?
  split
  case h_1 other given here =>
    by_cases same : id = other
    case pos =>
      subst same
      have gives : ((play {} stimuli).1.given? stimulus.input).map Prod.snd = some action ↔
          given = action ∧ ∃ thread, (play {} stimuli).1.store.threads.get? id = some thread := by
        rw [here]
        show (((play {} stimuli).1.store.peerOf? id).map _).map _ = _ ↔ _
        simp [Store.peerOf?, and_comm]
      cases connected : (play {} stimuli).1.connected with
      | false => simpa [here] using gives
      | true => simp [here]
    case neg => simp [here, same, Ne.symm same, latest]
  case h_2 here => simp [here]
  case h_3 unanswered unconnected =>
    refine latest.trans ⟨fun still => Or.inr ⟨still, ?_⟩, fun still => (still.resolve_left ?_).1⟩
    · rintro (here | ⟨_, here⟩)
      · exact unconnected here
      · exact unanswered _ _ here
    · rintro ⟨here, -⟩
      exact unanswered _ _ here

theorem patient_snoc {stimulus : Stimulus} : Patient (stimuli ++ [stimulus]) ↔ Patient stimuli ∧
    ∀ id, stimulus.input = .awaitReply id → ∀ action, ¬Unsent id action stimuli :=
  forall_split_snoc

/-- Lives are patient in which nobody is made to wait once an answer was given. -/
theorem patient_of_pairwise (order : stimuli.Pairwise fun early late =>
    ∀ id, late.input = .awaitReply id →
      ∀ id action, early.input ≠ .request (.replySubscription id action)) : Patient stimuli := by
  rintro before stimulus after rfl id waits action ⟨early, given, late, rfl, ⟨here, -⟩, -⟩
  have ordered := (List.pairwise_append.1 order).2.2 given (by simp) stimulus List.mem_cons_self
  exact ordered id waits id action here

/-- In a patient life nothing waits in a thread that is made to wait again. -/
theorem Prompt.bare (prompt : Prompt stimuli) {id : ThreadId}
    (patient : ∀ action, ¬Unsent id action stimuli) : (play {} stimuli).1.store.reply? id = none := by
  refine Option.eq_none_iff_forall_ne_some.2 fun reply waits => patient reply.2 ?_
  refine (prompt.latest id reply.2).1 ?_
  rw [waits]
  rfl

theorem prompt_of_patient (faultless : ∀ stimulus ∈ stimuli, stimulus.host.Faultless)
    (patient : Patient stimuli) : Prompt stimuli := by
  induction stimuli using List.reverseRecOn with
  | nil =>
    exact ⟨.empty, ⟨nofun, fun so => absurd so not_since_nil⟩, nofun,
      fun id action => ⟨nofun, fun so => absurd so not_since_nil⟩, List.Subperm.refl _⟩
  | append_singleton before stimulus ih =>
    obtain ⟨coherent, here⟩ := coherent_before faultless rfl
    obtain ⟨earlier, now⟩ := patient_snoc.1 patient
    have prompt := ih (fun other mem => faultless other (List.mem_append_left _ mem)) earlier
    have bare (id : ThreadId) (waits : stimulus.input = .awaitReply id) :
        (play {} before).1.store.reply? id = none := prompt.bare (now id waits)
    have turn : Turn (play {} before).1 stimulus.input _ :=
      turn_respond here coherent prompt.indexed prompt.idle stimulus.input
    have left := turn.left bare
    have indexed := @indexed_respond stimulus.host _ prompt.indexed stimulus.input
    rw [← play_snoc] at indexed
    refine ⟨indexed, ?_, fun connected id => ?_, fun id action => ?_, ?_⟩
    · rw [play_snoc, turn.connected]
      exact linked_snoc prompt.linked
    · rw [play_snoc, turn.connected] at connected
      rw [play_snoc, left]
      exact left?_of_linked prompt.idle connected id
    · rw [play_snoc, left]
      exact latest_snoc (prompt.latest id action)
    · have step := turn.conserved bare prompt.idle prompt.indexed.toFiled (play_snoc _ _ _ ▸ indexed)
      rw [published_snoc, play_snoc, repliesIn_append, asked_snoc, List.append_assoc]
      refine ((List.subperm_append_left _).2 step).trans ?_
      rw [← List.append_assoc]
      exact (List.subperm_append_right _).2 prompt.conserved

/-- In every life of the outbox whose store never fails, and in which no thread is made to wait again
while an answer for it is still to be sent: as long as there is a connection nothing waits, and what
waits in a thread is the latest answer that was given for it and could not be sent.  An answer that is
given while there is a connection is sent in response, and so are, when there is one again, all that
wait, one for each person; nothing is sent otherwise, and no answer more often than it was given. -/
theorem replies_once {stimuli : List Stimulus}
    (faultless : ∀ stimulus ∈ stimuli, stimulus.host.Faultless) (patient : Patient stimuli) :
    let outbox := (play {} stimuli).1
    (outbox.connected = true ↔ Linked stimuli) ∧
    (outbox.connected = true → ∀ id thread, outbox.store.threads.get? id = some thread →
      thread.requestStatus.pendingReply = none) ∧
    (∀ id action, (∃ thread, outbox.store.threads.get? id = some thread ∧
      thread.requestStatus.pendingReply = some action) ↔ Unsent id action stimuli) ∧
    (outbox.store.waiting.map Prod.fst).Nodup ∧
    (∀ host input, host.Faultless →
      repliesIn (outbox.respond host input).2 = outbox.due input) ∧
    (∀ host id action, host.Faultless →
      (outbox.respond host (.request (.replySubscription id action))).2.map (·.event) =
        (outbox.due (.request (.replySubscription id action))).map .ofReply) ∧
    (repliesIn (play {} stimuli).2).Subperm (asked {} stimuli) := by
  intro outbox
  have prompt := prompt_of_patient faultless patient
  have coherent : outbox.store.Coherent := coherent_play .empty faultless
  have indexed : outbox.store.Indexed := prompt.indexed
  have pending (id : ThreadId) (action : PrivacyAction) : (∃ thread, outbox.store.threads.get? id =
      some thread ∧ thread.requestStatus.pendingReply = some action) ↔
        (outbox.store.reply? id).map Prod.snd = some action := by
    unfold Store.reply?
    cases outbox.store.threads.get? id <;> simp [Thread.reply?]
  refine ⟨prompt.linked, fun connected id thread found => ?_, fun id action => ?_,
    indexed.waiting_distinct, fun host input here => ?_, fun host id action here => ?_, ?_⟩
  · refine Option.eq_none_iff_forall_ne_some.2 fun action waits => ?_
    have waits := (pending id action).1 ⟨thread, found, waits⟩
    rw [prompt.idle connected] at waits
    cases waits
  · exact (pending id action).trans (prompt.latest id action)
  · exact (turn_respond here coherent indexed prompt.idle input).sent
  · exact (answered_respond here action indexed prompt.idle id).events
  · exact (List.sublist_append_left _ _).subperm.trans prompt.conserved

/-- A person waits for us, and we change our mind before there is a connection. -/
theorem replies_once_latest :
    let host : Host := { settings := {}, serverId := toString }
    let inputs : List Input := [.openThread ⟨"a@x"⟩ false, .awaitReply ⟨1⟩,
      .request (.replySubscription ⟨1⟩ .accept), .request (.replySubscription ⟨1⟩ .block)]
    let stimuli := inputs.map (Stimulus.mk host)
    Patient stimuli ∧ Unsent ⟨1⟩ .block stimuli ∧ ¬Unsent ⟨1⟩ .accept stimuli ∧
      repliesIn ((play {} stimuli).1.respond host (.event .connected)).2 = [(⟨"a@x"⟩, .block)] := by
  intro host inputs stimuli
  have faultless : ∀ stimulus ∈ stimuli, stimulus.host.Faultless := by
    simp [stimuli, inputs, Host.Faultless, host]
  have patient : Patient stimuli := patient_of_pairwise (by simp [stimuli, inputs])
  obtain ⟨-, -, latest, -, due, -⟩ := replies_once faultless patient
  have state : ((play {} stimuli).1.store.threads.get? ⟨1⟩).map (·.requestStatus.pendingReply) =
      some (some .block) := by decide +kernel
  have waiting : (play {} stimuli).1.store.waiting = [(⟨"a@x"⟩, .block)] := by decide +kernel
  obtain ⟨thread, found, pending⟩ := Option.map_eq_some_iff.1 state
  refine ⟨patient, (latest ⟨1⟩ .block).1 ⟨thread, found, pending⟩, fun accepted => ?_, ?_⟩
  · obtain ⟨other, found', pending'⟩ := (latest ⟨1⟩ .accept).2 accepted
    cases found.symm.trans found'
    cases pending.symm.trans pending'
  · exact (due host (.event .connected) (faultless _ List.mem_cons_self)).trans waiting

end Outbox

end Messenger

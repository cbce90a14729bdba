/-
# Each direction has states of its own

Messages of both directions have one field for their state, and the same updates write it:

    ours          held, sending, sent, received and others, but never incoming or confirmed
    came to us    incoming, or received as long as a receipt is owed for it, and confirmed

An acknowledgement is for messages of one direction (`Addressed`), and a retry of many messages asks for
those that are ours.  A retry of one message asks for nothing.  So a message that came to us leaves the
states of its direction when it is to be started over, and at no other time, and it comes back to them
when its receipt is sent (`statuses_by_direction`).
-/
import Messenger.Proofs.Outbox.Requests
import Messenger.Proofs.Outbox.States

namespace Messenger

/-! ## What was so and has not ended -/

/-- At some time this was so, and nothing has ended it since. -/
def Since (what : List Stimulus → Stimulus → Prop) (ends : Stimulus → Prop)
    (stimuli : List Stimulus) : Prop :=
  ∃ early stimulus late, stimuli = early ++ stimulus :: late ∧ what early stimulus ∧
    ∀ other ∈ late, ¬ends other

theorem not_since_nil {what : List Stimulus → Stimulus → Prop} {ends : Stimulus → Prop} :
    ¬Since what ends [] := by
  rintro ⟨early, stimulus, late, eq, -⟩
  cases early <;> cases eq

theorem since_snoc {what : List Stimulus → Stimulus → Prop} {ends : Stimulus → Prop}
    {stimuli : List Stimulus} {stimulus : Stimulus} : Since what ends (stimuli ++ [stimulus]) ↔
      what stimuli stimulus ∨ Since what ends stimuli ∧ ¬ends stimulus := by
  constructor
  · rintro ⟨early, one, late, eq, so, lasts⟩
    rcases List.eq_nil_or_concat late with rfl | ⟨rest, last, rfl⟩
    · obtain ⟨rfl, same⟩ := List.append_inj' eq rfl
      cases same
      exact Or.inl so
    · rw [List.concat_eq_append] at eq lasts
      rw [← List.cons_append, ← List.append_assoc] at eq
      obtain ⟨rfl, same⟩ := List.append_inj' eq rfl
      cases same
      refine Or.inr ⟨⟨early, one, rest, rfl, so, fun other mem => ?_⟩, ?_⟩
      · exact lasts other (List.mem_append_left _ mem)
      · exact lasts _ (List.mem_append_right _ List.mem_cons_self)
  · rintro (so | ⟨⟨early, one, late, rfl, so, lasts⟩, last⟩)
    · exact ⟨stimuli, stimulus, [], rfl, so, List.forall_mem_nil _⟩
    · refine ⟨early, one, late ++ [stimulus], by simp, so, fun other mem => ?_⟩
      rcases List.mem_append.1 mem with mem | mem
      · exact lasts other mem
      · rwa [List.mem_singleton.1 mem]

/-- The message, which was stored, was started over, and no receipt for it was sent since. -/
def StartedOver (id : MessageId) : List Stimulus → Prop :=
  Since
    (fun early stimulus => stimulus.input = .request (.retryMessage id) ∧
      ∃ message, (Outbox.play {} early).1.store.message? id = some message)
    (fun other => other.input = .event (.deliveryReceiptSent id))

/-- The message arrived with a receipt asked for, and none was sent since. -/
def ReceiptOwed (id : MessageId) : List Stimulus → Prop :=
  Since
    (fun early stimulus =>
      (∃ inbound, stimulus.input = .request (.incoming inbound) ∧ inbound.requestReceipt = true) ∧
      (Outbox.play {} early).1.store.message? id = none ∧
      ∃ message, (Outbox.play {} (early ++ [stimulus])).1.store.message? id = some message)
    (fun other => other.input = .event (.deliveryReceiptSent id))

/-- Every acknowledgement is for a message of the right direction, if the message is stored. -/
def Addressed (stimuli : List Stimulus) : Prop :=
  ∀ before stimulus after, stimuli = before ++ stimulus :: after →
    ∀ event ack message, stimulus.input = .event event → event.acknowledgement? = some ack →
      (Outbox.play {} before).1.store.message? ack.id = some message →
        message.direction = ack.direction

theorem addressed_snoc {stimuli : List Stimulus} {stimulus : Stimulus} :
    Addressed (stimuli ++ [stimulus]) ↔ Addressed stimuli ∧
      ∀ event ack message, stimulus.input = .event event → event.acknowledgement? = some ack →
        (Outbox.play {} stimuli).1.store.message? ack.id = some message →
          message.direction = ack.direction :=
  forall_split_snoc

/-- The state of an incoming message, as it follows from the life so far. -/
inductive InboundState (stimuli : List Stimulus) (id : MessageId) (status : Status) : Prop
  | startedOver (again : StartedOver id stimuli) (sending : status = .sending)
  | owed (kept : ¬StartedOver id stimuli) (owed : ReceiptOwed id stimuli)
      (received : status = .received)
  | settled (kept : ¬StartedOver id stimuli) (settled : ¬ReceiptOwed id stimuli)
      (state : status = .incoming ∨ status = .confirmed)

namespace Outbox

variable {stimuli : List Stimulus} {stimulus : Stimulus} {id : MessageId}

theorem play_snoc (outbox : Outbox) (stimuli : List Stimulus) (stimulus : Stimulus) :
    (outbox.play (stimuli ++ [stimulus])).1 =
      ((outbox.play stimuli).1.respond stimulus.host stimulus.input).1 :=
  play_append outbox stimuli [stimulus]

theorem stored_of_early (faultless : ∀ other ∈ stimuli, other.host.Faultless) {early late : List Stimulus}
    (eq : stimuli = early ++ late)
    (stored : ∃ message, (play {} early).1.store.message? id = some message) :
    ∃ message, (play {} stimuli).1.store.message? id = some message := by
  subst eq
  obtain ⟨old, found⟩ := stored
  have coherent : (play {} early).1.store.Coherent :=
    coherent_play .empty fun other mem => faultless other (List.mem_append_left _ mem)
  rw [play_append]
  obtain ⟨new, kept, -⟩ :=
    keeps_play coherent (fun other mem => faultless other (List.mem_append_right _ mem)) id old found
  exact ⟨new, kept⟩

theorem stored_of_startedOver (faultless : ∀ other ∈ stimuli, other.host.Faultless)
    (again : StartedOver id stimuli) :
    ∃ message, (play {} stimuli).1.store.message? id = some message := by
  obtain ⟨early, one, late, eq, ⟨-, stored⟩, -⟩ := again
  exact stored_of_early faultless eq stored

theorem stored_of_receiptOwed (faultless : ∀ other ∈ stimuli, other.host.Faultless)
    (owed : ReceiptOwed id stimuli) :
    ∃ message, (play {} stimuli).1.store.message? id = some message := by
  obtain ⟨early, one, late, eq, ⟨-, -, stored⟩, -⟩ := owed
  have eq : stimuli = (early ++ [one]) ++ late := by simp [eq]
  exact stored_of_early faultless eq stored

/-- An input that neither starts the message over nor tells that its receipt was sent leaves what has
been so. -/
theorem inboundState_snoc {status : Status} (state : InboundState stimuli id status)
    (stored : ∃ message, (play {} stimuli).1.store.message? id = some message)
    (plain : stimulus.input ≠ .request (.retryMessage id))
    (unsent : stimulus.input ≠ .event (.deliveryReceiptSent id)) :
    InboundState (stimuli ++ [stimulus]) id status := by
  have again : StartedOver id (stimuli ++ [stimulus]) ↔ StartedOver id stimuli := by
    refine since_snoc.trans ⟨?_, fun again => Or.inr ⟨again, unsent⟩⟩
    rintro (⟨asked, -⟩ | ⟨earlier, -⟩)
    · exact absurd asked plain
    · exact earlier
  have owes : ReceiptOwed id (stimuli ++ [stimulus]) ↔ ReceiptOwed id stimuli := by
    refine since_snoc.trans ⟨?_, fun owed => Or.inr ⟨owed, unsent⟩⟩
    rintro (⟨-, unknown, -⟩ | ⟨owed, -⟩)
    · obtain ⟨message, found⟩ := stored
      cases unknown.symm.trans found
    · exact owed
  cases state with
  | startedOver now sending => exact .startedOver (again.2 now) sending
  | owed kept now received => exact .owed (mt again.1 kept) (owes.2 now) received
  | settled kept settled state => exact .settled (mt again.1 kept) (mt owes.1 settled) state

theorem inboundState_of_receipt (sent : stimulus.input = .event (.deliveryReceiptSent id)) :
    InboundState (stimuli ++ [stimulus]) id .confirmed := by
  refine .settled (fun again => ?_) (fun owed => ?_) (Or.inr rfl)
  · obtain ⟨asked, -⟩ | ⟨-, unsent⟩ := since_snoc.1 again
    · cases sent.symm.trans asked
    · exact unsent sent
  · obtain ⟨⟨inbound, asked, -⟩, -⟩ | ⟨-, unsent⟩ := since_snoc.1 owed
    · cases sent.symm.trans asked
    · exact unsent sent

theorem inboundState_of_arrival (faultless : ∀ other ∈ stimuli, other.host.Faultless)
    (unknown : (play {} stimuli).1.store.message? id = none) {inbound : InboundMessage}
    (asked : stimulus.input = .request (.incoming inbound))
    (stored : ∃ message, (play {} (stimuli ++ [stimulus])).1.store.message? id = some message) :
    InboundState (stimuli ++ [stimulus]) id inbound.arrivalStatus := by
  have absent : ¬∃ message, (play {} stimuli).1.store.message? id = some message := by
    rintro ⟨message, found⟩
    cases unknown.symm.trans found
  have kept : ¬StartedOver id (stimuli ++ [stimulus]) := by
    intro again
    obtain ⟨retried, -⟩ | ⟨earlier, -⟩ := since_snoc.1 again
    · cases asked.symm.trans retried
    · exact absent (stored_of_startedOver faultless earlier)
  unfold InboundMessage.arrivalStatus
  split
  case isTrue requested =>
    exact .owed kept (since_snoc.2 (Or.inl ⟨⟨inbound, asked, requested⟩, unknown, stored⟩)) rfl
  case isFalse unrequested =>
    refine .settled kept (fun owed => ?_) (Or.inl rfl)
    obtain ⟨⟨other, same, requested⟩, -⟩ | ⟨owed, -⟩ := since_snoc.1 owed
    · cases asked.symm.trans same
      exact unrequested requested
    · exact absent (stored_of_receiptOwed faultless owed)

/-- The message is in a state of its direction. -/
structure InLifecycle (stimuli : List Stimulus) (id : MessageId) (message : Message) : Prop where
  outgoing : message.direction = .outgoing →
    message.status ≠ .incoming ∧ message.status ≠ .confirmed
  incoming : message.direction = .incoming → InboundState stimuli id message.status

theorem outgoing_respond {before : Outbox} {new : Message} {input : Input}
    (becomes : before.store.Becomes input id new) (outgoing : new.direction = .outgoing)
    (suited : ∀ old, before.store.message? id = some old → old.direction = .outgoing →
      old.status ≠ .incoming ∧ old.status ≠ .confirmed)
    (addressed : ∀ event ack message, input = .event event → event.acknowledgement? = some ack →
      before.store.message? ack.id = some message → message.direction = ack.direction) :
    new.status ≠ .incoming ∧ new.status ≠ .confirmed := by
  cases stored : before.store.message? id with
  | some old =>
    obtain ⟨direction, restated⟩ := (Store.becomes_stored stored).1 becomes
    have ours : old.direction = .outgoing := direction.symm.trans outgoing
    cases restated with
    | kept same => rw [same]; exact suited old stored ours
    | started _ sending => rw [sending]; decide
    | restarted _ sending => rw [sending]; decide
    | acknowledged event ack told acks about status =>
      rw [status]
      refine Event.acks_outgoing acks ?_
      exact (addressed event ack old told acks (about ▸ stored)).symm.trans ours
  | none =>
    cases (Store.becomes_unknown stored).1 becomes with
    | ours _ fresh => rcases fresh with fresh | fresh <;> rw [fresh] <;> decide
    | arrived inbound _ incoming => cases outgoing.symm.trans incoming

theorem incoming_respond (faultless : ∀ other ∈ stimuli, other.host.Faultless) {new : Message}
    (becomes : (play {} stimuli).1.store.Becomes stimulus.input id new)
    (found : (play {} (stimuli ++ [stimulus])).1.store.message? id = some new)
    (incoming : new.direction = .incoming)
    (suited : ∀ old, (play {} stimuli).1.store.message? id = some old → old.direction = .incoming →
      InboundState stimuli id old.status)
    (addressed : Addressed (stimuli ++ [stimulus])) :
    InboundState (stimuli ++ [stimulus]) id new.status := by
  cases stored : (play {} stimuli).1.store.message? id with
  | some old =>
    obtain ⟨direction, restated⟩ := (Store.becomes_stored stored).1 becomes
    have inbound : old.direction = .incoming := direction.symm.trans incoming
    have state := suited old stored inbound
    cases restated with
    | kept same plain late =>
      by_cases sent : stimulus.input = .event (.deliveryReceiptSent id)
      case pos =>
        have last : old.status = .confirmed := Status.confirmed_of_last (late _ _ sent rfl rfl)
        rw [same, last]
        exact inboundState_of_receipt sent
      case neg =>
        rw [same]
        exact inboundState_snoc state ⟨old, stored⟩ plain sent
    | started held =>
      -- What came to us is never held.
      rw [held] at state
      rcases state with ⟨_, state⟩ | ⟨_, _, state⟩ | ⟨_, _, state | state⟩ <;> cases state
    | restarted asked sending =>
      exact .startedOver (since_snoc.2 (Or.inl ⟨asked, old, stored⟩)) sending
    | acknowledged event ack told acks about status =>
      have right := (addressed_snoc.1 addressed).2 event ack old told acks (about ▸ stored)
      obtain ⟨rfl, confirmed⟩ := Event.acks_incoming acks (right.symm.trans inbound)
      rw [status, confirmed]
      exact inboundState_of_receipt (about ▸ told)
  | none =>
    cases (Store.becomes_unknown stored).1 becomes with
    | ours outgoing => cases incoming.symm.trans outgoing
    | arrived inbound asked _ status =>
      rw [status]
      exact inboundState_of_arrival faultless stored asked ⟨new, found⟩

/-- In every life of the outbox in which acknowledgements are for messages of the right direction. -/
theorem inLifecycle_of_addressed {stimuli : List Stimulus}
    (faultless : ∀ stimulus ∈ stimuli, stimulus.host.Faultless) (addressed : Addressed stimuli)
    (message : Message) (found : (play {} stimuli).1.store.message? id = some message) :
    InLifecycle stimuli id message := by
  induction stimuli using List.reverseRecOn generalizing message with
  | nil => cases found
  | append_singleton before stimulus ih =>
    have earlier : ∀ other ∈ before, other.host.Faultless :=
      fun other mem => faultless other (List.mem_append_left _ mem)
    obtain ⟨coherent, here⟩ := coherent_before faultless rfl
    -- The life without its last input is addressed as well, so its messages are as they should be.
    have suited := ih earlier (addressed_snoc.1 addressed).1
    have becomes : (play {} before).1.store.Becomes stimulus.input id message :=
      becomes_respond coherent here stimulus.input (play_snoc _ _ _ ▸ found)
    constructor
    · intro outgoing
      exact outgoing_respond becomes outgoing (fun old stored => (suited old stored).outgoing)
        (addressed_snoc.1 addressed).2
    · intro incoming
      exact incoming_respond earlier becomes found incoming
        (fun old stored => (suited old stored).incoming) addressed

/-- In every life of the outbox in which acknowledgements are for messages of the right direction, no
message of ours is ever incoming or confirmed.  A message that came to us is in a state of its
direction exactly if it was not started over since its receipt was sent last, and is sending
otherwise; it is received exactly as long as its receipt is owed, unless it was started over. -/
theorem statuses_by_direction {stimuli : List Stimulus}
    (faultless : ∀ stimulus ∈ stimuli, stimulus.host.Faultless) (addressed : Addressed stimuli)
    (id : MessageId) (message : Message)
    (found : (play {} stimuli).1.store.message? id = some message) :
    (message.direction = .outgoing → message.status ≠ .incoming ∧ message.status ≠ .confirmed) ∧
    (message.direction = .incoming →
      (message.status = .incoming ∨ message.status = .received ∨ message.status = .confirmed ↔
        ¬StartedOver id stimuli) ∧
      (StartedOver id stimuli → message.status = .sending) ∧
      (message.status = .received ↔ ReceiptOwed id stimuli ∧ ¬StartedOver id stimuli)) := by
  have suits := inLifecycle_of_addressed faultless addressed message found
  refine ⟨suits.outgoing, fun incoming => ?_⟩
  rcases suits.incoming incoming with ⟨again, sending⟩ | ⟨kept, owed, received⟩ | ⟨kept, settled, state⟩
  · simp [again, sending]
  · simp [kept, owed, received]
  · rcases state with state | state <;> simp [kept, settled, state]

/-- A message that came to us, and for which a receipt is owed, is sending after it was started over. -/
theorem statuses_by_direction_retried :
    let host : Host := { settings := {}, serverId := toString }
    let inbound : InboundMessage := {
      serverId := "s1", sender := ⟨"a@x"⟩, mime := textMime, body := Octets.ofText "hi",
      encrypted := false, timestamp := 0, attachment := none, location := none, inReplyTo := none,
      group := none, requestReceipt := true }
    let stimuli := [.request (.incoming inbound), .request (.retryMessage ⟨1⟩)].map (Stimulus.mk host)
    Addressed stimuli ∧ StartedOver ⟨1⟩ stimuli ∧
      ∃ message, (play {} stimuli).1.store.message? ⟨1⟩ = some message ∧
        message.direction = .incoming ∧ message.status = .sending ∧
        ¬(message.status = .incoming ∨ message.status = .received ∨ message.status = .confirmed) := by
  intro host inbound stimuli
  have faultless : ∀ stimulus ∈ stimuli, stimulus.host.Faultless := by
    simp [stimuli, Host.Faultless, host]
  have addressed : Addressed stimuli := by
    intro before stimulus after eq event ack message told
    have quiet : ∀ stimulus ∈ stimuli, stimulus.input ≠ .event event := by
      simp [stimuli]
    exact absurd told (quiet stimulus (by simp [eq]))
  have state : ((play {} stimuli).1.store.message? ⟨1⟩).map
      (fun message => (message.direction, message.status)) = some (.incoming, .sending) := by
    decide +kernel
  obtain ⟨message, found, state⟩ := Option.map_eq_some_iff.1 state
  obtain ⟨incoming, sending⟩ := Prod.mk.inj state
  have out : ¬(message.status = .incoming ∨ message.status = .received ∨
      message.status = .confirmed) := by
    rw [sending]
    decide
  have lasts := ((statuses_by_direction faultless addressed ⟨1⟩ message found).2 incoming).1
  exact ⟨addressed, not_not.1 (mt lasts.2 out), message, found, incoming, sending, out⟩

end Outbox

end Messenger

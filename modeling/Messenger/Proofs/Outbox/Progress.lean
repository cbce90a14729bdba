/-
# Delivery is never taken back

Acknowledgements come late, twice, out of order, or for a message of another kind; rows are written
over by uploads and previews that were read long before; and a retry sets the states of many
messages at once.  Whatever comes in whatever order, no message is set back (`statuses_onward`),
because each of the three asks first, in its own way:

    an acknowledgement    whether it brings the message further
    a new row             nothing, but it leaves the state as it is
    a retry of many       for the messages that wait, which have come nowhere

A retry of one message asks nothing.  It starts that message over, and no other.
-/
import Messenger.Proofs.Outbox.Messages

namespace Messenger.Outbox

open Messenger.Action

variable {outbox : Outbox} {host : Host}

theorem request_retryMessage_unknown (faultless : host.Faultless) {id : MessageId}
    (unknown : outbox.store.message? id = none) :
    { outbox : Service }.request host (.retryMessage id) =
      ⟨.error (.messageNotFound id.val), outbox, [], [], []⟩ := by
  have ran : (perform (.retryMessage id)).on host { outbox with } =
      .error (.messageNotFound id.val) { outbox with } := by
    rw [perform, on_map, retryMessage, on_bind, on_look faultless]
    simp only [unknown]
    rfl
  exact run_of_error ran

theorem request_retryMessage (coherent : outbox.store.Coherent) (faultless : host.Faultless)
    {id : MessageId} {message : Message} (stored : outbox.store.message? id = some message) :
    let outcome := { outbox : Service }.request host (.retryMessage id)
    outcome.result = .ok (.count 1) ∧
      outcome.outbox =
        { outbox with store := (outbox.store.updateStatuses [id] .sending host.now).store } := by
  have restarted : { outbox with
      store := (outbox.store.updateStatuses [id] .sending host.now).store : Outbox }.store.Coherent :=
    coherent.updateStatuses [id] host.now
  obtain ⟨next, resent, left, -⟩ := on_resend faultless (.forPeer message.peer) { outbox with
    store := (outbox.store.updateStatuses [id] .sending host.now).store
    changes := (outbox.store.updateStatuses [id] .sending host.now).changes }
  have ran : (perform (.retryMessage id)).on host { outbox with } = .ok (.count 1) next := by
    rw [perform, on_map, retryMessage, on_bind, on_look faultless]
    simp only [stored]
    rw [on_bind, on_read]
    dsimp only
    rw [on_bind, on_commit faultless]
    dsimp only [List.nil_append]
    rw [on_bind, resent]
    rfl
  have outcome : { outbox : Service }.request host (.retryMessage id) = _ := run_of_ok ran
  rw [outcome]
  exact ⟨rfl, left.trans (Move.make_scan restarted _)⟩

/-- In every life of the outbox, whatever it is told next, delivery of a stored message stays as it
is or comes further, unless it is this message that is to be started over.  Starting a message over
is refused if it is not stored; otherwise it sets the state of this message, and of no other. -/
theorem statuses_onward {stimuli : List Stimulus}
    (faultless : ∀ stimulus ∈ stimuli, stimulus.host.Faultless) (here : host.Faultless)
    (input : Input) :
    let before := (play {} stimuli).1
    let after := (before.respond host input).1
    (∀ id old, before.store.message? id = some old → input ≠ .request (.retryMessage id) →
      ∃ new, after.store.message? id = some new ∧
        (new.status = old.status ∨ old.status.advancesTo new.status)) ∧
    ∀ id, input = .request (.retryMessage id) →
      let result := ({ outbox := before : Service }.request host (.retryMessage id)).result
      match before.store.message? id with
      | none => result = .error (.messageNotFound id.val) ∧ after = before
      | some _ => result = .ok (.count 1) ∧
        ∀ other old, before.store.message? other = some old →
          ∃ new, after.store.message? other = some new ∧
            new.status = if other = id then .sending else old.status := by
  intro before after
  have coherent : before.store.Coherent := coherent_play .empty faultless
  refine ⟨fun id old found plain => ?_, ?_⟩
  · obtain ⟨new, stored, follows⟩ := keeps_respond coherent here input id old found
    exact ⟨new, stored, follows.onward.resolve_left plain⟩
  · rintro id rfl result
    split
    case h_1 unknown =>
      have outcome := request_retryMessage_unknown here unknown
      exact ⟨congrArg Outcome.result outcome, congrArg Outcome.outbox outcome⟩
    case h_2 message stored =>
      obtain ⟨counted, left⟩ := request_retryMessage coherent here stored
      refine ⟨counted, fun other old found => ?_⟩
      have rows : after.store.messages.get? other = _ :=
        (congrArg (·.store.messages.get? other) left).trans
          (Store.get?_updateStatuses coherent.tidy.messages [id] .sending host.now other)
      rw [show before.store.messages.get? other = some old from found] at rows
      by_cases same : other = id
      · refine ⟨_, rows.trans (if_pos (List.mem_singleton.2 same)), ?_⟩
        rw [if_pos same]
        rfl
      · refine ⟨_, rows.trans (if_neg (mt List.mem_singleton.1 same)), ?_⟩
        rw [if_neg same]

/-- A message that was delivered is delivered, when the server says afterwards that it has it. -/
theorem statuses_onward_late :
    let host : Host := { settings := {}, serverId := toString }
    let inputs : List Input := [.openThread ⟨"a@x"⟩ false, .request (.sendText ⟨1⟩ "hello" none),
      .event (.messageDelivered ⟨1⟩)]
    let before := (play {} (inputs.map (Stimulus.mk host))).1
    (before.store.message? ⟨1⟩).map (·.status) = some .received ∧
      ∃ new, (before.respond host (.event (.messageSent ⟨1⟩))).1.store.message? ⟨1⟩ = some new ∧
        (new.status = .received ∨ Status.received.advancesTo new.status) := by
  intro host inputs before
  have delivered : (before.store.message? ⟨1⟩).map (·.status) = some .received := by decide +kernel
  obtain ⟨old, found, state⟩ := Option.map_eq_some_iff.1 delivered
  have here : host.Faultless := fun _ => rfl
  have faultless : ∀ stimulus ∈ inputs.map (Stimulus.mk host), stimulus.host.Faultless :=
    List.forall_mem_map.2 fun _ _ => here
  have onward := (statuses_onward faultless here (.event (.messageSent ⟨1⟩))).1 ⟨1⟩ old found nofun
  rw [state] at onward
  exact ⟨delivered, onward⟩

end Messenger.Outbox

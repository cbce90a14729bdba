/-
# What is so in every life of the outbox

A life is whatever the outbox is told, in any order.  Every move, and so every response and every
life, keeps the store coherent; this is where what is shown of moves becomes something that is so
of every outbox that can be reached.
-/
import Messenger.Proofs.Outbox.Responses
import Messenger.Proofs.Outbox.Scans

namespace Messenger

variable {outbox : Outbox} {host : Host}

theorem Move.make_scan (coherent : outbox.store.Coherent) (options : ScanOptions) :
    ((Move.scan options).make outbox).1 = outbox := by
  simp [Move.make, Outbox.plan_delete coherent options]

/-- Whatever the outbox does, its store stays coherent. -/
theorem Move.coherent_make (coherent : outbox.store.Coherent) {move : Move}
    (fits : move.Fits host outbox) : (move.make outbox).1.store.Coherent := by
  cases move with
  | write entry => exact coherent.after fits
  | post content => exact coherent.insertMessage fits.1
  | restart id now => exact coherent.updateStatuses [id] now
  | scan options =>
    rw [make_scan coherent]
    exact coherent
  | _ => exact coherent

namespace Outbox

theorem coherent_respond (coherent : outbox.store.Coherent) (faultless : host.Faultless)
    (input : Input) : (outbox.respond host input).1.store.Coherent :=
  (walk_respond faultless coherent.tidy.messages input).keeps coherent
    fun _ _ coherent _ fits => Move.coherent_make coherent fits

theorem coherent_perform (coherent : outbox.store.Coherent) (faultless : host.Faultless)
    (request : Request) : ((perform request).run host outbox).outbox.store.Coherent :=
  coherent_respond coherent faultless (.request request)

theorem coherent_play {stimuli : List Stimulus} (coherent : outbox.store.Coherent)
    (faultless : ∀ stimulus ∈ stimuli, stimulus.host.Faultless) :
    (outbox.play stimuli).1.store.Coherent := by
  induction stimuli generalizing outbox with
  | nil => exact coherent
  | cons stimulus rest ih =>
    have next := coherent_respond coherent (faultless _ List.mem_cons_self) stimulus.input
    exact ih next fun other mem => faultless other (List.mem_cons_of_mem _ mem)

theorem coherent_before {stimuli before after : List Stimulus} {stimulus : Stimulus}
    (faultless : ∀ stimulus ∈ stimuli, stimulus.host.Faultless)
    (eq : stimuli = before ++ stimulus :: after) :
    (play {} before).1.store.Coherent ∧ stimulus.host.Faultless := by
  subst eq
  refine ⟨coherent_play .empty fun other mem => ?_, ?_⟩
  · exact faultless other (List.mem_append_left _ mem)
  · exact faultless stimulus (List.mem_append_right _ List.mem_cons_self)

theorem play_append (outbox : Outbox) (before after : List Stimulus) :
    (outbox.play (before ++ after)).1 = ((outbox.play before).1.play after).1 := by
  induction before generalizing outbox with
  | nil => rfl
  | cons stimulus rest ih => exact ih _

end Outbox

end Messenger

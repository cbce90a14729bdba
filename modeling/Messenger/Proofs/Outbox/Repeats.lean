/-
# What was handed over is not handed over again

A message that the server has, or that is on its way there (`Status.isHandedOver`), should not be handed
over once more unless somebody asks for it.  First attempts and scans look at the state of a message
before; the end of an upload does not:

    attempt, resume     not handed over
    scan                in a state that qualifies, which is none of these
    complete            whatever the state is

So no file is asked for again, and no message is sent again exactly where every upload that ends finds
its message not handed over yet (`nothing_repeated_iff`).  That is not so by itself: a file may be asked
for twice before the first upload ends, and if its message is acknowledged between the two ends, the
second sends it again.
-/
import Messenger.Proofs.Outbox.Requests

namespace Messenger

/-- A message about which something is asked was not handed over. -/
def Publication.Unhanded (publication : Publication) : Prop :=
  ∀ id message, publication.event.subject? = some id → publication.store.message? id = some message →
    message.status.isHandedOver = false

/-- Every report answers a request of its own: so far, the work was asked for more often than it was
reported. -/
def AnsweringOnce (stimuli : List Stimulus) : Prop :=
  ∀ before stimulus after, stimuli = before ++ stimulus :: after →
    ∀ work, stimulus.input.reports? = some work →
      before.countP (fun earlier => earlier.input.reports? = some work) <
        (Outbox.play {} before).2.countP fun publication => publication.event.asks? = some work

theorem answeringOnce_snoc {stimuli : List Stimulus} {stimulus : Stimulus} :
    AnsweringOnce (stimuli ++ [stimulus]) ↔ AnsweringOnce stimuli ∧
      ∀ work, stimulus.input.reports? = some work →
        stimuli.countP (fun earlier => earlier.input.reports? = some work) <
          (Outbox.play {} stimuli).2.countP fun publication => publication.event.asks? = some work :=
  forall_split_snoc

namespace Outbox

variable {outbox : Outbox} {host : Host} {input : Input}

/-- Nothing that any other input than the end of an upload makes the outbox publish is a repetition. -/
theorem unhanded_of_plain (coherent : outbox.store.Coherent) (faultless : host.Faultless)
    (plain : ∀ id remote, input ≠ .event (.uploadCompleted id remote)) :
    ∀ publication ∈ (outbox.respond host input).2, publication.Unhanded := by
  intro publication mem id message subject stored
  obtain ⟨later, move, led, made⟩ := made_of_published coherent faultless mem
  obtain ⟨row, found, rfl, -, hands⟩ :=
    Move.handsOver_of_made led.coherent made.fits made.mem subject
  rw [Move.store_of_made made.mem] at stored
  obtain rfl : row = message := Option.some.inj (found.symm.trans stored)
  cases hands with
  | attempt _ unhanded => exact unhanded
  | resume unhanded => exact unhanded
  | scan options sought => exact Scan.unhanded_of_qualifies (mem_sought.1 sought).2.2.1
  | complete =>
    obtain ⟨remote, eq⟩ := made.causes
    exact absurd eq (plain row.id remote)

/-- The end of an upload repeats nothing exactly if its message was not handed over. -/
theorem unhanded_uploadCompleted (coherent : outbox.store.Coherent) (faultless : host.Faultless)
    (id : MessageId) (remote : String) :
    (∀ publication ∈ (outbox.respond host (.event (.uploadCompleted id remote))).2,
      publication.Unhanded) ↔ ∀ message, outbox.store.message? id = some message →
        message.attachment.isSome → message.status.isHandedOver = false := by
  have keyed := coherent.tidy.messages
  rw [respond_uploadCompleted faultless keyed, List.forall_mem_map]
  constructor
  · intro unhanded message found has
    obtain ⟨attachment, file⟩ := Option.isSome_iff_exists.1 has
    have written : uploaded? outbox.store id remote = some (uploaded remote message attachment) := by
      rw [uploaded?, found, Option.bind_some, file, Option.map_some]
    have free := unhanded _ (Option.mem_toList.2 written) id (uploaded remote message attachment) rfl
      (message?_uploaded keyed written)
    exact free
  · intro unhanded row mem own message subject stored
    have written := Option.mem_toList.1 mem
    obtain rfl : id = own := Option.some.inj subject
    obtain rfl : row = message :=
      Option.some.inj ((message?_uploaded keyed written).symm.trans stored)
    obtain ⟨message, found, filled⟩ := Option.bind_eq_some_iff.1 written
    obtain ⟨attachment, file, rfl⟩ := Option.map_eq_some_iff.1 filled
    exact unhanded message found (by rw [file]; rfl)

theorem unhanded_or_ended {stimuli : List Stimulus} {publication : Publication}
    (faultless : ∀ stimulus ∈ stimuli, stimulus.host.Faultless)
    (mem : publication ∈ (play {} stimuli).2) :
    publication.Unhanded ∨ ∃ before stimulus after, stimuli = before ++ stimulus :: after ∧
      ∃ id remote, stimulus.input = .event (.uploadCompleted id remote) ∧
        publication ∈
          ((play {} before).1.respond stimulus.host (.event (.uploadCompleted id remote))).2 := by
  obtain ⟨before, stimulus, after, eq, published⟩ := mem_play.1 mem
  by_cases ends : ∃ id remote, stimulus.input = .event (.uploadCompleted id remote)
  case pos =>
    obtain ⟨id, remote, ends⟩ := ends
    rw [ends] at published
    exact .inr ⟨before, stimulus, after, eq, id, remote, ends, published⟩
  case neg =>
    obtain ⟨coherent, here⟩ := coherent_before faultless eq
    have plain : ∀ id remote, stimulus.input ≠ .event (.uploadCompleted id remote) :=
      fun id remote eq => ends ⟨id, remote, eq⟩
    exact .inl (unhanded_of_plain coherent here plain publication published)

/-- In a life of the outbox, no file of a message that was handed over is asked for again, and no
message is sent again, exactly if every upload that ends finds its message not handed over. -/
theorem nothing_repeated_iff {stimuli : List Stimulus}
    (faultless : ∀ stimulus ∈ stimuli, stimulus.host.Faultless) :
    (∀ publication ∈ (play {} stimuli).2, ∀ id, publication.event = .uploadAttachmentRequest id →
      publication.Unhanded) ∧
    ((∀ publication ∈ (play {} stimuli).2, publication.Unhanded) ↔
      ∀ before stimulus after, stimuli = before ++ stimulus :: after →
        ∀ id remote, stimulus.input = .event (.uploadCompleted id remote) →
          ∀ message, (play {} before).1.store.message? id = some message →
            message.attachment.isSome → message.status.isHandedOver = false) := by
  refine ⟨fun publication mem own uploads => ?_,
    fun unhanded before stimulus after eq id remote ends => ?_, fun unhanded publication mem => ?_⟩
  · obtain unhanded | ⟨before, stimulus, after, eq, id, remote, ends, published⟩ :=
      unhanded_or_ended faultless mem
    · exact unhanded
    · obtain ⟨coherent, here⟩ := coherent_before faultless eq
      rw [respond_uploadCompleted here coherent.tidy.messages] at published
      obtain ⟨row, -, rfl⟩ := List.mem_map.1 published
      cases uploads
  · obtain ⟨coherent, here⟩ := coherent_before faultless eq
    refine (unhanded_uploadCompleted coherent here id remote).1 fun publication published => ?_
    rw [← ends] at published
    exact unhanded publication (mem_play.2 ⟨before, stimulus, after, eq, published⟩)
  · obtain free | ⟨before, stimulus, after, eq, id, remote, ends, published⟩ :=
      unhanded_or_ended faultless mem
    · exact free
    · obtain ⟨coherent, here⟩ := coherent_before faultless eq
      have each := unhanded before stimulus after eq id remote ends
      exact (unhanded_uploadCompleted coherent here id remote).2 each publication published

/-- A file is asked for again after a reconnect; both uploads end, each for the request that was made
for it, and the message, which was acknowledged after the first, is sent once more. -/
theorem sent_repeated :
    let host : Host := { settings := {}, serverId := toString }
    let found : Input := .event .uploadServiceFound
    let ends (remote : String) : Input := .event (.uploadCompleted ⟨1⟩ remote)
    let stimuli := [.openThread ⟨"a@x"⟩ false, found,
      .request (.sendBinary ⟨1⟩ ⟨"/f", "application/pdf", 10, false⟩), .event .disconnected,
      .event .connected, found, ends "u1", .event (.messageSent ⟨1⟩), ends "u2"].map (Stimulus.mk host)
    AnsweringOnce stimuli ∧ ¬∀ publication ∈ (play {} stimuli).2, publication.Unhanded := by
  intro host found ends stimuli
  have faultless : ∀ stimulus ∈ stimuli, stimulus.host.Faultless := by
    simp [stimuli, Host.Faultless, host]
  let early := stimuli.take 6
  have silent : AnsweringOnce early := by
    intro before stimulus after eq work reports
    have none : ∀ stimulus ∈ early, stimulus.input.reports? = none := by decide +kernel
    rw [none stimulus (by simp [eq])] at reports
    cases reports
  have first : AnsweringOnce (early ++ [⟨host, ends "u1"⟩]) := by
    refine answeringOnce_snoc.2 ⟨silent, fun work reports => ?_⟩
    cases reports
    decide +kernel
  have acknowledged : AnsweringOnce (early ++ [⟨host, ends "u1"⟩] ++
      [⟨host, .event (.messageSent ⟨1⟩)⟩]) :=
    answeringOnce_snoc.2 ⟨first, fun _ reports => by cases reports⟩
  have once : AnsweringOnce (early ++ [⟨host, ends "u1"⟩] ++
      [⟨host, .event (.messageSent ⟨1⟩)⟩] ++ [⟨host, ends "u2"⟩]) := by
    refine answeringOnce_snoc.2 ⟨acknowledged, fun work reports => ?_⟩
    cases reports
    decide +kernel
  refine ⟨once, fun unhanded => ?_⟩
  have found : ((play {} (stimuli.take 8)).1.store.message? ⟨1⟩).map
      (fun message => (message.attachment.isSome, message.status)) = some (true, .sent) := by
    decide +kernel
  obtain ⟨message, stored, state⟩ := Option.map_eq_some_iff.1 found
  obtain ⟨file, sent⟩ := Prod.mk.inj state
  have free := (nothing_repeated_iff faultless).2.1 unhanded (stimuli.take 8) ⟨host, ends "u2"⟩ [] rfl
    ⟨1⟩ "u2" rfl message stored file
  rw [sent] at free
  cases free

end Outbox

end Messenger

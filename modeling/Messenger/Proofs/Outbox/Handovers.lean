/-
# How a message comes to be handed over

Whenever the outbox asks to send a message or to upload its file, one of four moves does it, and each
of them has made sure of something else:

    attempt     the message is new and ours, and not held for review
    resume      its file was just prepared, and it was neither handed over nor is it held
    scan        the scan seeks it
    complete    its file is on the server

`Move.HandsOver` is this list, and `Outbox.Suits` is what all four have in common: a message is sent
only if its file needs no upload, and uploaded only if it does and a server for files is known.
Whatever is published, all that was stored at that moment stays stored (`Outbox.keeps_published`).
-/
import Messenger.Proofs.Outbox.Messages
import Messenger.Proofs.Outbox.Ordering

namespace Messenger

/-- The event asks for what the message needs. -/
structure Outbox.Suits (outbox : Outbox) (event : Event) (message : Message) : Prop where
  send : event = .sendMessageRequest message.id → message.needsUpload = false
  upload : event = .uploadAttachmentRequest message.id →
    message.needsUpload = true ∧ outbox.uploadService = true

/-- What a move has made sure of when it hands a message over. -/
inductive Move.HandsOver (outbox : Outbox) (message : Message) : Move → Prop
  | attempt (outgoing : message.direction = .outgoing)
      (unhanded : message.status.isHandedOver = false) (free : message.status ≠ .pending) :
      HandsOver outbox message (.attempt message.id)
  | resume (unhanded : message.status.isHandedOver = false) (free : message.status ≠ .pending) :
      HandsOver outbox message (.resume message.id)
  | scan (options : ScanOptions) (sought : message ∈ outbox.sought options) :
      HandsOver outbox message (.scan options)
  | complete (ready : message.Ready) : HandsOver outbox message (.complete message.id)

/-! ## Decisions -/

namespace Scan

variable {uploadAvailable : Bool} {membersOf : Identity → List Identity} {message : MessageContent}

theorem uploaded_of_send (sends : .send = decideFree uploadAvailable membersOf message) :
    message.needsUpload = false := by
  unfold decideFree at sends
  cases file : message.needsUpload with
  | false => rfl
  | true =>
    rw [file, if_pos rfl] at sends
    split at sends
    · split at sends <;> cases sends
    · split at sends <;> cases sends

theorem needsUpload_of_upload (uploads : .upload = decideFree uploadAvailable membersOf message) :
    message.needsUpload = true ∧ uploadAvailable = true := by
  unfold decideFree at uploads
  split at uploads
  · split at uploads <;> cases uploads
  · split at uploads
    case isTrue file =>
      split at uploads
      case isTrue available => exact ⟨file, available⟩
      case isFalse => cases uploads
    case isFalse => cases uploads

end Scan

namespace MessageContent

theorem Ready.uploaded {message : MessageContent} (ready : message.Ready) :
    message.needsUpload = false := by
  rw [needsUpload, Option.any_eq_false]
  intro attachment has
  rw [Attachment.needsUpload, Option.isNone_eq_false_iff.2 (ready attachment has), Bool.and_false]

end MessageContent

section
variable {outbox : Outbox} {host : Host}

/-- The first attempt for a message hands over that message, as it needs it, unless it is held. -/
theorem Outbox.suits_of_firstAttempt {message : Message} {dispatch : Dispatch}
    (first : outbox.firstAttempt message = some dispatch) :
    dispatch.id = message.id ∧ message.status ≠ .pending ∧ outbox.Suits dispatch.event message := by
  unfold firstAttempt at first
  split at first
  · cases first
  case isFalse free =>
  split at first
  · cases first
  split at first
  case isTrue file =>
    split at first
    case isTrue service =>
      cases first
      exact ⟨rfl, free, nofun, fun _ => ⟨file, service⟩⟩
    case isFalse => cases first
  case isFalse uploaded =>
    cases first
    exact ⟨rfl, free, fun _ => Bool.eq_false_iff.2 uploaded, nofun⟩

/-- So does what is published by that attempt, whether it is the first or one after a preparation. -/
theorem Outbox.suits_of_attempted {message : Message} {publication : Publication}
    (stored : outbox.store.message? message.id = some message)
    (mem : publication ∈ ((outbox.store.message? message.id).bind outbox.firstAttempt).toList.map
      fun dispatch => outbox.publication dispatch.event)
    {id : MessageId} (subject : publication.event.subject? = some id) :
    message.id = id ∧ message.status ≠ .pending ∧ outbox.Suits publication.event message := by
  obtain ⟨dispatch, attempted, rfl⟩ := List.mem_map.1 mem
  rw [stored, Option.bind_some, Option.mem_toList] at attempted
  obtain ⟨own, free, suits⟩ := Outbox.suits_of_firstAttempt attempted
  obtain rfl : dispatch.id = id := Option.some.inj (dispatch.event_subject?.symm.trans subject)
  exact ⟨own.symm, free, suits⟩

/-- A scan hands over what it seeks, as the message needs it. -/
theorem Outbox.suits_of_planned {options : ScanOptions} {dispatch : Dispatch}
    (planned : dispatch ∈ (outbox.plan options).dispatch) :
    ∃ message ∈ outbox.sought options, message.id = dispatch.id ∧
      outbox.Suits dispatch.event message := by
  obtain ⟨before, message, after, eq, own, decided, -⟩ :=
    sought_of_decided (Plan.mem_dispatch.1 planned) (by cases dispatch <;> exact nofun)
  refine ⟨message, by simp [eq], own, ?_⟩
  cases dispatch with
  | send id => exact ⟨fun _ => Scan.uploaded_of_send decided, nofun⟩
  | upload id => exact ⟨nofun, fun _ => Scan.needsUpload_of_upload decided⟩

namespace Move

variable {move : Move} {publication : Publication}

theorem store_of_made (mem : publication ∈ (move.make outbox).2) : publication.store = outbox.store := by
  cases move with
  | attempt | resume | scan =>
    obtain ⟨dispatch, -, rfl⟩ := List.mem_map.1 mem
    rfl
  | complete | announce =>
    rw [List.mem_singleton.1 mem]
    rfl
  | _ => cases mem

/-- A message that is handed over is stored, the event suits it, and the move has made sure of it. -/
theorem handsOver_of_made (coherent : outbox.store.Coherent) (fits : move.Fits host outbox)
    (mem : publication ∈ (move.make outbox).2) {id : MessageId}
    (subject : publication.event.subject? = some id) :
    ∃ message, outbox.store.message? id = some message ∧ message.id = id ∧
      outbox.Suits publication.event message ∧ move.HandsOver outbox message := by
  cases move with
  | attempt own =>
    obtain ⟨message, ⟨stored, unhanded⟩, rfl, outgoing⟩ := fits
    obtain ⟨rfl, free, suits⟩ := Outbox.suits_of_attempted stored mem subject
    exact ⟨message, stored, rfl, suits, .attempt outgoing unhanded free⟩
  | resume own =>
    obtain ⟨message, ⟨stored, unhanded⟩, rfl⟩ := fits
    obtain ⟨rfl, free, suits⟩ := Outbox.suits_of_attempted stored mem subject
    exact ⟨message, stored, rfl, suits, .resume unhanded free⟩
  | scan options =>
    obtain ⟨dispatch, planned, rfl⟩ := List.mem_map.1 mem
    obtain rfl : dispatch.id = id := Option.some.inj (dispatch.event_subject?.symm.trans subject)
    obtain ⟨message, sought, own, suits⟩ := Outbox.suits_of_planned planned
    rw [← own]
    exact ⟨message, coherent.tidy.mem_messages.1 (Outbox.mem_sought.1 sought).1, rfl, suits,
      .scan options sought⟩
  | complete own =>
    obtain rfl := List.mem_singleton.1 mem
    obtain rfl : own = id := Option.some.inj subject
    obtain ⟨message, found, -, ready⟩ := fits
    obtain rfl : message.id = own := coherent.tidy.messages.key_eq found
    exact ⟨message, found, rfl, ⟨fun _ => ready.uploaded, nofun⟩, .complete ready⟩
  | announce event =>
    obtain rfl := List.mem_singleton.1 mem
    have none : event.subject? = none := fits.1
    have some : event.subject? = some id := subject
    rw [none] at some
    cases some
  | _ => cases mem

end Move

/-! ## Responses and lives -/

/-- What is stored when something is published stays stored. -/
theorem Walk.keeps_published {kind : Move → Prop} {last : Outbox} {published : List Publication}
    (walk : Walk host kind outbox published last) (coherent : outbox.store.Coherent)
    {publication : Publication} (mem : publication ∈ published) :
    publication.store.Keeps (fun _ => True) last.store := by
  induction walk with
  | refl => cases mem
  | move move before _ fits ih =>
    have here := before.keeps coherent fun _ _ coherent _ fits => Move.coherent_make coherent fits
    have keeps := (Move.keeps_make here fits).mono fun _ _ => trivial
    rcases List.mem_append.1 mem with earlier | now
    · exact (ih earlier).trans keeps
    · rw [Move.store_of_made now]
      exact keeps

/-- A response to an input has led from one outbox to another. -/
structure Outbox.LedTo (outbox : Outbox) (input : Input) (later : Outbox) : Prop where
  coherent : later.store.Coherent
  keeps : outbox.store.Keeps (fun _ => True) later.store
  serving : later.uploadService = true →
    outbox.uploadService = true ∨ input = .event .uploadServiceFound

/-- Something is published by a move that fits and is caused by the input. -/
structure Publication.MadeBy (publication : Publication) (host : Host) (input : Input)
    (outbox : Outbox) (move : Move) : Prop where
  causes : input.Causes move
  fits : move.Fits host outbox
  mem : publication ∈ (move.make outbox).2

namespace Outbox

theorem serving_of_make {later : Outbox} {move : Move} {input : Input}
    (causes : input.Causes move) (serving : (move.make later).1.uploadService = true) :
    later.uploadService = true ∨ input = .event .uploadServiceFound := by
  cases move with
  | serve known =>
    obtain rfl : known = true := serving
    exact Or.inr causes
  | _ => exact Or.inl serving

theorem LedTo.make {input : Input} {later : Outbox} {move : Move} (led : outbox.LedTo input later)
    (causes : input.Causes move) (fits : move.Fits host later) :
    outbox.LedTo input (move.make later).1 where
  coherent := Move.coherent_make led.coherent fits
  keeps := led.keeps.trans ((Move.keeps_make led.coherent fits).mono fun _ _ => trivial)
  serving := fun known => (serving_of_make causes known).elim led.serving Or.inr

theorem led_refl (coherent : outbox.store.Coherent) (input : Input) : outbox.LedTo input outbox :=
  ⟨coherent, .refl _, Or.inl⟩

theorem led_respond (coherent : outbox.store.Coherent) (faultless : host.Faultless) (input : Input) :
    outbox.LedTo input (outbox.respond host input).1 :=
  (walk_respond faultless coherent.tidy.messages input).keeps (led_refl coherent input)
    fun _ _ led causes fits => led.make causes fits

/-- Everything that is published in a response is made by a move that the input causes. -/
theorem made_of_published (coherent : outbox.store.Coherent) (faultless : host.Faultless)
    {input : Input} {publication : Publication}
    (mem : publication ∈ (outbox.respond host input).2) :
    ∃ later move, outbox.LedTo input later ∧ publication.MadeBy host input later move := by
  have walk := walk_respond faultless coherent.tidy.messages input
  have each : ∀ publication ∈ (outbox.respond host input).2,
      ∃ later move, outbox.LedTo input later ∧ publication.MadeBy host input later move := by
    refine walk.publications (led_refl coherent input) fun later move led causes fits => ?_
    exact ⟨led.make causes fits, fun publication mem => ⟨later, move, led, ⟨causes, fits, mem⟩⟩⟩
  exact each publication mem

theorem LedTo.free {input : Input} {later : Outbox} (led : outbox.LedTo input later) :
    outbox.store.message? later.store.nextMessage = none := by
  cases before : outbox.store.message? later.store.nextMessage with
  | none => rfl
  | some old =>
    obtain ⟨same, stored, -⟩ := led.keeps _ old before
    rw [led.coherent.tidy.get?_nextMessage] at stored
    cases stored

theorem published_append (outbox : Outbox) (before after : List Stimulus) :
    (outbox.play (before ++ after)).2 =
      (outbox.play before).2 ++ ((outbox.play before).1.play after).2 := by
  induction before generalizing outbox with
  | nil => rfl
  | cons stimulus rest ih =>
    have first (stimuli : List Stimulus) : (outbox.play (stimulus :: stimuli)).2 =
        (outbox.respond stimulus.host stimulus.input).2 ++
          ((outbox.respond stimulus.host stimulus.input).1.play stimuli).2 := rfl
    rw [List.cons_append, first, first, ih, List.append_assoc]
    rfl

theorem published_snoc (outbox : Outbox) (before : List Stimulus) (stimulus : Stimulus) :
    (outbox.play (before ++ [stimulus])).2 =
      (outbox.play before).2 ++ ((outbox.play before).1.respond stimulus.host stimulus.input).2 := by
  rw [published_append]
  exact congrArg _ (List.append_nil _)

/-- What was stored when something was published is stored at the end of a life. -/
theorem keeps_published {stimuli : List Stimulus} (coherent : outbox.store.Coherent)
    (faultless : ∀ stimulus ∈ stimuli, stimulus.host.Faultless) {publication : Publication}
    (mem : publication ∈ (outbox.play stimuli).2) :
    publication.store.Keeps (fun _ => True) (outbox.play stimuli).1.store := by
  obtain ⟨before, stimulus, after, rfl, published⟩ := mem_play.1 mem
  have early : (outbox.play before).1.store.Coherent := by
    refine coherent_play coherent fun other mem => ?_
    exact faultless other (List.mem_append_left _ mem)
  have here := faultless stimulus (List.mem_append_right _ List.mem_cons_self)
  have walk := walk_respond here early.tidy.messages stimulus.input
  rw [play_append]
  refine (walk.keeps_published early published).trans (keeps_play ?_ fun other mem => ?_)
  · exact coherent_respond early here stimulus.input
  · exact faultless other (List.mem_append_right _ (List.mem_cons_of_mem _ mem))

end Outbox

end

end Messenger

/-
# Group commands come first

A command to a group changes who reads what comes after it, so nothing of its thread may be handed
over before it is acknowledged (`Store.Clear`).

    texts    in order in every life of the outbox          (`texts_in_order`)
    files    in order exactly where the two ways around
             the check do not matter                       (`files_in_order_iff`)

The ways around the check are scans for files, which do not look for commands, and the end of an
upload, which sends the message at once; `unchecked` lists the messages that they hand over.
-/
import Messenger.Proofs.Outbox.Lives

namespace Messenger

namespace Publication

/-- Whatever is asked for does not overtake a command. -/
def InOrder (publication : Publication) : Prop :=
  ∀ id message, publication.event.subject? = some id →
    publication.store.message? id = some message → message.thread ≠ .none →
    publication.store.Clear message

/-- A message without a file does not overtake a command. -/
def TextInOrder (publication : Publication) : Prop :=
  ∀ id message, publication.event = .sendMessageRequest id →
    publication.store.message? id = some message → message.attachment = none →
    message.thread ≠ .none → publication.store.Clear message

/-- A message of ours with a file does not overtake a command, and neither does its file. -/
def FileInOrder (publication : Publication) : Prop :=
  ∀ id message,
    publication.event = .uploadAttachmentRequest id ∨ publication.event = .sendMessageRequest id →
    publication.store.message? id = some message → message.direction = .outgoing →
    message.attachment.isSome → message.thread ≠ .none → publication.store.Clear message

variable {publication : Publication}

theorem InOrder.text (ordered : publication.InOrder) : publication.TextInOrder :=
  fun id message event stored _ threaded => ordered id message (by rw [event]; rfl) stored threaded

theorem InOrder.file (ordered : publication.InOrder) : publication.FileInOrder := by
  intro id message event stored _ _ threaded
  refine ordered id message ?_ stored threaded
  rcases event with event | event <;> rw [event] <;> rfl

end Publication

theorem Dispatch.event_subject? (dispatch : Dispatch) : dispatch.event.subject? = some dispatch.id := by
  cases dispatch <;> rfl

/-! ## Moves -/

namespace Move

variable {outbox : Outbox} {host : Host}

/-- A move that looks for commands before it hands anything over. -/
def isChecked : Move → Bool
  | scan options => !options.retryingMedia
  | complete _ => false
  | _ => true

/-- The first attempt for a message is about that message, and looks for commands. -/
theorem clear_of_attempt {message : Message} {dispatch : Dispatch}
    (made : outbox.firstAttempt message = some dispatch) :
    dispatch.id = message.id ∧ (message.thread ≠ .none → outbox.store.Clear message) := by
  unfold Outbox.firstAttempt at made
  split at made
  · cases made
  split at made
  · cases made
  case isFalse free =>
    refine ⟨?_, fun threaded => Store.isHeldBack_eq_false_iff.1 ?_⟩
    · split at made
      · split at made <;> cases made
        rfl
      · cases made
        rfl
    · rw [ThreadId.isNone_eq_false.2 threaded, Bool.not_false, Bool.true_and] at free
      exact Bool.eq_false_iff.2 free

theorem inOrder_of_checked (coherent : outbox.store.Coherent) {move : Move}
    (checked : move.isChecked) (fits : move.Fits host outbox) :
    ∀ publication ∈ (move.make outbox).2, publication.InOrder := by
  cases move with
  | attempt id | resume id =>
    intro publication mem own message subject stored threaded
    obtain ⟨dispatch, made, rfl⟩ := List.mem_map.1 mem
    obtain ⟨row, found, made⟩ := Option.bind_eq_some_iff.1 (Option.mem_toList.1 made)
    obtain ⟨about, clear⟩ := clear_of_attempt made
    obtain rfl : dispatch.id = own := Option.some.inj (dispatch.event_subject?.symm.trans subject)
    obtain rfl : row = message := by
      have keyed : row.id = id := coherent.tidy.messages.key_eq found
      have stored : outbox.store.message? dispatch.id = some message := stored
      rw [about, keyed, found] at stored
      exact Option.some.inj stored
    exact clear threaded
  | scan options =>
    intro publication mem own message subject stored threaded
    obtain ⟨dispatch, planned, rfl⟩ := List.mem_map.1 mem
    obtain rfl : dispatch.id = own := Option.some.inj (dispatch.event_subject?.symm.trans subject)
    have plain : options.retryingMedia = false := by simpa [isChecked] using checked
    exact Outbox.clear_of_planned coherent plain planned stored
  | complete id => cases checked
  | announce event =>
    intro publication mem own message subject
    obtain rfl := List.mem_singleton.1 mem
    have none : event.subject? = none := fits.1
    have some : event.subject? = some own := subject
    rw [none] at some
    cases some
  | _ => exact fun _ mem => nomatch mem

/-- Whatever the outbox does, messages without files do not overtake commands: the two ways around
the check are open to messages with files only. -/
theorem textInOrder_make (coherent : outbox.store.Coherent) {move : Move}
    (fits : move.Fits host outbox) :
    ∀ publication ∈ (move.make outbox).2, publication.TextInOrder := by
  cases checked : move.isChecked with
  | true => exact fun publication mem => (inOrder_of_checked coherent checked fits publication mem).text
  | false =>
    cases move with
    | scan options =>
      intro publication mem id message event
      obtain ⟨dispatch, planned, rfl⟩ := List.mem_map.1 mem
      have media : options.retryingMedia := by simpa [isChecked] using checked
      obtain ⟨-, row, -, rfl⟩ := (Outbox.mem_plan_of_media coherent media).1 planned
      cases event
    | complete id =>
      intro publication mem own message event stored plain
      obtain rfl := List.mem_singleton.1 mem
      cases event
      obtain ⟨row, found, file, -⟩ := fits
      have stored : outbox.store.message? id = some message := stored
      obtain rfl : row = message := Option.some.inj (found.symm.trans stored)
      rw [plain] at file
      cases file
    | _ => cases checked

end Move

/-- An input to which the outbox responds by checked moves only. -/
def Input.isChecked : Input → Bool
  | request (.resend options) => !options.retryingMedia
  | event .uploadServiceFound | event (.uploadCompleted _ _) => false
  | _ => true

theorem Input.isChecked_of_causes {input : Input} {move : Move} (checked : input.isChecked)
    (causes : input.Causes move) : move.isChecked := by
  cases move with
  | scan options =>
    have scans : input.Scans options := causes
    unfold Scans at scans
    split at scans
    case h_1 => exact scans ▸ checked
    case h_2 | h_3 =>
      obtain ⟨peer, rfl⟩ := scans
      rfl
    case h_9 => cases checked
    case h_11 => cases scans
    all_goals
      subst scans
      rfl
  | complete id =>
    obtain ⟨remote, rfl⟩ := causes
    cases checked
  | _ => rfl

/-! ## Lives of the outbox -/

namespace Outbox

open Messenger.Action

variable {outbox : Outbox} {host : Host}

theorem textInOrder_respond (coherent : outbox.store.Coherent) (faultless : host.Faultless)
    (input : Input) : ∀ publication ∈ (outbox.respond host input).2, publication.TextInOrder :=
  (walk_respond faultless coherent.tidy.messages input).publications coherent
    fun _ _ coherent _ fits =>
      ⟨Move.coherent_make coherent fits, Move.textInOrder_make coherent fits⟩

theorem inOrder_respond (coherent : outbox.store.Coherent) (faultless : host.Faultless)
    {input : Input} (checked : input.isChecked) :
    ∀ publication ∈ (outbox.respond host input).2, publication.InOrder :=
  (walk_respond faultless coherent.tidy.messages input).publications coherent
    fun _ _ coherent causes fits => ⟨Move.coherent_make coherent fits,
      Move.inOrder_of_checked coherent (Input.isChecked_of_causes checked causes) fits⟩

/-- In no life of the outbox does a message without a file overtake a group command of its thread
that was not acknowledged. -/
theorem texts_in_order {stimuli : List Stimulus}
    (faultless : ∀ stimulus ∈ stimuli, stimulus.host.Faultless) :
    ∀ publication ∈ (play {} stimuli).2, publication.TextInOrder := by
  intro publication mem
  obtain ⟨before, stimulus, after, eq, published⟩ := mem_play.1 mem
  obtain ⟨coherent, here⟩ := coherent_before faultless eq
  exact textInOrder_respond coherent here stimulus.input publication published

/-- A text waits for the group that it is meant for, and goes with the acknowledgement. -/
theorem texts_in_order_acknowledged :
    let host : Host := { settings := { selfIdentity := some ⟨"me@x"⟩ }, serverId := toString }
    let inputs : List Input := [.request (.createGroup ⟨"g@x"⟩ [⟨"a@x"⟩] none),
      .request (.sendText ⟨1⟩ "hello" none), .event (.messageSent ⟨1⟩)]
    let published := (play {} (inputs.map (Stimulus.mk host))).2
    (∀ publication ∈ published, publication.TextInOrder) ∧
      published.map (·.event.subject?) = [some ⟨1⟩, some ⟨2⟩] :=
  ⟨texts_in_order (List.forall_mem_map.2 fun _ _ _ => rfl), by decide +kernel⟩

/-! ## The two ways around the check -/

section
variable (faultless : host.Faultless)
include faultless

theorem respond_resend (options : ScanOptions) :
    (outbox.respond host (.request (.resend options))).2 =
      (outbox.plan options).dispatch.map fun dispatch => outbox.publication dispatch.event := by
  obtain ⟨next, ran, -, published⟩ := on_resend faultless options { outbox with }
  have performed : (perform (.resend options)).on host { outbox with } =
      .ok (.planned (outbox.plan options)) next := by
    rw [perform, on_map, ran]
  exact (congrArg Outcome.publications (run_of_ok performed)).trans published

theorem respond_uploadServiceFound : (outbox.respond host (.event .uploadServiceFound)).2 =
    let serving := { outbox with uploadService := true }
    (serving.plan .mediaRetry).dispatch.map fun dispatch => serving.publication dispatch.event := by
  obtain ⟨next, ran, -, published⟩ :=
    on_resend faultless .mediaRetry { outbox with uploadService := true }
  have handled : (handle .uploadServiceFound).on host { outbox with } = .ok () next := by
    rw [handle, onUploadServiceFound, on_bind, on_setUploadService]
    dsimp only
    rw [on_bind, ran]
    rfl
  exact (congrArg Prod.snd (respond_handled rfl handled)).trans published

/-- The message with its file on the server. -/
def uploaded (remote : String) (message : Message) (attachment : Attachment) : Message :=
  { message with attachment := some { attachment with remote := some remote } }

/-- The row that is written at the end of an upload. -/
def uploaded? (store : Store) (id : MessageId) (remote : String) : Option Message :=
  (store.message? id).bind fun message => message.attachment.map (uploaded remote message)

/-- At the end of an upload the row is written, and then its message is sent. -/
theorem on_uploadCompleted (run : Run) (keyed : run.store.messages.KeyedBy (·.id)) (id : MessageId)
    (remote : String) : ∃ next, (uploadCompleted id remote).on host run = .ok () next ∧
      next.toOutbox = { run.toOutbox with
        store := run.store.revise (uploaded? run.store id remote) } ∧
      next.publications = run.publications ++ (uploaded? run.store id remote).toList.map fun row =>
        ⟨.sendMessageRequest id, (Write.updateMessage row).after run.store⟩ := by
  rw [uploadCompleted, on_bind, on_look faultless]
  dsimp only [uploaded?]
  cases found : run.store.message? id with
  | none => exact ⟨run, rfl, rfl, (List.append_nil _).symm⟩
  | some message =>
    dsimp only [Option.bind_some]
    cases message.attachment with
    | none => exact ⟨run, rfl, rfl, (List.append_nil _).symm⟩
    | some attachment =>
      have stored : run.store.messages.has message.id :=
        Table.has_iff.2 ⟨message, keyed.key_eq found ▸ found⟩
      obtain ⟨next, ran, left, published⟩ :=
        on_updateMessage faultless (uploaded remote message attachment) stored
      rw [uploaded] at ran
      dsimp only
      rw [on_bind, ran]
      dsimp only
      rw [on_publish]
      refine ⟨_, rfl, left, ?_⟩
      dsimp only
      rw [published, show next.store = _ from congrArg (·.store) left]
      rfl

theorem respond_uploadCompleted (keyed : outbox.store.messages.KeyedBy (·.id)) (id : MessageId)
    (remote : String) : (outbox.respond host (.event (.uploadCompleted id remote))).2 =
      (uploaded? outbox.store id remote).toList.map fun row =>
        ⟨.sendMessageRequest id, (Write.updateMessage row).after outbox.store⟩ := by
  obtain ⟨next, ran, -, published⟩ :=
    on_uploadCompleted faultless { outbox with } keyed id remote
  have handled : (handle (.uploadCompleted id remote)).on host { outbox with } = .ok () next := ran
  exact (congrArg Prod.snd (respond_handled rfl handled)).trans published

end

/-- The messages that are handed over, or whose files are uploaded, without a look for commands. -/
def unchecked (outbox : Outbox) : Input → List Message
  | .event .uploadServiceFound => outbox.uploadable .mediaRetry
  | .request (.resend options) =>
    if options.retryingMedia && outbox.uploadService then outbox.uploadable options else []
  | .event (.uploadCompleted id _) => (outbox.store.message? id).toList.filter fun message =>
    message.direction = .outgoing && message.attachment.isSome
  | _ => []

theorem scan_fileInOrder_iff (coherent : outbox.store.Coherent) (options : ScanOptions)
    (media : options.retryingMedia) : (∀ dispatch ∈ (outbox.plan options).dispatch,
      (outbox.publication dispatch.event).FileInOrder) ↔
        (outbox.uploadService → ∀ message ∈ outbox.uploadable options, outbox.store.Clear message) := by
  constructor
  · intro ordered service message mem
    have planned := (mem_plan_of_media coherent media).2 ⟨service, message, mem, rfl⟩
    obtain ⟨sought, -⟩ := (mem_uploadable media).1 mem
    obtain ⟨stored, outgoing, -, file, -⟩ := mem_sought.1 sought
    have found := coherent.tidy.mem_messages.1 stored
    have threaded := coherent.thread_ne_none (coherent.posted found outgoing)
    have has : message.attachment.isSome := by
      rw [mediaQualifies_of_media media, MessageContent.needsUpload] at file
      obtain ⟨attachment, known, -⟩ := (Option.any_eq_true _ _).1 file
      rw [known]
      rfl
    exact ordered _ planned message.id message (Or.inl rfl) found outgoing has threaded
  · intro clear dispatch planned id message event stored _ _ _
    obtain ⟨service, row, mem, rfl⟩ := (mem_plan_of_media coherent media).1 planned
    have found := coherent.tidy.mem_messages.1 (mem_sought.1 ((mem_uploadable media).1 mem).1).1
    obtain rfl : row = message := by
      rcases event with event | event <;> cases event
      exact Option.some.inj (found.symm.trans stored)
    exact clear service row mem

theorem message?_uploaded {store : Store} (keyed : store.messages.KeyedBy (·.id)) {id : MessageId}
    {remote : String} {row : Message} (written : uploaded? store id remote = some row) :
    ((Write.updateMessage row).after store).message? id = some row := by
  obtain ⟨message, found, filled⟩ := Option.bind_eq_some_iff.1 written
  obtain ⟨attachment, -, rfl⟩ := Option.map_eq_some_iff.1 filled
  have own : message.id = id := keyed.key_eq found
  obtain ⟨committed, done, after⟩ := Write.after_updateMessage (uploaded remote message attachment)
    (Table.has_iff.2 ⟨message, own ▸ found⟩)
  rw [after, Store.message?, Store.updateMessage_messages done, Table.get?_put]
  exact if_pos own.symm

theorem clear_updateMessage {store : Store} (keyed : store.messages.KeyedBy (·.id))
    (message : Message) :
    ((Write.updateMessage message).after store).Clear message ↔ store.Clear message := by
  unfold Write.after
  cases done : (Write.updateMessage message).perform store with
  | error failure => rfl
  | ok committed =>
    have messages := Store.updateMessage_messages done
    have same (earlier : Message) (below : earlier.id.val < message.id.val) :
        earlier ∈ committed.store.messages.values ↔ earlier ∈ store.messages.values := by
      have other : earlier.id ≠ message.id := fun eq => Int.lt_irrefl _ (eq ▸ below)
      rw [messages, (keyed.put rfl).mem_values_iff, keyed.mem_values_iff, Table.get?_put, if_neg other]
    constructor
    · intro clear earlier mem outgoing thread below
      exact clear earlier ((same earlier below).2 mem) outgoing thread below
    · intro clear earlier mem outgoing thread below
      exact clear earlier ((same earlier below).1 mem) outgoing thread below

/-- The end of an upload keeps the order only if the message of ours does not have to wait. -/
theorem fileInOrder_uploadCompleted (coherent : outbox.store.Coherent) (faultless : host.Faultless)
    (id : MessageId) (remote : String) :
    (∀ publication ∈ (outbox.respond host (.event (.uploadCompleted id remote))).2,
      publication.FileInOrder) ↔ ∀ message ∈ outbox.unchecked (.event (.uploadCompleted id remote)),
        outbox.store.Clear message := by
  have keyed := coherent.tidy.messages
  rw [respond_uploadCompleted faultless keyed, List.forall_mem_map]
  constructor
  · intro ordered message mem
    have mem : outbox.store.message? id = some message ∧ message.direction = .outgoing ∧
        message.attachment.isSome := by simpa [unchecked] using mem
    obtain ⟨found, outgoing, has⟩ := mem
    obtain ⟨attachment, file⟩ := Option.isSome_iff_exists.1 has
    have written : uploaded? outbox.store id remote = some (uploaded remote message attachment) := by
      rw [uploaded?, found, Option.bind_some, file, Option.map_some]
    have threaded := coherent.thread_ne_none (coherent.posted found outgoing)
    have clear := ordered _ (Option.mem_toList.2 written) id _ (Or.inr rfl)
      (message?_uploaded keyed written) outgoing rfl threaded
    exact (clear_updateMessage keyed (uploaded remote message attachment)).1 clear
  · intro clear row written own message event stored outgoing _ _
    have written := Option.mem_toList.1 written
    obtain rfl : id = own := by rcases event with event | event <;> cases event; rfl
    obtain rfl : row = message :=
      Option.some.inj ((message?_uploaded keyed written).symm.trans stored)
    obtain ⟨message, found, filled⟩ := Option.bind_eq_some_iff.1 written
    obtain ⟨attachment, file, rfl⟩ := Option.map_eq_some_iff.1 filled
    refine (clear_updateMessage keyed _).2 (clear message ?_)
    have outgoing : message.direction = .outgoing := outgoing
    simp [unchecked, found, outgoing, file]

/-- A response keeps the order of files exactly if nothing that it hands over unchecked has to
wait. -/
theorem fileInOrder_respond (coherent : outbox.store.Coherent) (faultless : host.Faultless)
    (input : Input) : (∀ publication ∈ (outbox.respond host input).2, publication.FileInOrder) ↔
      ∀ message ∈ outbox.unchecked input, outbox.store.Clear message := by
  cases checked : input.isChecked with
  | true =>
    have nothing : outbox.unchecked input = [] := by
      unfold unchecked
      split
      case h_2 options =>
        have plain : options.retryingMedia = false := by simpa [Input.isChecked] using checked
        rw [plain]
        rfl
      case h_4 => rfl
      all_goals cases checked
    rw [nothing]
    exact ⟨fun _ _ mem => (nomatch mem), fun _ publication mem =>
      (inOrder_respond coherent faultless checked publication mem).file⟩
  | false =>
    unfold Input.isChecked at checked
    split at checked
    case h_1 options =>
      have media : options.retryingMedia := by simpa using checked
      rw [respond_resend faultless, List.forall_mem_map, scan_fileInOrder_iff coherent options media,
        unchecked, media]
      cases outbox.uploadService <;> simp
    case h_2 =>
      rw [respond_uploadServiceFound faultless, List.forall_mem_map]
      have serving : { outbox with uploadService := true : Outbox }.store.Coherent := coherent
      exact (scan_fileInOrder_iff serving .mediaRetry rfl).trans
        ⟨fun clear => clear rfl, fun clear _ => clear⟩
    case h_3 id remote => exact fileInOrder_uploadCompleted coherent faultless id remote
    case h_4 => cases checked

/-- In a life of the outbox, no message of ours with a file and no file of ours overtakes a group
command exactly if at every stimulus nothing that is handed over unchecked has to wait. -/
theorem files_in_order_iff {stimuli : List Stimulus}
    (faultless : ∀ stimulus ∈ stimuli, stimulus.host.Faultless) :
    (∀ publication ∈ (play {} stimuli).2, publication.FileInOrder) ↔
      ∀ before stimulus after, stimuli = before ++ stimulus :: after →
        ∀ message ∈ (play {} before).1.unchecked stimulus.input,
          (play {} before).1.store.Clear message := by
  constructor
  · intro ordered before stimulus after eq
    obtain ⟨coherent, here⟩ := coherent_before faultless eq
    refine (fileInOrder_respond coherent here stimulus.input).1 fun publication published => ?_
    exact ordered publication (mem_play.2 ⟨before, stimulus, after, eq, published⟩)
  · intro clear publication mem
    obtain ⟨before, stimulus, after, eq, published⟩ := mem_play.1 mem
    obtain ⟨coherent, here⟩ := coherent_before faultless eq
    exact (fileInOrder_respond coherent here stimulus.input).2 (clear before stimulus after eq)
      publication published

/-- A server for files becomes known while a new group waits, and a file is uploaded for people
who were not told yet. -/
theorem files_overtake_command :
    let host : Host := { settings := { selfIdentity := some ⟨"me@x"⟩ }, serverId := toString }
    let inputs : List Input := [.request (.createGroup ⟨"g@x"⟩ [⟨"a@x"⟩] none),
      .request (.sendBinary ⟨1⟩ ⟨"/f", "application/pdf", 10, false⟩), .event .uploadServiceFound]
    ¬∀ publication ∈ (play {} (inputs.map (Stimulus.mk host))).2, publication.FileInOrder := by
  intro host inputs ordered
  have faultless : ∀ stimulus ∈ inputs.map (Stimulus.mk host), stimulus.host.Faultless :=
    List.forall_mem_map.2 fun _ _ _ => rfl
  have clear := (files_in_order_iff faultless).1 ordered ((inputs.take 2).map (Stimulus.mk host))
    ⟨host, .event .uploadServiceFound⟩ [] rfl
  revert clear
  decide

end Outbox

end Messenger

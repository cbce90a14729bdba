/-
# Requests are well-formed

Files are uploaded and prepared by somebody else, who reports when it is done.  If nobody reports what
was not asked for (`Answering`), then whatever the outbox asks for makes sense at that moment:

    send a message       it is stored, it is ours, and its file, if any, needs no upload
    upload its file      it is stored, it is ours, its file needs it, and a server for files was
                         found since the connection was last lost (`Serving`)

That the message is ours is what the reports are needed for: the moves that answer them look at the
file of the message, but not at its direction.
-/
import Messenger.Proofs.Outbox.Handovers
import Mathlib.Data.List.Induction

namespace Messenger

theorem forall_split_snoc {α : Type} {what : List α → α → Prop} {items : List α} {last : α} :
    (∀ before item after, items ++ [last] = before ++ item :: after → what before item) ↔
      (∀ before item after, items = before ++ item :: after → what before item) ∧
        what items last := by
  constructor
  · intro all
    refine ⟨fun before item after eq => ?_, all items last [] rfl⟩
    exact all before item (after ++ [last]) (by simp [eq])
  · rintro ⟨earlier, now⟩ before item after eq
    rcases List.eq_nil_or_concat after with rfl | ⟨rest, other, rfl⟩
    · obtain ⟨rfl, same⟩ := List.append_inj' eq rfl
      cases same
      exact now
    · rw [List.concat_eq_append, ← List.cons_append, ← List.append_assoc] at eq
      obtain ⟨rfl, -⟩ := List.append_inj' eq rfl
      exact earlier before item rest rfl

/-! ## Reports -/

/-- What somebody else does with the file of a message. -/
inductive FileWork where
  | upload (id : MessageId)
  | preparation (id : MessageId)
deriving DecidableEq

def FileWork.id : FileWork → MessageId
  | upload id | preparation id => id

/-- The work that an event asks for. -/
def Event.asks? : Event → Option FileWork
  | .uploadAttachmentRequest id => some (.upload id)
  | .prepareMediaRequest id _ => some (.preparation id)
  | _ => none

/-- The work that an input reports as done. -/
def Input.reports? : Input → Option FileWork
  | .event (.uploadCompleted id _) => some (.upload id)
  | .event (.mediaPrepared id _ _) => some (.preparation id)
  | _ => none

theorem Event.of_asks {event : Event} {work : FileWork} (asks : event.asks? = some work) :
    event.subject? = some work.id ∨ event.media? = some work.id := by
  unfold asks? at asks
  split at asks
  · cases asks
    exact Or.inl rfl
  · cases asks
    exact Or.inr rfl
  · cases asks

/-- Work is reported only after it was asked for. -/
def Answering (stimuli : List Stimulus) : Prop :=
  ∀ before stimulus after, stimuli = before ++ stimulus :: after →
    ∀ work, stimulus.input.reports? = some work →
      ∃ publication ∈ (Outbox.play {} before).2, publication.event.asks? = some work

theorem answering_of_silent {stimuli : List Stimulus}
    (silent : ∀ stimulus ∈ stimuli, stimulus.input.reports? = none) : Answering stimuli := by
  intro before stimulus after eq work reports
  rw [silent stimulus (by simp [eq])] at reports
  cases reports

theorem answering_snoc {stimuli : List Stimulus} {stimulus : Stimulus} :
    Answering (stimuli ++ [stimulus]) ↔ Answering stimuli ∧
      ∀ work, stimulus.input.reports? = some work →
        ∃ publication ∈ (Outbox.play {} stimuli).2, publication.event.asks? = some work :=
  forall_split_snoc

/-! ## Servers for files -/

/-- A server for files was found since the connection was last lost. -/
def Serving (stimuli : List Stimulus) : Prop :=
  ∃ early found late, stimuli = early ++ found :: late ∧ found.input = .event .uploadServiceFound ∧
    ∀ other ∈ late, other.input ≠ .event .disconnected

section
variable {stimuli : List Stimulus} {stimulus : Stimulus}

theorem serving_found (found : stimulus.input = .event .uploadServiceFound) :
    Serving (stimuli ++ [stimulus]) :=
  ⟨stimuli, stimulus, [], rfl, found, List.forall_mem_nil _⟩

theorem Serving.snoc (serving : Serving stimuli) (connected : stimulus.input ≠ .event .disconnected) :
    Serving (stimuli ++ [stimulus]) := by
  obtain ⟨early, found, late, rfl, eq, kept⟩ := serving
  refine ⟨early, found, late ++ [stimulus], by simp, eq, fun other mem => ?_⟩
  rcases List.mem_append.1 mem with earlier | now
  · exact kept other earlier
  · rwa [List.mem_singleton.1 now]

end

namespace Outbox

variable {outbox : Outbox} {host : Host}

theorem respond_disconnected : outbox.respond host (.event .disconnected) =
    ({ outbox with connected := false, uploadService := false }, []) := rfl

theorem serving_of_known {stimuli : List Stimulus}
    (faultless : ∀ stimulus ∈ stimuli, stimulus.host.Faultless)
    (known : (play {} stimuli).1.uploadService = true) : Serving stimuli := by
  induction stimuli using List.reverseRecOn with
  | nil => cases known
  | append_singleton before stimulus ih =>
    obtain ⟨coherent, here⟩ := coherent_before faultless rfl
    rw [play_append] at known
    have connected : stimulus.input ≠ .event .disconnected := by
      intro lost
      have known : ((play {} before).1.respond stimulus.host stimulus.input).1.uploadService = true :=
        known
      rw [lost, respond_disconnected] at known
      cases known
    rcases (led_respond coherent here stimulus.input).serving known with earlier | found
    · exact (ih (fun other mem => faultless other (List.mem_append_left _ mem)) earlier).snoc connected
    · exact serving_found found

end Outbox

/-! ## Requests -/

theorem Store.HoldsOurs.mono {store other : Store} {restarted : MessageId → Prop} {id : MessageId}
    (ours : store.HoldsOurs id) (keeps : store.Keeps restarted other) : other.HoldsOurs id := by
  obtain ⟨old, found, outgoing⟩ := ours
  obtain ⟨new, stored, follows⟩ := keeps id old found
  exact ⟨new, stored, follows.direction_eq.trans outgoing⟩

/-- What is asked for after these stimuli makes sense. -/
structure Publication.WellFormed (publication : Publication) (stimuli : List Stimulus) : Prop where
  send : ∀ id, publication.event = .sendMessageRequest id →
    ∃ message, publication.store.message? id = some message ∧ message.direction = .outgoing ∧
      message.needsUpload = false
  upload : ∀ id, publication.event = .uploadAttachmentRequest id →
    ∃ message, publication.store.message? id = some message ∧ message.direction = .outgoing ∧
      message.needsUpload = true ∧ Serving stimuli

/-- A message about which something is asked is one of ours. -/
def Publication.OnOurs (publication : Publication) : Prop :=
  ∀ id, publication.event.subject? = some id ∨ publication.event.media? = some id →
    publication.store.HoldsOurs id

theorem Move.ours_of_media {outbox : Outbox} {host : Host} {move : Move} {publication : Publication}
    (fits : move.Fits host outbox) (mem : publication ∈ (move.make outbox).2) {id : MessageId}
    (media : publication.event.media? = some id) : outbox.store.HoldsOurs id := by
  cases move with
  | attempt | resume | scan =>
    obtain ⟨dispatch, -, rfl⟩ := List.mem_map.1 mem
    cases dispatch <;> cases media
  | complete =>
    rw [List.mem_singleton.1 mem] at media
    cases media
  | announce event =>
    rw [List.mem_singleton.1 mem] at media
    exact fits.2 id media
  | _ => cases mem

namespace Outbox

/-- What is so of all that is published in a life, if it stays so and every response keeps to it. -/
theorem forall_published {good : List Stimulus → Publication → Prop}
    (stays : ∀ {before : List Stimulus} {stimulus : Stimulus} {publication : Publication},
      good before publication → good (before ++ [stimulus]) publication)
    (step : ∀ {before : List Stimulus} {stimulus : Stimulus},
      (∀ other ∈ before ++ [stimulus], other.host.Faultless) → Answering (before ++ [stimulus]) →
        (∀ publication ∈ (play {} before).2, good before publication) →
          ∀ publication ∈ ((play {} before).1.respond stimulus.host stimulus.input).2,
            good (before ++ [stimulus]) publication)
    {stimuli : List Stimulus} (faultless : ∀ stimulus ∈ stimuli, stimulus.host.Faultless)
    (answering : Answering stimuli) :
    ∀ publication ∈ (play {} stimuli).2, good stimuli publication := by
  induction stimuli using List.reverseRecOn with
  | nil => exact List.forall_mem_nil _
  | append_singleton before stimulus ih =>
    have earlier : ∀ other ∈ before, other.host.Faultless :=
      fun other mem => faultless other (List.mem_append_left _ mem)
    have past := ih earlier (answering_snoc.1 answering).1
    intro publication mem
    rw [published_snoc] at mem
    rcases List.mem_append.1 mem with mem | mem
    · exact stays (past publication mem)
    · exact step faultless answering past publication mem

section
variable {before : List Stimulus} {stimulus : Stimulus}

theorem ours_of_reported (faultless : ∀ stimulus ∈ before, stimulus.host.Faultless)
    (ours : ∀ publication ∈ (play {} before).2, publication.OnOurs) {work : FileWork}
    (asked : ∃ publication ∈ (play {} before).2, publication.event.asks? = some work) :
    (play {} before).1.store.HoldsOurs work.id := by
  obtain ⟨publication, mem, asks⟩ := asked
  exact (ours publication mem work.id (Event.of_asks asks)).mono (keeps_published .empty faultless mem)

theorem ours_respond (faultless : ∀ other ∈ before ++ [stimulus], other.host.Faultless)
    (answering : Answering (before ++ [stimulus]))
    (ours : ∀ publication ∈ (play {} before).2, publication.OnOurs) :
    ∀ publication ∈ ((play {} before).1.respond stimulus.host stimulus.input).2,
      publication.OnOurs := by
  intro publication mem id about
  have answers := (answering_snoc.1 answering).2
  have earlier : ∀ other ∈ before, other.host.Faultless :=
    fun other mem => faultless other (List.mem_append_left _ mem)
  obtain ⟨coherent, here⟩ := coherent_before faultless rfl
  obtain ⟨later, move, led, made⟩ := made_of_published coherent here mem
  rw [Move.store_of_made made.mem]
  rcases about with subject | media
  case inr => exact Move.ours_of_media made.fits made.mem media
  case inl =>
    obtain ⟨message, found, rfl, -, hands⟩ :=
      Move.handsOver_of_made led.coherent made.fits made.mem subject
    have reported (work : FileWork) (reports : stimulus.input.reports? = some work) :
        later.store.HoldsOurs work.id :=
      (ours_of_reported earlier ours (answers work reports)).mono led.keeps
    cases hands with
    | attempt outgoing => exact ⟨message, found, outgoing⟩
    | scan options sought => exact ⟨message, found, (mem_sought.1 sought).2.1⟩
    | resume =>
      obtain ⟨preview, length, eq⟩ := made.causes
      exact reported (.preparation message.id) (by rw [eq]; rfl)
    | complete =>
      obtain ⟨remote, eq⟩ := made.causes
      exact reported (.upload message.id) (by rw [eq]; rfl)

end

/-- Whatever is asked about in such a life is a message of ours. -/
theorem ours_of_published {stimuli : List Stimulus}
    (faultless : ∀ stimulus ∈ stimuli, stimulus.host.Faultless) (answering : Answering stimuli) :
    ∀ publication ∈ (play {} stimuli).2, publication.OnOurs :=
  forall_published id ours_respond faultless answering

/-- In every life of the outbox in which only work that was asked for is reported, every request to
send a message or to upload its file is well-formed at the moment when it is published. -/
theorem requests_well_formed {stimuli : List Stimulus}
    (faultless : ∀ stimulus ∈ stimuli, stimulus.host.Faultless) (answering : Answering stimuli) :
    ∀ before stimulus after, stimuli = before ++ stimulus :: after →
      ∀ publication ∈ ((play {} before).1.respond stimulus.host stimulus.input).2,
        publication.WellFormed (before ++ [stimulus]) := by
  intro before stimulus after eq publication mem
  obtain ⟨coherent, here⟩ := coherent_before faultless eq
  have earlier : ∀ other ∈ before, other.host.Faultless :=
    fun other mem => faultless other (by rw [eq]; exact List.mem_append_left _ mem)
  have ours : publication.OnOurs := by
    refine ours_of_published faultless answering publication (mem_play.2 ?_)
    exact ⟨before, stimulus, after, eq, mem⟩
  obtain ⟨later, move, led, made⟩ := made_of_published coherent here mem
  have suited {id : MessageId} (subject : publication.event.subject? = some id) :
      ∃ message, publication.store.message? id = some message ∧ message.id = id ∧
        message.direction = .outgoing ∧ later.Suits publication.event message := by
    obtain ⟨message, found, own, suits, -⟩ :=
      Move.handsOver_of_made led.coherent made.fits made.mem subject
    rw [← Move.store_of_made made.mem] at found
    obtain ⟨same, stored, outgoing⟩ := ours id (Or.inl subject)
    obtain rfl : same = message := Option.some.inj (stored.symm.trans found)
    exact ⟨same, found, own, outgoing, suits⟩
  constructor
  · intro id sends
    have subject : publication.event.subject? = some id := by rw [sends]; rfl
    obtain ⟨message, found, rfl, outgoing, suits⟩ := suited subject
    exact ⟨message, found, outgoing, suits.send sends⟩
  · intro id uploads
    have subject : publication.event.subject? = some id := by rw [uploads]; rfl
    obtain ⟨message, found, rfl, outgoing, suits⟩ := suited subject
    obtain ⟨file, service⟩ := suits.upload uploads
    have connected : stimulus.input ≠ .event .disconnected := by
      intro lost
      rw [lost, respond_disconnected] at mem
      cases mem
    refine ⟨message, found, outgoing, file, ?_⟩
    rcases led.serving service with known | found
    · exact (serving_of_known earlier known).snoc connected
    · exact serving_found found

/-- A file is uploaded when it is sent, and the message is sent when the upload is reported. -/
theorem requests_well_formed_uploaded :
    let host : Host := { settings := {}, serverId := toString }
    let inputs : List Input := [.openThread ⟨"a@x"⟩ false, .event .uploadServiceFound,
      .request (.sendBinary ⟨1⟩ ⟨"/f", "application/pdf", 10, false⟩)]
    let before := inputs.map (Stimulus.mk host)
    let uploaded : Stimulus := ⟨host, .event (.uploadCompleted ⟨1⟩ "u1")⟩
    (play {} (before ++ [uploaded])).2.map (·.event) =
        [.uploadAttachmentRequest ⟨1⟩, .sendMessageRequest ⟨1⟩] ∧
      ∀ publication ∈ ((play {} before).1.respond host uploaded.input).2,
        publication.WellFormed (before ++ [uploaded]) := by
  intro host inputs before uploaded
  have faultless : ∀ stimulus ∈ before ++ [uploaded], stimulus.host.Faultless := by
    simp [before, inputs, uploaded, Host.Faultless, host]
  have asked : ∃ publication ∈ (play {} before).2,
      publication.event.asks? = some (.upload ⟨1⟩) := by
    decide +kernel
  have answering : Answering (before ++ [uploaded]) := by
    refine answering_snoc.2 ⟨answering_of_silent (by decide +kernel), fun work reports => ?_⟩
    cases reports
    exact asked
  refine ⟨by decide +kernel, ?_⟩
  exact requests_well_formed faultless answering before uploaded [] rfl

end Outbox

end Messenger

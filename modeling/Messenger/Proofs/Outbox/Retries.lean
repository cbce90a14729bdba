/-
# What a retry hands over

A retry starts some messages over, and then scans for more than these: for everything that is open for
the same peer, or for everything.  So whether a message that was started over goes out is the scan's
decision, and the scan was not told which messages these are.

    started over, nothing to upload     sent, unless it is behind a command or its group is empty
    started over, still to be uploaded  passed over

The scan after a retry is one for messages, and such a scan leaves files alone: they are asked for by
the scan that comes when a server for files is found.  That the server is known already makes no
difference, so a file whose upload failed does not go out when it is retried, but the next time that a
server is found (`retried_iff`).
-/
import Messenger.Proofs.Outbox.Releases

namespace Messenger

/-- A request to try again. -/
inductive Retry where
  | one (id : MessageId)
  | toPeer (peer : Identity)
  | all

namespace Retry

open Outbox

def request : Retry → Request
  | one id => .retryMessage id
  | toPeer peer => .retryMessagesTo peer
  | all => .retryAll

/-- The messages that are started over. -/
def chosen (store : Store) : Retry → List Message
  | one id => (store.message? id).toList
  | toPeer peer => store.queryMessages (held.toPeer peer)
  | all => store.queryMessages held

/-- The scan that follows. -/
def scan (store : Store) : Retry → ScanOptions
  | one id => { peer := (store.message? id).map (·.peer) }
  | toPeer peer => .forPeer peer
  | all => {}

variable {store : Store} {retry : Retry} {message : Message}

theorem mem_chosen_one {id : MessageId} :
    message ∈ (one id).chosen store ↔ store.message? id = some message :=
  Option.mem_toList

theorem chosen_stored (keyed : store.messages.KeyedBy (·.id)) (chosen : message ∈ retry.chosen store) :
    store.message? message.id = some message := by
  cases retry with
  | one id =>
    have found : store.message? id = some message := mem_chosen_one.1 chosen
    have own : message.id = id := keyed.key_eq found
    rw [own, found]
  | toPeer peer => exact keyed.mem_values_iff.1 (Store.mem_queryMessages.1 chosen).1
  | all => exact keyed.mem_values_iff.1 (Store.mem_queryMessages.1 chosen).1

theorem scan_about (chosen : message ∈ retry.chosen store) :
    retry.scan store = {} ∨ retry.scan store = .forPeer message.peer := by
  cases retry with
  | one id =>
    have found : store.message? id = some message := mem_chosen_one.1 chosen
    rw [scan, found]
    exact Or.inr rfl
  | toPeer peer =>
    have admitted := (Store.mem_queryMessages.1 chosen).2
    simp only [Query.admits, Query.toPeer, Option.all_some, Bool.and_eq_true,
      decide_eq_true_eq] at admitted
    rw [scan, admitted.1.2]
    exact Or.inr rfl
  | all => exact Or.inl rfl

end Retry

namespace Outbox

open Messenger.Action

variable {outbox : Outbox} {host : Host}

/-- The outbox with some messages started over. -/
def restarted (outbox : Outbox) (ids : List MessageId) (now : Int) : Outbox :=
  { outbox with store := (outbox.store.updateStatuses ids .sending now).store }

theorem upload_not_mem_plan {options : ScanOptions} (plain : options.retryingMedia = false)
    (id : MessageId) : .upload id ∉ (outbox.plan options).dispatch := by
  intro planned
  obtain ⟨before, message, after, eq, -, decided, -⟩ :=
    sought_of_decided (Plan.mem_dispatch.1 planned) nofun
  have sought : message ∈ outbox.sought options := by simp [eq]
  have media := (mem_sought.1 sought).2.2.2.1
  have ready : message.Ready := by
    intro attachment has
    rw [Option.mem_def] at has
    rw [has, Scan.mediaQualifies, plain] at media
    exact media
  have file := (Scan.needsUpload_of_upload decided).1
  rw [ready.uploaded] at file
  cases file

section
variable (coherent : outbox.store.Coherent) (faultless : host.Faultless)
include coherent faultless

/-- What is left by starting messages over and scanning. -/
theorem on_startOver (ids : List MessageId) (options : ScanOptions) (finish : Nat → Nat) :
    ∃ count next, (do
        let count ← commit .updateStatuses (·.updateStatuses ids .sending host.now)
        let _ ← resend options
        return finish count : Action Nat).on host { outbox with } = .ok count next ∧
      next.toOutbox = outbox.restarted ids host.now ∧
      next.publications = ((outbox.restarted ids host.now).plan options).dispatch.map fun dispatch =>
        (outbox.restarted ids host.now).publication dispatch.event := by
  have coherent' : (outbox.restarted ids host.now).store.Coherent := coherent.updateStatuses ids host.now
  obtain ⟨next, ran, left, published⟩ := on_resend faultless options
    { outbox.restarted ids host.now with
      changes := (outbox.store.updateStatuses ids .sending host.now).changes }
  rw [restarted] at ran
  refine ⟨finish (outbox.store.updateStatuses ids .sending host.now).value, next, ?_,
    left.trans (Move.make_scan coherent' options), published⟩
  rw [on_bind, on_commit faultless]
  dsimp only [List.nil_append]
  rw [on_bind, ran]
  exact on_pure _

theorem on_retryHeld (query : Query) (options : ScanOptions) :
    let left := outbox.restarted ((outbox.store.queryMessages query).map (·.id)) host.now
    ∃ count next, (retryHeld query options).on host { outbox with } = .ok count next ∧
      next.toOutbox = left ∧ next.publications = (left.plan options).dispatch.map fun dispatch =>
        left.publication dispatch.event := by
  obtain ⟨count, next, ran, left⟩ := on_startOver coherent faultless
    ((outbox.store.queryMessages query).map (·.id)) options id
  refine ⟨count, next, ?_, left⟩
  rw [retryHeld, on_bind, on_look faultless]
  dsimp only
  rw [on_bind, on_read]
  exact ran

theorem on_retryMessage {message : Message} (stored : outbox.store.message? message.id = some message) :
    let left := outbox.restarted [message.id] host.now
    ∃ count next, (retryMessage message.id).on host { outbox with } = .ok count next ∧
      next.toOutbox = left ∧
      next.publications = (left.plan (.forPeer message.peer)).dispatch.map fun dispatch =>
        left.publication dispatch.event := by
  obtain ⟨count, next, ran, left⟩ := on_startOver coherent faultless [message.id]
    (.forPeer message.peer) fun _ => 1
  refine ⟨count, next, ?_, left⟩
  rw [retryMessage, on_bind, on_look faultless]
  simp only [stored]
  rw [on_bind, on_read]
  exact ran

theorem respond_retry {retry : Retry} {message : Message}
    (chosen : message ∈ retry.chosen outbox.store) :
    let left := outbox.restarted ((retry.chosen outbox.store).map (·.id)) host.now
    outbox.respond host (.request retry.request) = (left,
      (left.plan (retry.scan outbox.store)).dispatch.map fun dispatch =>
        left.publication dispatch.event) := by
  intro left
  obtain ⟨count, next, ran, outcome, published⟩ : ∃ count next,
      (perform retry.request).on host { outbox with } = .ok (.count count) next ∧
        next.toOutbox = left ∧
        next.publications = (left.plan (retry.scan outbox.store)).dispatch.map fun dispatch =>
          left.publication dispatch.event := by
    have counted {action : Action Nat} {count : Nat} {next : Run}
        (ran : action.on host { outbox with } = .ok count next) :
        (Answer.count <$> action).on host { outbox with } = .ok (.count count) next := by
      rw [on_map, ran]
    cases retry with
    | one id =>
      have found : outbox.store.message? id = some message := Retry.mem_chosen_one.1 chosen
      obtain rfl : message.id = id := coherent.tidy.messages.key_eq found
      have same : left = outbox.restarted [message.id] host.now := by
        simp only [left, Retry.chosen, found, Option.toList_some, List.map_cons, List.map_nil]
      have options : Retry.scan outbox.store (.one message.id) = .forPeer message.peer := by
        rw [Retry.scan, found]
        rfl
      obtain ⟨count, next, ran, outcome⟩ := on_retryMessage coherent faultless found
      rw [same, options]
      exact ⟨count, next, counted ran, outcome⟩
    | toPeer peer =>
      obtain ⟨count, next, ran, outcome⟩ := on_retryHeld coherent faultless (held.toPeer peer) (.forPeer peer)
      exact ⟨count, next, counted ran, outcome⟩
    | all =>
      obtain ⟨count, next, ran, outcome⟩ := on_retryHeld coherent faultless held {}
      exact ⟨count, next, counted ran, outcome⟩
  have requested : { outbox : Service }.request host retry.request = _ := run_of_ok ran
  exact Prod.ext ((congrArg Outcome.outbox requested).trans outcome)
    ((congrArg Outcome.publications requested).trans published)

end

theorem uploads_found (coherent : outbox.store.Coherent) (faultless : host.Faultless)
    {message : Message} (stored : outbox.store.message? message.id = some message)
    (outgoing : message.direction = .outgoing) (sending : message.status = .sending)
    (file : message.needsUpload) (somebody : ∀ group ∈ message.group,
      outbox.store.liveMembersOf group.id ≠ []) :
    ∃ publication ∈ (outbox.respond host (.event .uploadServiceFound)).2,
      publication.event = .uploadAttachmentRequest message.id := by
  let serving : Outbox := { outbox with uploadService := true }
  have coherent' : serving.store.Coherent := coherent
  have meant : Scan.isForNobody serving.store.liveMembersOf message.toMessageContent = false := by
    rw [← Bool.not_eq_true, Scan.isForNobody_iff]
    exact Store.not_vacant_iff.2 somebody
  have uploadable : message ∈ serving.uploadable .mediaRetry := by
    refine List.mem_filter.2 ⟨coherent.tidy.mem_messages.2 stored, ?_⟩
    simp only [outgoing, sending, file, meant, ScanOptions.mediaRetry, Scan.statusQualifies,
      Option.all_none, Bool.not_false, decide_true, Bool.and_self]
  rw [respond_uploadServiceFound faultless]
  refine (exists_publication_iff (.upload message.id)).2 ?_
  exact (mem_plan_of_media coherent' rfl).2 ⟨rfl, message, uploadable, rfl⟩

/-- In every life of the outbox, a message of ours that a retry starts over is sending from then on.  It
is asked to be sent at once if and only if it needs no upload, is not behind a group command that waits,
and has somebody to go to.  Its file is not asked for, not even if a server for files is known; but it is
the next time that one is found, if there is somebody to get it. -/
theorem retried_iff {stimuli : List Stimulus}
    (faultless : ∀ stimulus ∈ stimuli, stimulus.host.Faultless) {host : Host} (here : host.Faultless)
    (retry : Retry) {message : Message} (chosen : message ∈ retry.chosen (play {} stimuli).1.store)
    (outgoing : message.direction = .outgoing) :
    let response := (play {} stimuli).1.respond host (.request retry.request)
    let after := response.1.store
    let somebody := ∀ group ∈ message.group, after.liveMembersOf group.id ≠ []
    after.message? message.id = some (message.inState .sending host.now) ∧
    ((∃ publication ∈ response.2, publication.event = .sendMessageRequest message.id) ↔
      message.needsUpload = false ∧ somebody ∧ after.Clear message) ∧
    (¬∃ publication ∈ response.2, publication.event = .uploadAttachmentRequest message.id) ∧
    (message.needsUpload → somebody → ∀ found : Host, found.Faultless →
      ∃ publication ∈ (response.1.respond found (.event .uploadServiceFound)).2,
        publication.event = .uploadAttachmentRequest message.id) := by
  intro response after somebody
  let before := (play {} stimuli).1
  have coherent : before.store.Coherent := coherent_play .empty faultless
  have coherent' : after.Coherent := coherent_respond coherent here _
  have eq : response = _ := respond_retry coherent here chosen
  have stored : before.store.message? message.id = some message :=
    Retry.chosen_stored coherent.tidy.messages chosen
  let row := message.inState .sending host.now
  have found : after.message? row.id = some row := by
    have listed : message.id ∈ (retry.chosen before.store).map (·.id) := List.mem_map_of_mem chosen
    have rows := Store.get?_updateStatuses coherent.tidy.messages
      ((retry.chosen before.store).map (·.id)) .sending host.now message.id
    rw [if_pos listed] at rows
    have left : after.messages = _ := congrArg (·.1.store.messages) eq
    rw [Store.message?, left]
    refine rows.trans ?_
    rw [show before.store.messages.get? message.id = some message from stored]
    rfl
  have published : response.2 = (response.1.plan (retry.scan before.store)).dispatch.map
      fun dispatch => response.1.publication dispatch.event := by
    rw [eq]
  refine ⟨found, ?_, ?_, fun file somebody search faultless' => ?_⟩
  · have same : .send message.id ∈ (response.1.plan (retry.scan before.store)).dispatch ↔
        .send message.id ∈ (response.1.plan {}).dispatch := by
      rcases Retry.scan_about chosen with all | about
      · rw [all]
      · rw [about]
        exact send_mem_plan_about coherent' found (rfl : row.peer = message.peer)
    calc (∃ publication ∈ response.2, publication.event = .sendMessageRequest message.id)
      _ ↔ .send message.id ∈ (response.1.plan (retry.scan before.store)).dispatch :=
        published ▸ exists_publication_iff (.send message.id)
      _ ↔ after.Sendable row.toMessageContent ∧ after.Clear row :=
        same.trans (send_mem_plan_iff coherent' found outgoing)
      _ ↔ message.needsUpload = false ∧ somebody ∧ after.Clear message := by
        constructor
        · rintro ⟨⟨-, uploaded, people⟩, clear⟩
          exact ⟨uploaded, people, clear⟩
        · rintro ⟨uploaded, people, clear⟩
          exact ⟨⟨List.mem_cons_self, uploaded, people⟩, clear⟩
  · rw [published]
    intro asked
    have plain : (retry.scan before.store).retryingMedia = false := by cases retry <;> rfl
    exact upload_not_mem_plan plain message.id ((exists_publication_iff (.upload message.id)).1 asked)
  · have asked : ∃ publication ∈ (response.1.respond search (.event .uploadServiceFound)).2,
        publication.event = .uploadAttachmentRequest row.id :=
      uploads_found coherent' faultless' found outgoing rfl file somebody
    exact asked

/-- A text and a file fail and are tried again.  The text goes out; nothing is asked for the file until a
server for files is found once more. -/
theorem retried_iff_failed :
    let host : Host := { settings := {}, serverId := toString }
    let inputs : List Input := [.openThread ⟨"a@x"⟩ false, .event .uploadServiceFound,
      .request (.sendText ⟨1⟩ "hello" none),
      .request (.sendBinary ⟨1⟩ ⟨"/f", "application/pdf", 10, false⟩),
      .event (.messageFailed ⟨1⟩), .event (.messageFailed ⟨2⟩)]
    let stimuli := inputs.map (Stimulus.mk host)
    let retried (retry : Retry) := (play {} stimuli).1.respond host (.request retry.request)
    (∀ stimulus ∈ stimuli, stimulus.host.Faultless) ∧
      (∃ publication ∈ (retried (.one ⟨1⟩)).2, publication.event = .sendMessageRequest ⟨1⟩) ∧
      (¬∃ publication ∈ (retried (.one ⟨2⟩)).2, publication.event = .uploadAttachmentRequest ⟨2⟩) ∧
      ∃ publication ∈ ((retried (.one ⟨2⟩)).1.respond host (.event .uploadServiceFound)).2,
        publication.event = .uploadAttachmentRequest ⟨2⟩ := by
  intro host inputs stimuli retried
  have here : host.Faultless := fun _ => rfl
  have faultless : ∀ stimulus ∈ stimuli, stimulus.host.Faultless :=
    List.forall_mem_map.2 fun _ _ => here
  obtain ⟨text, stored⟩ : ∃ text, (play {} stimuli).1.store.message? ⟨1⟩ = some text :=
    Option.isSome_iff_exists.1 (by decide +kernel)
  obtain ⟨file, stored'⟩ : ∃ file, (play {} stimuli).1.store.message? ⟨2⟩ = some file :=
    Option.isSome_iff_exists.1 (by decide +kernel)
  have plain : ∀ text ∈ (play {} stimuli).1.store.message? ⟨1⟩, text.id = ⟨1⟩ ∧
      text.direction = .outgoing ∧ text.needsUpload = false ∧ text.group = none ∧
      (retried (.one ⟨1⟩)).1.store.Clear text := by
    decide +kernel
  have attached : ∀ file ∈ (play {} stimuli).1.store.message? ⟨2⟩, file.id = ⟨2⟩ ∧
      file.direction = .outgoing ∧ file.needsUpload ∧ file.group = none := by
    decide +kernel
  obtain ⟨one, outgoing, uploaded, nobody, clear⟩ := plain text stored
  obtain ⟨two, outgoing', waits, nobody'⟩ := attached file stored'
  have chosen := Retry.mem_chosen_one.2 stored
  have chosen' := Retry.mem_chosen_one.2 stored'
  obtain ⟨-, sends, -, -⟩ := retried_iff faultless here (.one ⟨1⟩) chosen outgoing
  obtain ⟨-, -, silent, asked⟩ := retried_iff faultless here (.one ⟨2⟩) chosen' outgoing'
  rw [one, nobody] at sends
  rw [two, nobody'] at asked
  rw [two] at silent
  exact ⟨faultless, sends.2 ⟨uploaded, nofun, clear⟩, silent, asked waits nofun host here⟩

/-- A server for files is known, the retry succeeds, and nothing holds the file back; but nothing at all is
handed over. -/
theorem file_retried_in_vain :
    let host : Host := { settings := {}, serverId := toString }
    let inputs : List Input := [.openThread ⟨"a@x"⟩ false, .event .uploadServiceFound,
      .request (.sendBinary ⟨1⟩ ⟨"/f", "application/pdf", 10, false⟩), .event (.messageFailed ⟨1⟩)]
    let stimuli := inputs.map (Stimulus.mk host)
    let before := (play {} stimuli).1
    let outcome := { outbox := before : Service }.request host (.retryMessage ⟨1⟩)
    (∀ stimulus ∈ stimuli, stimulus.host.Faultless) ∧ before.uploadService ∧
      outcome.result = .ok (.count 1) ∧ outcome.publications = [] ∧
      ∃ message, outcome.outbox.store.message? ⟨1⟩ = some message ∧ message.direction = .outgoing ∧
        message.status = .sending ∧ message.group = none ∧ outcome.outbox.store.Clear message := by
  intro host inputs stimuli before outcome
  have faultless : ∀ stimulus ∈ stimuli, stimulus.host.Faultless :=
    List.forall_mem_map.2 fun _ _ _ => rfl
  have rows : ∃ message ∈ outcome.outbox.store.message? ⟨1⟩, message.direction = .outgoing ∧
      message.status = .sending ∧ message.group = none ∧ outcome.outbox.store.Clear message := by
    decide +kernel
  have coherent : before.store.Coherent := coherent_play .empty faultless
  obtain ⟨message, stored⟩ : ∃ message, before.store.message? ⟨1⟩ = some message :=
    Option.isSome_iff_exists.1 (by decide +kernel)
  obtain ⟨counted, -⟩ := request_retryMessage coherent (fun _ => rfl : host.Faultless) stored
  exact ⟨faultless, by decide +kernel, counted, List.length_eq_zero_iff.1 (by decide +kernel), rows⟩

end Outbox

end Messenger

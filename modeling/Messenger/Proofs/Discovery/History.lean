/-
# What has happened in a round

A round counts what it waits for.  Here the same is said of the events themselves, without the
counters: which questions were put and which of them are answered, whom the roster matched, whose
presence and whose key was accepted.

    `Asked`, `Answered`    a request was published; later an answer came that names it
    `Matched`              a first answer to a batch names the person
    `present?`, `keyed?`   whose presence or key an event brings, if the round accepts it
    `Complete`             there is nothing left to wait for

Everything is said of a history, the list of the events in order, each with the round before it.
-/
import Messenger.Discovery.Round
import Mathlib.Data.Finset.Card

namespace Messenger.Discovery

/-- An event and the round to which it came. -/
structure Handled where
  before : Round
  event : Event

def Handled.progress (handled : Handled) : Progress := handled.before.step handled.event

namespace Round

/-- The events as they come to the round one after the other. -/
def history : Round → List Event → List Handled
  | _, [] => []
  | round, event :: rest => ⟨round, event⟩ :: (round.step event).round.history rest

def after (round : Round) (events : List Event) : Round :=
  events.foldl (fun round event => (round.step event).round) round

theorem after_append (round : Round) (first second : List Event) :
    round.after (first ++ second) = (round.after first).after second :=
  List.foldl_append

theorem history_append (round : Round) (first second : List Event) :
    round.history (first ++ second) = round.history first ++ (round.after first).history second := by
  induction first generalizing round with
  | nil => rfl
  | cons event rest ih => exact congrArg (⟨round, event⟩ :: ·) (ih _)

theorem after_snoc (round : Round) (events : List Event) (event : Event) :
    round.after (events ++ [event]) = ((round.after events).step event).round :=
  round.after_append events [event]

theorem history_snoc (round : Round) (events : List Event) (event : Event) :
    round.history (events ++ [event]) = round.history events ++ [⟨round.after events, event⟩] :=
  round.history_append events [event]

theorem length_history (round : Round) (events : List Event) :
    (round.history events).length = events.length := by
  induction events generalizing round with
  | nil => rfl
  | cons event rest ih => exact congrArg (· + 1) (ih _)

end Round

def published (history : List Handled) : List Event := history.flatMap (·.progress.published)

def outcomes (history : List Handled) : List Outcome := history.filterMap (·.progress.outcome)

theorem outcomes_snoc (history : List Handled) (handled : Handled) :
    outcomes (history ++ [handled]) = outcomes history ++ handled.progress.outcome.toList := by
  rw [outcomes, List.filterMap_append, ← outcomes]
  cases told : handled.progress.outcome <;> simp [told]

/-! ## Something happened -/

/-- At one of the events, something was so of it and of what was before it. -/
def Happened (what : List Handled → Handled → Prop) (history : List Handled) : Prop :=
  ∃ past handled future, history = past ++ handled :: future ∧ what past handled

section
variable {what : List Handled → Handled → Prop} {history : List Handled} {handled : Handled}

theorem not_happened_nil : ¬Happened what [] := by
  rintro ⟨past, handled, future, eq, -⟩
  simp at eq

theorem happened_snoc :
    Happened what (history ++ [handled]) ↔ Happened what history ∨ what history handled := by
  constructor
  · rintro ⟨past, other, future, eq, so⟩
    rcases List.eq_nil_or_concat future with rfl | ⟨rest, last, rfl⟩
    · obtain ⟨rfl, same⟩ := List.append_inj' eq rfl
      cases same
      exact Or.inr so
    · rw [List.concat_eq_append, ← List.cons_append, ← List.append_assoc] at eq
      obtain ⟨rfl, -⟩ := List.append_inj' eq rfl
      exact Or.inl ⟨past, other, rest, rfl, so⟩
  · rintro (⟨past, other, future, rfl, so⟩ | so)
    · exact ⟨past, other, future ++ [handled], by simp, so⟩
    · exact ⟨history, handled, [], rfl, so⟩

end

/-! ## Questions and answers -/

/-- The two kinds of question of which there may be several at a time. -/
inductive Question where
  | rosterMatch
  | lastActivity

namespace Question

/-- The requests that put a question under a name. -/
def Asks : Question → RequestId → Event → Prop
  | rosterMatch, id, request => ∃ people, request = .rosterMatchRequest id people
  | lastActivity, id, request => ∃ person, request = .lastActivityRequest id person

/-- The events that answer the question of that name. -/
def Answers : Question → RequestId → Event → Prop
  | rosterMatch, id, event => ∃ matched, event = .rosterMatch id matched
  | lastActivity, id, event => ∃ person notFound, event = .lastActivity id person notFound

end Question

/-- The question was put. -/
def Asked (question : Question) (id : RequestId) (history : List Handled) : Prop :=
  ∃ request ∈ published history, question.Asks id request

/-- The question was put, and then answered. -/
def Answered (question : Question) (id : RequestId) : List Handled → Prop :=
  Happened fun past handled => Asked question id past ∧ question.Answers id handled.event

/-- The question is still to be answered. -/
def Open (question : Question) (id : RequestId) (history : List Handled) : Prop :=
  Asked question id history ∧ ¬Answered question id history

section
variable {question : Question} {id : RequestId} {history : List Handled} {handled : Handled}

theorem asked_snoc : Asked question id (history ++ [handled]) ↔
    Asked question id history ∨ ∃ request ∈ handled.progress.published, question.Asks id request := by
  simp [Asked, published, or_and_right, exists_or]

theorem answered_snoc : Answered question id (history ++ [handled]) ↔
    Answered question id history ∨
      Asked question id history ∧ question.Answers id handled.event :=
  happened_snoc

/-- Only a question that was put is answered. -/
theorem asked_of_answered (answered : Answered question id history) : Asked question id history := by
  obtain ⟨past, handled, future, rfl, ⟨request, mem, asks⟩, -⟩ := answered
  exact ⟨request, by simpa [published] using Or.inl (by simpa [published] using mem), asks⟩

/-- A question is open as long as no answer comes, and from when it is put on. -/
theorem open_snoc (fresh : ∀ request ∈ handled.progress.published,
      question.Asks id request → ¬Asked question id history) :
    Open question id (history ++ [handled]) ↔
      (Open question id history ∧ ¬question.Answers id handled.event) ∨
        ∃ request ∈ handled.progress.published, question.Asks id request := by
  rw [Open, asked_snoc, answered_snoc, not_or, not_and]
  constructor
  · rintro ⟨asked | asks, unanswered, silent⟩
    · exact Or.inl ⟨⟨asked, unanswered⟩, silent asked⟩
    · exact Or.inr asks
  · rintro (⟨⟨asked, unanswered⟩, silent⟩ | ⟨request, mem, asks⟩)
    · exact ⟨Or.inl asked, unanswered, fun _ => silent⟩
    · have unasked := fresh request mem asks
      exact ⟨Or.inr ⟨request, mem, asks⟩, fun answered => unasked (asked_of_answered answered),
        fun asked => absurd asked unasked⟩

end

/-! ## What is accepted -/

/-- There was a connection. -/
def Connected (history : List Handled) : Prop := ∃ handled ∈ history, handled.event = .connected

/-- The blocklist came, after there was a connection. -/
def Blocklisted : List Handled → Prop :=
  Happened fun past handled => Connected past ∧
    ∃ blocked, handled.event = .blocklist handled.before.blocklistId blocked

/-- The first answer to a batch named the person. -/
def Matched (identity : Identity) : List Handled → Prop :=
  Happened fun past handled => ∃ batch matched, handled.event = .rosterMatch batch matched ∧
    identity ∈ matched ∧ Open .rosterMatch batch past

namespace Handled

/-- The person whose presence is accepted. -/
def present? (handled : Handled) : Option Identity :=
  match handled.event with
  | .presence presence =>
    if presence.request = handled.before.presenceId ∧ handled.before.phase = .awaitingDetails then
      some presence.identity
    else none
  | _ => none

/-- The person whose key is accepted: one of whom something is known. -/
def keyed? (handled : Handled) : Option Identity :=
  match handled.event with
  | .publicKey request identity _ =>
    if request = handled.before.keyId ∧ handled.before.phase = .awaitingDetails
        ∧ handled.before.findings.has identity then some identity
    else none
  | _ => none

end Handled

/-- The people whose presence was accepted. -/
def present (history : List Handled) : Finset Identity :=
  (history.filterMap Handled.present?).toFinset

/-- The people whose key was accepted. -/
def keyed (history : List Handled) : Finset Identity :=
  (history.filterMap Handled.keyed?).toFinset

/-- How many keys were accepted, those that came again included. -/
def keysAccepted (history : List Handled) : Nat := (history.filterMap Handled.keyed?).length

section
variable {history : List Handled} {handled : Handled} {identity : Identity}

theorem connected_snoc : Connected (history ++ [handled]) ↔
    Connected history ∨ handled.event = .connected := by
  simp [Connected, or_and_right, exists_or]

theorem blocklisted_snoc : Blocklisted (history ++ [handled]) ↔ Blocklisted history ∨
    Connected history ∧ ∃ blocked, handled.event = .blocklist handled.before.blocklistId blocked :=
  happened_snoc

theorem matched_snoc : Matched identity (history ++ [handled]) ↔ Matched identity history ∨
    ∃ batch matched, handled.event = .rosterMatch batch matched ∧ identity ∈ matched ∧
      Open .rosterMatch batch history :=
  happened_snoc

theorem mem_present_snoc : identity ∈ present (history ++ [handled]) ↔
    identity ∈ present history ∨ handled.present? = some identity := by
  simp [present, List.filterMap_append, eq_comm]

theorem card_present_snoc : (present (history ++ [handled])).card = (present history).card +
    (handled.present?.filter (· ∉ present history)).toList.length := by
  unfold present
  rw [List.filterMap_append, List.toFinset_append]
  cases accepted : handled.present? with
  | none => simp [accepted]
  | some identity =>
    by_cases before : identity ∈ (history.filterMap Handled.present?).toFinset
    · simp_all [Option.filter]
    · simp_all [Option.filter]

theorem keysAccepted_snoc : keysAccepted (history ++ [handled]) =
    keysAccepted history + handled.keyed?.toList.length := by
  unfold keysAccepted
  rw [List.filterMap_append, List.length_append]
  cases accepted : handled.keyed? <;> simp [accepted]

end

/-- There is nothing left to wait for: all batches are answered, the blocklist is there, and
either nobody was matched or the keys are enough for the presences and all look-ups answered. -/
structure Complete (history : List Handled) : Prop where
  connected : Connected history
  matches_answered : ∀ id, Asked .rosterMatch id history → Answered .rosterMatch id history
  blocklisted : Blocklisted history
  details : (∀ identity, ¬Matched identity history) ∨
    (present history).card ≤ keysAccepted history ∧
      ∀ id, Asked .lastActivity id history → Answered .lastActivity id history

end Messenger.Discovery

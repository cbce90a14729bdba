/-
# A round ends when it has all it waits for, once

What a round counts is what has happened (`Tracks`), so the test that it makes after an event
says whether there is nothing left to wait for (`Tracks.isComplete_iff`).  Hence, whatever events
come in whatever order,

    the shortest history that is complete      ends the round as done
    a disconnection before that                ends it as unavailable
    neither of the two                         leaves it running

and the outcome is told at that moment, and nothing at any other (`ends_when_complete`).
-/
import Messenger.Proofs.Discovery.Reaction

namespace Messenger.Discovery

/-- What the round keeps is what has happened. -/
structure Tracks (history : List Handled) (round : Round) : Prop where
  formed : round.WellFormed
  connected : round.phase ≠ .init ↔ Connected history
  batches : ∀ id, id ∈ round.openBatches ↔ Open .rosterMatch id history
  checks : ∀ id, id ∈ round.openChecks.map Prod.fst ↔ Open .lastActivity id history
  asked_lt : ∀ {question : Question} {id : RequestId},
    Asked question id history → id.val < round.nextId.val
  blocklist : round.blocklistReceived = true ↔ Blocklisted history
  matched : ∀ identity, (round.finding identity).matched = true ↔ Matched identity history
  matchedCount : round.matchedCount = 0 ↔ ∀ identity, ¬(round.finding identity).matched = true
  presence : ∀ identity, (round.finding identity).presence = true ↔ identity ∈ present history
  presenceCount : round.presenceCount = (present history).card
  keyCount : round.keyCount = keysAccepted history

theorem tracks_start (candidates : List Identity) (batchSize : Nat) (first : RequestId) :
    Tracks [] (Round.start candidates batchSize first) where
  formed := .start candidates batchSize first
  connected := by simp [Connected, Round.start]
  batches := by simp [Open, Asked, published, Round.start]
  checks := by simp [Open, Asked, published, Round.start]
  asked_lt := by simp [Asked, published]
  blocklist := iff_of_false (fun eq => nomatch eq) not_happened_nil
  matched := fun identity => iff_of_false (fun eq => nomatch eq) not_happened_nil
  matchedCount := iff_of_true rfl fun _ eq => nomatch eq
  presence := fun identity => iff_of_false (fun eq => nomatch eq) (by simp [present])
  presenceCount := rfl
  keyCount := rfl

section
variable {history : List Handled} {round : Round}

/-- What one event adds to the past is what it adds to the round. -/
theorem Tracks.snoc {event : Event} {next : Round} (tracks : Tracks history round)
    (advance : Advance round event (round.step event).published next) :
    Tracks (history ++ [⟨round, event⟩]) next where
  formed := advance.formed
  connected := by
    rw [advance.phase, tracks.connected, connected_snoc]
  batches := by
    intro id
    rw [advance.batches, tracks.batches, open_snoc]
    · rfl
    · intro request mem asks asked
      exact absurd (tracks.asked_lt asked) (Nat.not_lt.2 (advance.fresh mem asks).1)
  checks := by
    intro id
    rw [advance.checks, tracks.checks, open_snoc]
    · rfl
    · intro request mem asks asked
      exact absurd (tracks.asked_lt asked) (Nat.not_lt.2 (advance.fresh mem asks).1)
  asked_lt := by
    intro question id asked
    rcases asked_snoc.1 asked with asked | ⟨request, mem, asks⟩
    · exact Nat.lt_of_lt_of_le (tracks.asked_lt asked) advance.nextId
    · exact (advance.fresh mem asks).2
  blocklist := by
    rw [advance.blocklist, tracks.blocklist, tracks.connected, blocklisted_snoc]
  matched := by
    intro identity
    rw [advance.matched, tracks.matched, matched_snoc]
    simp only [tracks.batches]
  matchedCount := advance.matchedCount tracks.matchedCount
  presence := by
    intro identity
    rw [advance.present, tracks.presence, mem_present_snoc]
  presenceCount := by
    rw [advance.presenceCount, tracks.presenceCount, card_present_snoc]
    have same (identity : Identity) :
        (!(round.finding identity).presence) = decide (identity ∉ present history) := by
      rw [Bool.eq_iff_iff, Bool.not_eq_true', decide_eq_true_eq, ← tracks.presence, Bool.not_eq_true]
    simp only [same]
  keyCount := by
    rw [advance.keyCount, tracks.keyCount, keysAccepted_snoc]

/-- The test that the round makes of its counters. -/
theorem Tracks.isComplete_iff (tracks : Tracks history round) :
    round.isComplete = true ↔ Complete history := by
  have none_open (question : Question) : (∀ id, ¬Open question id history) ↔
      ∀ id, Asked question id history → Answered question id history := by
    simp only [Open, not_and, not_not]
  have batches : round.openBatches.isEmpty = true ↔
      ∀ id, Asked .rosterMatch id history → Answered .rosterMatch id history := by
    rw [← none_open, List.isEmpty_iff, List.eq_nil_iff_forall_not_mem]
    exact forall_congr' fun id => not_congr (tracks.batches id)
  have checks : round.openChecks.isEmpty = true ↔
      ∀ id, Asked .lastActivity id history → Answered .lastActivity id history := by
    rw [← none_open, List.isEmpty_iff, ← List.map_eq_nil_iff, List.eq_nil_iff_forall_not_mem]
    exact forall_congr' fun id => not_congr (tracks.checks id)
  have matched : round.matchedCount = 0 ↔ ∀ identity, ¬Matched identity history := by
    rw [tracks.matchedCount]
    exact forall_congr' fun identity => not_congr (tracks.matched identity)
  simp only [Round.isComplete, Round.rosterComplete, Bool.and_eq_true, Bool.or_eq_true,
    decide_eq_true_eq, tracks.connected, tracks.blocklist, batches, checks, matched,
    tracks.presenceCount, tracks.keyCount]
  constructor
  · rintro ⟨⟨⟨connected, answered⟩, blocklisted⟩, details⟩
    exact ⟨connected, answered, blocklisted, details⟩
  · rintro ⟨connected, answered, blocklisted, details⟩
    exact ⟨⟨⟨connected, answered⟩, blocklisted⟩, details⟩

/-! ## One event -/

theorem Round.step_of_react {event : Event} {reaction : Round × List Event}
    (unfinished : round.phase.isFinished = false) (connected : event ≠ .disconnected)
    (reacts : round.react event = some reaction) :
    round.step event = reaction.1.settle reaction.2 := by
  simp [Round.step, unfinished, connected, reacts]

theorem Round.step_of_ignored {event : Event} (unfinished : round.phase.isFinished = false)
    (connected : event ≠ .disconnected) (ignores : round.react event = none) :
    round.step event = ⟨round, [], none⟩ := by
  simp [Round.step, unfinished, connected, ignores]

theorem Round.published_step {event : Event} {reaction : Round × List Event}
    (unfinished : round.phase.isFinished = false) (connected : event ≠ .disconnected)
    (reacts : round.react event = some reaction) : (round.step event).published = reaction.2 := by
  rw [Round.step_of_react unfinished connected reacts, Round.settle]
  split <;> rfl

theorem Tracks.ignore {event : Event} (tracks : Tracks history round)
    (unfinished : round.phase.isFinished = false) (ignores : round.react event = none) :
    (round.step event).published = [] ∧ Tracks (history ++ [⟨round, event⟩]) round := by
  have silent : (round.step event).published = [] := by
    unfold Round.step
    rw [if_neg (by rw [unfinished]; exact Bool.false_ne_true)]
    split
    · rfl
    · rw [ignores]
  refine ⟨silent, tracks.snoc ?_⟩
  rw [silent]
  exact advance_of_ignored tracks.formed unfinished ignores

theorem Tracks.notice {event : Event} {reaction : Round × List Event} (tracks : Tracks history round)
    (unfinished : round.phase.isFinished = false) (reacts : round.react event = some reaction) :
    (round.step event).published = reaction.2 ∧ Tracks (history ++ [⟨round, event⟩]) reaction.1 := by
  have connected : event ≠ .disconnected := by
    rintro rfl
    cases reacts
  have published := Round.published_step unfinished connected reacts
  refine ⟨published, tracks.snoc ?_⟩
  rw [published]
  exact advance_of_react tracks.formed unfinished reacts

/-- The round is not over, and there is something that it waits for. -/
structure Running (history : List Handled) (round : Round) : Prop where
  tracks : Tracks history round
  unfinished : round.phase.isFinished = false
  waiting : round.isComplete = false

/-- An event that does not end the connection ends the round if nothing is left to wait for. -/
theorem Running.step (running : Running history round) {event : Event}
    (connected : event ≠ .disconnected) :
    (Complete (history ++ [⟨round, event⟩]) →
      (round.step event).round.phase = .done ∧
        (round.step event).outcome = some (.completed (round.step event).round.allFindings)) ∧
    (¬Complete (history ++ [⟨round, event⟩]) →
      Running (history ++ [⟨round, event⟩]) (round.step event).round ∧
        (round.step event).outcome = none) := by
  obtain ⟨tracks, unfinished, waiting⟩ := running
  cases reacts : round.react event with
  | none =>
    have tracks := (tracks.ignore unfinished reacts).2
    rw [Round.step_of_ignored unfinished connected reacts, ← tracks.isComplete_iff, waiting]
    exact ⟨(fun eq => nomatch eq), fun _ => ⟨⟨tracks, unfinished, waiting⟩, rfl⟩⟩
  | some reaction =>
    have advance := advance_of_react tracks.formed unfinished reacts
    have tracks := (tracks.notice unfinished reacts).2
    rw [Round.step_of_react unfinished connected reacts, ← tracks.isComplete_iff, Round.settle]
    split
    case isTrue complete => exact ⟨fun _ => ⟨rfl, rfl⟩, fun waiting => absurd complete waiting⟩
    case isFalse waiting =>
      refine ⟨fun complete => absurd complete waiting, fun _ => ⟨⟨tracks, advance.running, ?_⟩, rfl⟩⟩
      exact Bool.eq_false_iff.2 waiting

theorem step_of_finished (finished : round.phase.isFinished = true) (event : Event) :
    round.step event = ⟨round, [], none⟩ := by
  rw [Round.step, if_pos finished]

theorem inert_of_finished (finished : round.phase.isFinished = true) (events : List Event) :
    round.after events = round ∧ published (round.history events) = [] ∧
      outcomes (round.history events) = [] := by
  induction events with
  | nil => exact ⟨rfl, rfl, rfl⟩
  | cons event rest ih =>
    have still := step_of_finished finished event
    obtain ⟨after, silent, untold⟩ := ih
    refine ⟨?_, ?_, ?_⟩
    · rw [Round.after, List.foldl_cons, still]
      exact after
    · rw [Round.history, published, List.flatMap_cons, Handled.progress, still]
      exact silent
    · rw [Round.history, outcomes, List.filterMap_cons, Handled.progress, still]
      exact untold

end

/-! ## Any sequence of events -/

section
variable {round : Round} {events : List Event}

/-- The connection was not lost, and at no time was there nothing left to wait for. -/
structure Undecided (round : Round) (events : List Event) : Prop where
  connected : .disconnected ∉ events
  waiting : ∀ earlier, earlier <+: events → ¬Complete (round.history earlier)

theorem Undecided.of_prefix (undecided : Undecided round events) {earlier : List Event}
    (before : earlier <+: events) : Undecided round earlier where
  connected := fun mem => undecided.connected (before.subset mem)
  waiting := fun first le => undecided.waiting first (le.trans before)

theorem running_of_undecided (start : Running [] round) (undecided : Undecided round events) :
    Running (round.history events) (round.after events) ∧ outcomes (round.history events) = [] := by
  induction events using List.reverseRecOn with
  | nil => exact ⟨start, rfl⟩
  | append_singleton earlier event ih =>
    obtain ⟨running, untold⟩ := ih (undecided.of_prefix (List.prefix_append _ _))
    have connected : event ≠ .disconnected := by
      rintro rfl
      exact undecided.connected (List.mem_append_right _ List.mem_cons_self)
    have waiting := undecided.waiting _ (List.prefix_refl _)
    rw [round.history_snoc] at waiting ⊢
    obtain ⟨running, silent⟩ := (running.step connected).2 waiting
    refine ⟨?_, ?_⟩
    · rw [round.after_append]
      exact running
    · rw [outcomes, List.filterMap_append, ← outcomes, untold]
      simp [Handled.progress, silent]

theorem undecided_nil (round : Round) : Undecided round [] where
  connected := List.not_mem_nil
  waiting := by
    intro earlier before complete
    rw [List.prefix_nil.1 before] at complete
    obtain ⟨handled, mem, -⟩ := complete.connected
    cases mem

/-- There is nothing left to wait for exactly when the round is over. -/
theorem complete_snoc_iff (start : Running [] round) (undecided : Undecided round events)
    {event : Event} (connected : event ≠ .disconnected) :
    Complete (round.history (events ++ [event])) ↔
      (round.after (events ++ [event])).phase.isFinished = true := by
  obtain ⟨complete, waiting⟩ := (running_of_undecided start undecided).1.step connected
  rw [round.history_snoc, round.after_snoc]
  constructor
  · intro all
    rw [(complete all).1]
    rfl
  · intro finished
    by_contra more
    rw [(waiting more).1.unfinished] at finished
    cases finished

theorem Undecided.snoc (start : Running [] round) (undecided : Undecided round events) {event : Event}
    (connected : event ≠ .disconnected)
    (unfinished : (round.after (events ++ [event])).phase.isFinished = false) :
    Undecided round (events ++ [event]) where
  connected := by
    intro mem
    rcases List.mem_append.1 mem with mem | last
    · exact undecided.connected mem
    · exact connected (List.mem_singleton.1 last).symm
  waiting := by
    intro earlier before
    rcases List.prefix_concat_iff.1 before with rfl | before
    · rw [complete_snoc_iff start undecided connected, unfinished]
      exact Bool.false_ne_true
    · exact undecided.waiting earlier before

/-- The round runs until it has handled these first events, and is over from then on: the outcome
is told there, and whatever comes later changes nothing, publishes nothing and tells nothing. -/
structure EndsAt (round : Round) (events first : List Event) (phase : Phase) (outcome : Outcome) :
    Prop where
  unfinished : ∀ earlier, earlier <+: first → earlier ≠ first →
    (round.after earlier).phase.isFinished = false ∧ outcomes (round.history earlier) = []
  phase : (round.after first).phase = phase
  told : outcomes (round.history first) = [outcome]
  after : round.after events = round.after first
  published : published (round.history events) = published (round.history first)
  outcomes : outcomes (round.history events) = [outcome]

theorem endsAt_of_step (start : Running [] round) {first : List Event} {event : Event}
    {phase : Phase} {outcome : Outcome} (before : first ++ [event] <+: events)
    (undecided : Undecided round first)
    (ends : ((round.after first).step event).round.phase = phase) (finished : phase.isFinished = true)
    (told : ((round.after first).step event).outcome = some outcome) :
    EndsAt round events (first ++ [event]) phase outcome := by
  obtain ⟨late, rfl⟩ := before
  obtain ⟨-, untold⟩ := running_of_undecided start undecided
  have after : round.after (first ++ [event]) = ((round.after first).step event).round :=
    round.after_append first [event]
  have outcomes_first : outcomes (round.history (first ++ [event])) = [outcome] := by
    rw [round.history_snoc, outcomes, List.filterMap_append, ← outcomes, untold]
    simp [Handled.progress, told]
  obtain ⟨still, silent, quiet⟩ := inert_of_finished
    (show (round.after (first ++ [event])).phase.isFinished = true by rw [after, ends, finished]) late
  constructor
  case unfinished =>
    intro earlier le ne
    have le : earlier <+: first := (List.prefix_concat_iff.1 le).resolve_left ne
    obtain ⟨running, untold⟩ := running_of_undecided start (undecided.of_prefix le)
    exact ⟨running.unfinished, untold⟩
  case phase => rw [after, ends]
  case told => exact outcomes_first
  case after => rw [round.after_append, still]
  case published =>
    rw [round.history_append, published, List.flatMap_append, ← published, ← published, silent,
      List.append_nil]
  case outcomes =>
    rw [round.history_append, outcomes, List.filterMap_append, ← outcomes, ← outcomes, quiet,
      List.append_nil, outcomes_first]

end

/-- A round ends as done when for the first time there is nothing left to wait for, with the
findings of that moment, or as unavailable when the connection is lost before; otherwise it goes
on.  The outcome is told when it ends, and only then. -/
theorem ends_when_complete (candidates : List Identity) (batchSize : Nat) (first : RequestId)
    (events : List Event) :
    let start := Round.start candidates batchSize first
    (∀ earlier, earlier <+: events → Complete (start.history earlier) →
      (∀ shorter, shorter <+: earlier → shorter ≠ earlier → ¬Complete (start.history shorter)) →
      .disconnected ∉ earlier →
        EndsAt start events earlier .done (.completed (start.after earlier).allFindings)) ∧
    (∀ earlier, earlier ++ [.disconnected] <+: events → Undecided start earlier →
      EndsAt start events (earlier ++ [.disconnected]) .unavailable .unavailable) ∧
    (Undecided start events →
      (start.after events).phase.isFinished = false ∧ outcomes (start.history events) = []) := by
  intro start
  have running : Running [] start := ⟨tracks_start candidates batchSize first, rfl, rfl⟩
  refine ⟨fun earlier before complete shortest connected => ?_, fun earlier before undecided => ?_,
    fun undecided => ?_⟩
  · rcases List.eq_nil_or_concat earlier with rfl | ⟨past, event, rfl⟩
    · obtain ⟨handled, mem, -⟩ := complete.connected
      cases mem
    · rw [List.concat_eq_append] at *
      have undecided : Undecided start past := by
        refine ⟨fun mem => connected (List.mem_append_left _ mem), fun shorter le => ?_⟩
        refine shortest shorter (le.trans (List.prefix_append _ _)) fun eq => ?_
        have length := le.length_le
        rw [eq, List.length_append, List.length_singleton] at length
        omega
      have here : event ≠ .disconnected := by
        rintro rfl
        exact connected (List.mem_append_right _ List.mem_cons_self)
      rw [start.history_snoc] at complete
      obtain ⟨done, told⟩ := ((running_of_undecided running undecided).1.step here).1 complete
      rw [start.after_append]
      exact endsAt_of_step running before undecided done rfl told
  · have unfinished := (running_of_undecided running undecided).1.unfinished
    have abandoned : (start.after earlier).step .disconnected = (start.after earlier).abandon := by
      simp [Round.step, unfinished]
    exact endsAt_of_step running before undecided (by rw [abandoned]; rfl) rfl (by rw [abandoned]; rfl)
  · obtain ⟨running, untold⟩ := running_of_undecided running undecided
    exact ⟨running.unfinished, untold⟩

/-- A round that is answered in full is done, and the loss of the connection after that is nothing to
it.  One that comes before anything else ends the round, and no connection starts it again. -/
theorem ends_when_complete_lost :
    let start := Round.start [⟨"a@x"⟩] 1 ⟨0⟩
    let answered : List Event := [.connected, .rosterMatch ⟨3⟩ [⟨"a@x"⟩], .blocklist ⟨2⟩ []]
    EndsAt start (answered ++ [.disconnected]) answered .done
      (.completed [{ identity := ⟨"a@x"⟩, matched := true }]) ∧
    EndsAt start [.disconnected, .connected] [.disconnected] .unavailable .unavailable := by
  intro start answered
  have running : Running [] start := ⟨tracks_start [⟨"a@x"⟩] 1 ⟨0⟩, rfl, rfl⟩
  have connected : Undecided start [.connected] :=
    (undecided_nil start).snoc running nofun (by decide +kernel)
  have matched : Undecided start [.connected, .rosterMatch ⟨3⟩ [⟨"a@x"⟩]] :=
    connected.snoc running nofun (by decide +kernel)
  have findings : (start.after answered).allFindings =
      [{ identity := ⟨"a@x"⟩, matched := true }] := by decide +kernel
  have complete :
      Complete (start.history ([.connected, .rosterMatch ⟨3⟩ [⟨"a@x"⟩]] ++ [.blocklist ⟨2⟩ []])) := by
    refine (complete_snoc_iff running matched ?_).2 ?_
    · exact nofun
    · decide +kernel
  rw [← findings]
  refine ⟨(ends_when_complete [⟨"a@x"⟩] 1 ⟨0⟩ (answered ++ [.disconnected])).1 answered
    (List.prefix_append _ _) complete ?_ ?_, ?_⟩
  · intro shorter before ne
    exact matched.waiting shorter ((List.prefix_concat_iff.1 before).resolve_left ne)
  · simp [answered]
  · exact (ends_when_complete [⟨"a@x"⟩] 1 ⟨0⟩ [.disconnected, .connected]).2.1 [] ⟨[.connected], rfl⟩
      (undecided_nil start)

end Messenger.Discovery

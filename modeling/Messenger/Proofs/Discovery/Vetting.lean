/-
# Who is looked up, and who is given up

Whether a person is looked up is decided at their first presence, and nobody is matched any more when
presences are accepted.  So of the people in a round

    matched                          never looked up, never given up
    looked up                        once, and present
    given up (`discarded`)           once, when the first answer to their look-up says that the
                                     server does not know them

whatever comes in whatever order (`given_up_after_look_up`).  The parts of the invariant `Vetted` lean
on each other: `MatchesFirst` keeps those who are looked up unmatched, `LooksUp` makes an answer find
the one person about whom it was asked, and so `GivesUp` meets nobody twice.
-/
import Messenger.Proofs.Discovery.LookUps

namespace Messenger.Discovery

/-! ## Matching comes first -/

section
variable {round next : Round} {requests : List Event}

theorem Turn.late (turn : Turn round requests next) (details : round.phase = .awaitingDetails) :
    next.phase = .awaitingDetails := by
  cases turn with
  | stays same => rw [same.phase, details]
  | gathers early => exact absurd details early

theorem Turn.closed (turn : Turn round requests next)
    (closed : round.phase = .awaitingDetails → round.openBatches = [])
    (details : next.phase = .awaitingDetails) : next.openBatches = [] := by
  cases turn with
  | stays same =>
    rw [same.phase] at details
    rw [same.openBatches, closed details]
  | @gathers _ asked _ phase =>
    rcases asked.afterRoster_cases with ⟨same, -⟩ | ⟨empty, same, -⟩
    · rw [same, phase] at details
      cases details
    · rw [same]
      exact empty

end

/-- Matching is over before the first presence is accepted. -/
structure MatchesFirst (round : Round) : Prop where
  closed : round.phase = .awaitingDetails → round.openBatches = []
  late : ∀ identity, (round.finding identity).presence = true → round.phase = .awaitingDetails

/-- The look-ups of a round are those that were asked for and are not answered; each was asked for
under a name of its own, about a person of its own, who is present and whom nobody matched. -/
structure LooksUp (history : List Handled) (round : Round) : Prop where
  checks : ∀ check, check ∈ round.openChecks ↔
    check ∈ lookUps history ∧ ¬Answered .lastActivity check.1 history
  named : ((lookUps history).map Prod.fst).Nodup
  once : ((lookUps history).map Prod.snd).Nodup
  unmatched : ∀ check ∈ lookUps history,
    (round.finding check.2).presence = true ∧ (round.finding check.2).matched = false

/-- The people who are given up are those whose subscription was ended, each once and after the
answer to their look-up. -/
structure GivesUp (history : List Handled) (round : Round) : Prop where
  unsubscribed : round.unsubscribed = farewells history
  once : (farewells history).Nodup
  answered : ∀ identity ∈ farewells history, ∃ id,
    (id, identity) ∈ lookUps history ∧ Answered .lastActivity id history
  discarded : ∀ identity, (round.finding identity).discarded = true ↔ identity ∈ farewells history

/-- All that holds of the look-ups of a round. -/
structure Vetted (history : List Handled) (round : Round) : Prop where
  keyed : Keyed history round
  counts : round.CountsMatched
  first : MatchesFirst round
  looks_up : LooksUp history round
  gives_up : GivesUp history round

section
variable {history : List Handled} {round next : Round} {event : Event}

theorem Handled.phase_of_present? {handled : Handled} {identity : Identity}
    (accepted : handled.present? = some identity) : handled.before.phase = .awaitingDetails := by
  unfold Handled.present? at accepted
  split at accepted
  · split at accepted
    case isTrue both => exact both.2
    case isFalse => cases accepted
  · cases accepted

theorem MatchesFirst.step {requests : List Event} (first : MatchesFirst round)
    (turn : Turn round requests next) (advance : Advance round event requests next) :
    MatchesFirst next where
  closed := turn.closed first.closed
  late := by
    intro identity present
    refine turn.late ?_
    rcases (advance.present identity).1 present with before | accepted
    · exact first.late identity before
    · exact Handled.phase_of_present? accepted

theorem MatchesFirst.unmatched {requests : List Event} (first : MatchesFirst round)
    (advance : Advance round event requests next) (details : round.phase = .awaitingDetails)
    {identity : Identity} (unmatched : (round.finding identity).matched = false) :
    (next.finding identity).matched = false := by
  refine Bool.eq_false_iff.2 fun matched => ?_
  rcases (advance.matched identity).1 matched with before | ⟨batch, people, -, -, opened⟩
  · rw [unmatched] at before
    cases before
  · rw [first.closed details] at opened
    cases opened

theorem LooksUp.step (looks_up : LooksUp history round) (tracks : Tracks history round)
    (first : MatchesFirst round)
    (advance : Advance round event (round.step event).published next)
    (inquiry : Inquiry round event (round.step event).published next) :
    LooksUp (history ++ [⟨round, event⟩]) next := by
  have asked : lookUps (history ++ [⟨round, event⟩]) =
      lookUps history ++ (round.step event).published.filterMap Event.lookUp? := lookUps_snoc
  -- A question that is put now has a new name, so nothing that happened answers it.
  have unasked : ∀ check ∈ (round.step event).published.filterMap Event.lookUp?,
      ¬Asked .lastActivity check.1 history := by
    intro check mem before
    have lt := tracks.asked_lt before
    rw [(inquiry.of_mem_lookUps mem).1] at lt
    exact Nat.lt_irrefl _ lt
  constructor
  case checks =>
    intro check
    rw [inquiry.mem_openChecks, looks_up.checks, asked, List.mem_append, answered_snoc, not_or,
      not_and]
    constructor
    · rintro (⟨⟨mem, unanswered⟩, silent⟩ | mem)
      · exact ⟨Or.inl mem, unanswered, fun _ => silent⟩
      · have fresh := unasked check mem
        exact ⟨Or.inr mem, fun answered => fresh (asked_of_answered answered),
          fun before => absurd before fresh⟩
    · rintro ⟨mem | mem, unanswered, silent⟩
      · exact Or.inl ⟨⟨mem, unanswered⟩, silent (asked_of_mem_lookUps mem)⟩
      · exact Or.inr mem
  case named =>
    rw [asked, List.map_append, List.nodup_append]
    refine ⟨looks_up.named, ?_, ?_⟩
    · rcases inquiry.lookUps_cases with silent | ⟨check, asks⟩
      · simp [silent]
      · simp [asks]
    · intro id past other now same
      obtain ⟨check, mem, rfl⟩ := List.mem_map.1 now
      obtain ⟨earlier, before, rfl⟩ := List.mem_map.1 past
      exact unasked check mem (same ▸ asked_of_mem_lookUps before)
  case once =>
    rw [asked, List.map_append, List.nodup_append]
    refine ⟨looks_up.once, ?_, ?_⟩
    · rcases inquiry.lookUps_cases with silent | ⟨check, asks⟩
      · simp [silent]
      · simp [asks]
    · intro person past other now same
      obtain ⟨check, mem, rfl⟩ := List.mem_map.1 now
      obtain ⟨earlier, before, rfl⟩ := List.mem_map.1 past
      have present := (looks_up.unmatched earlier before).1
      rw [same, (inquiry.of_mem_lookUps mem).2.2.1] at present
      cases present
  case unmatched =>
    intro check mem
    rw [asked] at mem
    rcases List.mem_append.1 mem with mem | mem
    · obtain ⟨present, unmatched⟩ := looks_up.unmatched check mem
      exact ⟨(advance.present _).2 (Or.inl present),
        first.unmatched advance (first.late _ present) unmatched⟩
    · obtain ⟨-, unmatched, -, accepted⟩ := inquiry.of_mem_lookUps mem
      exact ⟨(advance.present _).2 (Or.inr accepted),
        first.unmatched advance (Handled.phase_of_present? accepted) unmatched⟩

theorem GivesUp.waiting (gives_up : GivesUp history round) (looks_up : LooksUp history round) :
    ∀ check ∈ round.openChecks, check.2 ∉ round.unsubscribed := by
  intro check mem given_up
  obtain ⟨asked, unanswered⟩ := (looks_up.checks check).1 mem
  rw [gives_up.unsubscribed] at given_up
  obtain ⟨id, asked_too, answered⟩ := gives_up.answered _ given_up
  have same := List.inj_on_of_nodup_map looks_up.once asked asked_too rfl
  rw [same] at unanswered
  exact unanswered answered

theorem GivesUp.step (gives_up : GivesUp history round) (looks_up : LooksUp history round)
    (inquiry : Inquiry round event (round.step event).published next) :
    GivesUp (history ++ [⟨round, event⟩]) next := by
  have asked : farewells (history ++ [⟨round, event⟩]) =
      farewells history ++ (round.step event).published.filterMap Event.farewell? := farewells_snoc
  have still : ∀ identity ∈ farewells history, ∃ id,
      (id, identity) ∈ lookUps (history ++ [⟨round, event⟩]) ∧
        Answered .lastActivity id (history ++ [⟨round, event⟩]) := by
    intro identity mem
    obtain ⟨id, looked_up, answered⟩ := gives_up.answered identity mem
    exact ⟨id, lookUps_snoc ▸ List.mem_append_left _ looked_up, answered_snoc.2 (Or.inl answered)⟩
  -- Whose look-up is still open was not given up, so `discard` asks for the end of the subscription.
  rcases inquiry.farewells_cases with
    ⟨silent, unsubscribed, discarded⟩ | ⟨id, identity, person, ends, opened, answers, unsubscribed,
      discarded⟩
  · rw [silent, List.append_nil] at asked
    refine ⟨?_, ?_, ?_, fun identity => ?_⟩
    · rw [unsubscribed, asked, gives_up.unsubscribed]
    · rw [asked]
      exact gives_up.once
    · rw [asked]
      exact still
    · rw [asked, discarded identity, gives_up.discarded]
  · rw [ends] at asked
    have fresh : identity ∉ farewells history :=
      gives_up.unsubscribed ▸ gives_up.waiting looks_up _ opened
    have looked_up := ((looks_up.checks _).1 opened).1
    refine ⟨?_, ?_, fun other mem => ?_, fun other => ?_⟩
    · rw [unsubscribed, asked, gives_up.unsubscribed]
    · rw [asked, List.nodup_append]
      refine ⟨gives_up.once, List.nodup_singleton _, ?_⟩
      intro other before _ mem same
      rw [List.mem_singleton.1 mem] at same
      exact fresh (same ▸ before)
    · rw [asked] at mem
      rcases List.mem_append.1 mem with mem | mem
      · exact still other mem
      · rw [List.mem_singleton.1 mem]
        refine ⟨id, lookUps_snoc ▸ List.mem_append_left _ looked_up, answered_snoc.2 (Or.inr ?_)⟩
        exact ⟨asked_of_mem_lookUps looked_up, person, true, answers⟩
    · rw [asked, discarded, gives_up.discarded, List.mem_append, List.mem_singleton]

end

theorem vetted_start (candidates : List Identity) (batchSize : Nat) (first : RequestId) :
    Vetted [] (Round.start candidates batchSize first) where
  keyed := keyed_start candidates batchSize first
  counts := ⟨∅, rfl, fun _ => iff_of_false (Finset.notMem_empty _) nofun⟩
  first := ⟨nofun, nofun⟩
  looks_up :=
    { checks := fun _ => iff_of_false List.not_mem_nil fun mem => List.not_mem_nil mem.1
      named := List.nodup_nil
      once := List.nodup_nil
      unmatched := List.forall_mem_nil _ }
  gives_up :=
    { unsubscribed := rfl
      once := List.nodup_nil
      answered := List.forall_mem_nil _
      discarded := fun _ => iff_of_false nofun List.not_mem_nil }

theorem vetted_preserved : Preserved Vetted where
  react := by
    intro history round event reaction vetted unfinished connected reacts
    have tracks := vetted.keyed.marks.tracks
    have requests := Round.published_step unfinished connected reacts
    have advance := advance_of_react tracks.formed unfinished reacts
    have turn := turn_of_react tracks.formed unfinished vetted.first.closed reacts
    have inquiry := inquiry_of_react tracks.formed (vetted.gives_up.waiting vetted.looks_up) reacts
    rw [← requests] at inquiry
    exact {
      keyed := keyed_preserved.react vetted.keyed unfinished connected reacts
      counts := countsMatched_of_react tracks.formed vetted.counts reacts
      first := vetted.first.step turn advance
      looks_up := vetted.looks_up.step tracks vetted.first (requests ▸ advance) inquiry
      gives_up := vetted.gives_up.step vetted.looks_up inquiry }
  ignore := by
    intro history round event vetted unfinished connected ignores
    have tracks := vetted.keyed.marks.tracks
    have requests : (round.step event).published = [] := by
      rw [Round.step_of_ignored unfinished connected ignores]
    have advance := advance_of_ignored tracks.formed unfinished ignores
    have inquiry : Inquiry round event (round.step event).published round :=
      requests ▸ inquiry_of_ignored ignores
    exact {
      keyed := keyed_preserved.ignore vetted.keyed unfinished connected ignores
      counts := vetted.counts
      first := vetted.first
      looks_up := vetted.looks_up.step tracks vetted.first (requests ▸ advance) inquiry
      gives_up := vetted.gives_up.step vetted.looks_up inquiry }

section
variable {history : List Handled} {round : Round}

/-- The subscription of a person is ended when the first answer to their look-up comes, and says that
the server does not know them, and the round is not over. -/
theorem Vetted.mem_unsubscribeRequest_step (vetted : Vetted history round)
    (unfinished : round.phase.isFinished = false) (event : Event) (identity : Identity) :
    .unsubscribeRequest identity ∈ (round.step event).published ↔
      ∃ id person, event = .lastActivity id person true ∧
        .lastActivityRequest id identity ∈ published history ∧ ¬Answered .lastActivity id history := by
  have opened (id : RequestId) : (id, identity) ∈ round.openChecks ↔
      .lastActivityRequest id identity ∈ published history ∧ ¬Answered .lastActivity id history := by
    rw [vetted.looks_up.checks, mem_lookUps]
  have named : ∀ check ∈ round.openChecks, ∀ other ∈ round.openChecks,
      check.1 = other.1 → check = other := by
    intro check mem other mem_other same
    exact List.inj_on_of_nodup_map vetted.looks_up.named ((vetted.looks_up.checks check).1 mem).1
      ((vetted.looks_up.checks other).1 mem_other).1 same
  by_cases connected : event = .disconnected
  case pos =>
    have silent : (round.step event).published = [] := by
      simp [Round.step, unfinished, connected, Round.abandon]
    refine iff_of_false (by simp [silent]) ?_
    rintro ⟨id, person, eq, -⟩
    rw [connected] at eq
    cases eq
  case neg =>
    have inquiry : ∃ next, Inquiry round event (round.step event).published next := by
      cases reacts : round.react event with
      | none =>
        have silent : (round.step event).published = [] := by
          rw [Round.step_of_ignored unfinished connected reacts]
        exact ⟨round, silent ▸ inquiry_of_ignored reacts⟩
      | some reaction =>
        rw [Round.published_step unfinished connected reacts]
        exact ⟨_, inquiry_of_react vetted.keyed.marks.tracks.formed
          (vetted.gives_up.waiting vetted.looks_up) reacts⟩
    obtain ⟨next, inquiry⟩ := inquiry
    rw [inquiry.mem_unsubscribeRequest named]
    simp only [opened]

theorem Vetted.matched_step (vetted : Vetted history round)
    (unfinished : round.phase.isFinished = false) (event : Event) {identity : Identity}
    (matched : (round.finding identity).matched = true) :
    ((round.step event).round.finding identity).matched = true := by
  by_cases connected : event = .disconnected
  case pos =>
    have abandoned : round.step event = round.abandon := by
      simp [Round.step, unfinished, connected]
    rw [abandoned]
    exact matched
  case neg =>
    cases reacts : round.react event with
    | none =>
      rw [Round.step_of_ignored unfinished connected reacts]
      exact matched
    | some reaction =>
      have advance := advance_of_react vetted.keyed.marks.tracks.formed unfinished reacts
      have still := (advance.matched identity).2 (Or.inl matched)
      rw [Round.step_of_react unfinished connected reacts, Round.settle]
      split <;> exact still

/-- The counters of a round are as many as the findings that they count, and that of the keys no
fewer. -/
theorem Vetted.counters (vetted : Vetted history round) :
    round.matchedCount = (round.allFindings.filter (·.matched)).length ∧
      round.presenceCount = (round.allFindings.filter (·.presence)).length ∧
      (round.allFindings.filter (·.publicKey.isSome)).length ≤ round.keyCount := by
  have tracks := vetted.keyed.marks.tracks
  refine ⟨?_, ?_, ?_⟩
  · obtain ⟨people, card, mem⟩ := vetted.counts
    rw [card, Round.length_filter_findings tracks.formed (fun _ => rfl) mem]
  · rw [tracks.presenceCount, Round.length_filter_findings tracks.formed (fun _ => rfl)
      fun identity => (tracks.presence identity).symm]
  · have keys : ∀ identity, identity ∈ Discovery.keyed history ↔
        (round.finding identity).publicKey.isSome = true := by
      intro identity
      rw [vetted.keyed.publicKey, lastKey_isSome]
    rw [tracks.keyCount, Round.length_filter_findings tracks.formed (fun _ => rfl) keys]
    exact List.toFinset_card_le _

end

theorem matched_of_before {start : Round} (begins : Vetted [] start) (earlier later : List Event)
    {identity : Identity} (matched : ((start.after earlier).finding identity).matched = true) :
    ((start.after (earlier ++ later)).finding identity).matched = true := by
  induction later using List.reverseRecOn with
  | nil => rwa [List.append_nil]
  | append_singleton rest event ih =>
    rw [← List.append_assoc, start.after_append]
    change (((start.after (earlier ++ rest)).step event).round.finding identity).matched = true
    cases state : (start.after (earlier ++ rest)).phase.isFinished with
    | true => rwa [step_of_finished state]
    | false =>
      have vetted := vetted_preserved.of_unfinished begins (earlier ++ rest) state
      exact vetted.matched_step state event ih

/-- Nobody who is matched at any time is ever looked up or given up.  Everybody is looked up at most
once, and given up at most once: when the first answer to their look-up comes, if it says that the
server does not know them.  The counters count what is noted. -/
theorem given_up_after_look_up (candidates : List Identity) (batchSize : Nat) (first : RequestId)
    (events : List Event) :
    let start := Round.start candidates batchSize first
    let round := start.after events
    let history := start.history events
    let requests := published history
    (∀ earlier later identity, events = earlier ++ later →
      ((start.after earlier).finding identity).matched = true →
        (round.finding identity).discarded = false ∧
          (∀ id, .lastActivityRequest id identity ∉ requests) ∧
          .unsubscribeRequest identity ∉ requests) ∧
    ((requests.filterMap Event.lookUp?).map Prod.snd).Nodup ∧
    (requests.filterMap Event.farewell?).Nodup ∧
    (∀ identity,
      (round.finding identity).discarded = true ↔ .unsubscribeRequest identity ∈ requests) ∧
    (∀ event identity, .unsubscribeRequest identity ∈ (round.step event).published ↔
      round.phase.isFinished = false ∧ ∃ id person, event = .lastActivity id person true ∧
        .lastActivityRequest id identity ∈ requests ∧ ¬Answered .lastActivity id history) ∧
    round.matchedCount = (round.allFindings.filter (·.matched)).length ∧
    round.presenceCount = (round.allFindings.filter (·.presence)).length ∧
    (round.allFindings.filter (·.publicKey.isSome)).length ≤ round.keyCount := by
  intro start round history requests
  have begins := vetted_start candidates batchSize first
  obtain ⟨past, last, phase, vetted, same_requests, same_round⟩ :=
    vetted_preserved.reached begins events
  have same_requests : requests = published past := same_requests
  have same_round : round = { last with phase } := same_round
  have noted (identity : Identity) : round.finding identity = last.finding identity := by
    rw [same_round]
    rfl
  have looks_up := vetted.looks_up
  have gives_up := vetted.gives_up
  have ended : ∀ identity ∈ farewells past, (last.finding identity).matched = false := by
    intro identity mem
    obtain ⟨id, looked_up, -⟩ := gives_up.answered identity mem
    exact (looks_up.unmatched _ looked_up).2
  refine ⟨fun earlier later identity eq matched => ?_, ?_, ?_, fun identity => ?_,
    fun event identity => ?_, ?_⟩
  · have matched : (last.finding identity).matched = true := by
      have still := matched_of_before begins earlier later matched
      rw [← eq] at still
      rwa [← noted]
    have stays : identity ∉ farewells past := by
      intro mem
      rw [ended identity mem] at matched
      cases matched
    refine ⟨?_, fun id asked => ?_, fun asked => ?_⟩
    · rw [noted]
      exact Bool.eq_false_iff.2 fun discarded => stays ((gives_up.discarded identity).1 discarded)
    · have unmatched := (looks_up.unmatched _ (mem_lookUps.2 (same_requests ▸ asked))).2
      rw [matched] at unmatched
      cases unmatched
    · exact stays (mem_farewells.2 (same_requests ▸ asked))
  · rw [same_requests]
    exact looks_up.once
  · rw [same_requests]
    exact gives_up.once
  · rw [noted, gives_up.discarded, mem_farewells, ← same_requests]
  · cases state : round.phase.isFinished with
    | true =>
      rw [step_of_finished state]
      simp
    | false =>
      have now := vetted_preserved.of_unfinished begins events state
      rw [now.mem_unsubscribeRequest_step state, and_iff_right rfl]
  · have counters := vetted.counters
    have same : round.matchedCount = last.matchedCount ∧ round.presenceCount = last.presenceCount ∧
        round.keyCount = last.keyCount ∧ round.allFindings = last.allFindings := by
      rw [same_round]
      exact ⟨rfl, rfl, rfl, rfl⟩
    rwa [← same.1, ← same.2.1, ← same.2.2.1, ← same.2.2.2] at counters

/-- Alice is matched and left alone.  Bob is not, so he is looked up, and given up when the first answer
comes, whomever it names. -/
theorem given_up_after_look_up_bob :
    let start := Round.start [⟨"a@x"⟩] 1 ⟨0⟩
    let earlier : List Event := [.connected, .rosterMatch ⟨3⟩ [⟨"a@x"⟩]]
    let later : List Event := [.presence ⟨⟨0⟩, ⟨"b@x"⟩, none, none, none, true⟩,
      .lastActivity ⟨4⟩ ⟨"a@x"⟩ true, .lastActivity ⟨4⟩ ⟨"b@x"⟩ true]
    let round := start.after (earlier ++ later)
    let requests := published (start.history (earlier ++ later))
    .lastActivityRequest ⟨4⟩ ⟨"b@x"⟩ ∈ requests ∧
      (round.finding ⟨"b@x"⟩).discarded = true ∧
      requests.filterMap Event.farewell? = [⟨"b@x"⟩] ∧
      (round.finding ⟨"a@x"⟩).discarded = false ∧
      (∀ id, .lastActivityRequest id ⟨"a@x"⟩ ∉ requests) ∧
      .unsubscribeRequest ⟨"a@x"⟩ ∉ requests := by
  intro start earlier later round requests
  obtain ⟨spared, -, -, discarded, -⟩ :=
    given_up_after_look_up [⟨"a@x"⟩] 1 ⟨0⟩ (earlier ++ later)
  have matched : ((start.after earlier).finding ⟨"a@x"⟩).matched = true := by decide +kernel
  have gone : .unsubscribeRequest ⟨"b@x"⟩ ∈ requests := by decide +kernel
  have looked_up : .lastActivityRequest ⟨4⟩ ⟨"b@x"⟩ ∈ requests := by decide +kernel
  have farewells : requests.filterMap Event.farewell? = [⟨"b@x"⟩] := by decide +kernel
  exact ⟨looked_up, (discarded _).2 gone, farewells, spared earlier later ⟨"a@x"⟩ rfl matched⟩

end Messenger.Discovery

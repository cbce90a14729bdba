/-
# Answers that belong to no open request have no influence

The bus carries the answers to everybody's requests, and some come twice.  A round takes an answer
only if it belongs to a request of its own that still counts:

    rosterMatch, lastActivity    a batch or a look-up that is open
    presence, publicKey          the request for presences or keys, once it was put
    blocklist                    the round's request, even before it was put, after a connection

Any other is a `Stray`.  It changes nothing, publishes nothing and tells nothing
(`step_of_stray`); in particular it does not end the round, since a round that is not over is never
complete already.  So a round that never gets some of its strays comes to the same states at all other
events (`strays_without_influence`).
-/
import Messenger.Proofs.Discovery.Stages

namespace Messenger.Discovery

/-- The answer belongs to no request of the round that counts: it names none that was put so far, or a
batch or a look-up that was answered already.  The blocklist may come before it is asked for, so it
only has to name the round's own request for it. -/
def Stray (past : List Handled) (handled : Handled) : Prop :=
  match handled.event with
  | .rosterMatch id _ => ¬Open .rosterMatch id past
  | .presence presence => .presenceRequest presence.request ∉ published past
  | .publicKey id _ _ => .publicKeyRequest id ∉ published past
  | .blocklist id _ => ¬(Connected past ∧ id = handled.before.blocklistId)
  | .lastActivity id _ _ => ¬Open .lastActivity id past
  | _ => False

/-! ## One stray -/

section
variable {history : List Handled} {round : Round} {event : Event}

theorem Running.step_of_inert (running : Running history round) (connected : event ≠ .disconnected)
    (inert : round.react event = none ∨ round.react event = some (round, [])) :
    round.step event = ⟨round, [], none⟩ := by
  rcases inert with ignores | reacts
  · exact Round.step_of_ignored running.unfinished connected ignores
  · rw [Round.step_of_react running.unfinished connected reacts, Round.settle, running.waiting]
    rfl

theorem Running.onRosterMatch_stray (running : Running history round) {id : RequestId}
    (closed : ¬Open .rosterMatch id history) (matched : List Identity) :
    round.onRosterMatch id matched = (round, []) := by
  unfold Round.onRosterMatch
  rw [if_neg]
  rwa [List.contains_iff_mem, running.tracks.batches]

theorem Running.onLastActivity_stray (running : Running history round) {id : RequestId}
    (closed : ¬Open .lastActivity id history) (notFound : Bool) :
    round.onLastActivity id notFound = (round, []) := by
  have absent : round.openChecks.lookup id = none := by
    refine List.lookup_eq_none_iff.2 fun check mem => bne_iff_ne.2 ?_
    rintro rfl
    exact closed ((running.tracks.checks _).1 (List.mem_map_of_mem mem))
  rw [Round.onLastActivity, absent]

theorem Staged.onPresence_stray (staged : Staged history round) {presence : Presence}
    (unasked : .presenceRequest presence.request ∉ published history) :
    round.onPresence presence = (round, []) := by
  unfold Round.onPresence
  rw [if_neg]
  simp only [Bool.and_eq_true, decide_eq_true_eq, not_and]
  rintro own details
  exact unasked (own ▸ (staged.asked details).1)

theorem Staged.onPublicKey_stray (staged : Staged history round) {id : RequestId}
    (unasked : .publicKeyRequest id ∉ published history) (identity : Identity) (key : Octets) :
    round.onPublicKey id identity key = round := by
  unfold Round.onPublicKey
  rw [if_neg]
  simp only [Bool.and_eq_true, decide_eq_true_eq, not_and]
  rintro own details
  exact unasked (own ▸ (staged.asked details).2.1)

theorem Running.step_of_stray (running : Running history round) (staged : Staged history round)
    (stray : Stray history ⟨round, event⟩) : round.step event = ⟨round, [], none⟩ := by
  cases event with
  | rosterMatch id matched =>
    refine running.step_of_inert nofun (Or.inr ?_)
    rw [Round.react, running.onRosterMatch_stray stray]
  | presence presence =>
    refine running.step_of_inert nofun (Or.inr ?_)
    rw [Round.react, staged.onPresence_stray stray]
  | publicKey id identity key =>
    refine running.step_of_inert nofun (Or.inr ?_)
    rw [Round.react, staged.onPublicKey_stray stray]
  | blocklist id blocked =>
    refine running.step_of_inert nofun ?_
    rw [Round.react]
    split
    case isTrue => exact Or.inl rfl
    case isFalse started =>
      have foreign : id ≠ round.blocklistId := fun own =>
        stray ⟨running.tracks.connected.1 started, own⟩
      rw [Round.onBlocklist, if_neg foreign]
      exact Or.inr rfl
  | lastActivity id identity notFound =>
    refine running.step_of_inert nofun (Or.inr ?_)
    rw [Round.react, running.onLastActivity_stray stray]
  | _ => exact stray.elim

end

/-! ## Any sequence of events -/

section
variable {start : Round}

/-- A round runs, in the stage that its requests tell, until it is over. -/
theorem running_or_finished (running : Running [] start) (staged : Staged [] start)
    (events : List Event) :
    (Running (start.history events) (start.after events) ∧
        Staged (start.history events) (start.after events)) ∨
      (start.after events).phase.isFinished = true := by
  induction events using List.reverseRecOn with
  | nil => exact Or.inl ⟨running, staged⟩
  | append_singleton earlier event ih =>
    rw [start.history_snoc, start.after_snoc]
    rcases ih with ⟨running, staged⟩ | finished
    case inr => exact Or.inr (by rw [step_of_finished finished, finished])
    case inl =>
      by_cases connected : event = .disconnected
      case pos =>
        have abandoned : (start.after earlier).step event = (start.after earlier).abandon := by
          simp [Round.step, running.unfinished, connected]
        exact Or.inr (by rw [abandoned]; rfl)
      case neg =>
        by_cases complete : Complete (start.history earlier ++ [⟨start.after earlier, event⟩])
        · exact Or.inr (by rw [((running.step connected).1 complete).1]; rfl)
        · have next := ((running.step connected).2 complete).1
          exact Or.inl ⟨next, staged.step running connected next⟩

theorem step_of_stray (running : Running [] start) (staged : Staged [] start) {events : List Event}
    {event : Event} (stray : Stray (start.history events) ⟨start.after events, event⟩) :
    (start.after events).step event = ⟨start.after events, [], none⟩ := by
  rcases running_or_finished running staged events with ⟨running, staged⟩ | finished
  · exact running.step_of_stray staged stray
  · exact step_of_finished finished event

end

/-- What is left of a list without the elements at some places. -/
def without (dropped : Nat → Bool) (items : List α) : List α :=
  (items.zipIdx.filter fun item => !dropped item.2).map Prod.fst

theorem without_snoc (dropped : Nat → Bool) (items : List α) (item : α) :
    without dropped (items ++ [item]) =
      without dropped items ++ if dropped items.length then [] else [item] := by
  unfold without
  rw [List.zipIdx_append, List.filter_append, List.map_append]
  cases h : dropped items.length <;> simp [h]

/-- Whatever strays are left out of the events that a round gets, the others come to the same round one
by one, and so each of them changes, publishes and tells the same; the round is the same in the end,
and all that was published and told is the same. -/
theorem strays_without_influence (candidates : List Identity) (batchSize : Nat) (first : RequestId)
    (events : List Event) (dropped : Nat → Bool) :
    let start := Round.start candidates batchSize first
    (∀ before event after, events = before ++ event :: after → dropped before.length = true →
      Stray (start.history before) ⟨start.after before, event⟩) →
    start.history (without dropped events) = without dropped (start.history events) ∧
      start.after (without dropped events) = start.after events ∧
      published (start.history (without dropped events)) = published (start.history events) ∧
      outcomes (start.history (without dropped events)) = outcomes (start.history events) := by
  intro start strays
  have running : Running [] start := ⟨tracks_start candidates batchSize first, rfl, rfl⟩
  have staged : Staged [] start := staged_start candidates batchSize first
  induction events using List.reverseRecOn with
  | nil => exact ⟨rfl, rfl, rfl, rfl⟩
  | append_singleton earlier event ih =>
    obtain ⟨history, after, requests, told⟩ := ih fun before other rest eq =>
      strays before other (rest ++ [event]) (by simp [eq])
    rw [start.history_snoc, start.after_snoc, published_snoc, outcomes_snoc, without_snoc,
      without_snoc, start.length_history]
    cases drop : dropped earlier.length with
    | true =>
      -- What a stray leaves is what it found, so it can be left out as well.
      have still := step_of_stray running staged (strays earlier event [] rfl drop)
      simp only [Handled.progress, still, if_true, List.append_nil, Option.toList_none]
      exact ⟨history, after, requests, told⟩
    | false =>
      rw [if_neg Bool.false_ne_true, if_neg Bool.false_ne_true, start.history_snoc, start.after_snoc,
        published_snoc, outcomes_snoc, after, requests, told, history]
      exact ⟨rfl, rfl, rfl, rfl⟩

/-- A round is told of a match for somebody else's batch, and its own batch is answered again with
another match; without the two it ends the same, with nobody matched. -/
theorem strays_without_influence_twice :
    let start := Round.start [⟨"a@x"⟩] 1 ⟨0⟩
    let events : List Event := [.connected, .rosterMatch ⟨9⟩ [⟨"b@x"⟩], .rosterMatch ⟨3⟩ [],
      .rosterMatch ⟨3⟩ [⟨"b@x"⟩], .blocklist ⟨2⟩ []]
    let dropped (place : Nat) : Bool := place = 1 || place = 3
    (∀ before event after, events = before ++ event :: after → dropped before.length = true →
      Stray (start.history before) ⟨start.after before, event⟩) ∧
    start.history [.connected, .rosterMatch ⟨3⟩ [], .blocklist ⟨2⟩ []] =
      without dropped (start.history events) ∧
    outcomes (start.history events) = [.completed []] := by
  intro start events dropped
  have strays : ∀ before event after, events = before ++ event :: after →
      dropped before.length = true → Stray (start.history before) ⟨start.after before, event⟩ := by
    intro before event after eq drop
    have place : before.length = 1 ∨ before.length = 3 := by simpa [dropped] using drop
    rcases place with place | place
    · have eq : events.take 1 ++ events.drop 1 = before ++ event :: after := eq
      obtain ⟨rfl, same⟩ := List.append_inj eq place.symm
      cases same
      rintro ⟨⟨request, mem, people, rfl⟩, -⟩
      have own : published (start.history (events.take 1)) =
          [.rosterMatchRequest ⟨3⟩ [⟨"a@x"⟩]] := by decide +kernel
      rw [own] at mem
      simp at mem
    · have eq : events.take 3 ++ events.drop 3 = before ++ event :: after := eq
      obtain ⟨rfl, same⟩ := List.append_inj eq place.symm
      cases same
      rintro ⟨-, unanswered⟩
      have asked : Asked .rosterMatch ⟨3⟩ (start.history (events.take 2)) :=
        ⟨.rosterMatchRequest ⟨3⟩ [⟨"a@x"⟩], by decide +kernel, _, rfl⟩
      exact unanswered ⟨start.history (events.take 2), ⟨start.after (events.take 2), _⟩, [], rfl,
        asked, _, rfl⟩
  obtain ⟨history, -, -, told⟩ := strays_without_influence [⟨"a@x"⟩] 1 ⟨0⟩ events dropped strays
  exact ⟨strays, history, told.symm.trans (by decide +kernel)⟩

end Messenger.Discovery

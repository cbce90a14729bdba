/-
# How far a round has come

A round asks about batches when it starts, and about details once, when the last batch is answered.
While it runs, its phase tells what it has asked and what it waits for:

    awaitingRosterMatch    some batch is open
    awaitingDetails        no batch is open; presences and keys were asked for, and the blocklist
                           unless it was there already

`Turn` is what one event means for this: either the round stays where it is and asks for no details,
or it goes on as `afterRoster` does.
-/
import Messenger.Proofs.Discovery.Completion

namespace Messenger.Discovery

def AsksDetails : Event → Prop
  | .presenceRequest _ | .publicKeyRequest _ | .blocklistRequest _ => True
  | _ => False

namespace Round

/-- The round waits for the same batches in the same phase, under the same names. -/
structure SameStage (round next : Round) : Prop where
  presenceId : next.presenceId = round.presenceId
  keyId : next.keyId = round.keyId
  blocklistId : next.blocklistId = round.blocklistId
  phase : next.phase = round.phase
  openBatches : next.openBatches = round.openBatches
  received : round.blocklistReceived = true → next.blocklistReceived = true

variable {round : Round}

theorem SameStage.refl (round : Round) : round.SameStage round := ⟨rfl, rfl, rfl, rfl, rfl, id⟩

theorem SameStage.trans {middle next : Round} (one : round.SameStage middle)
    (two : middle.SameStage next) : round.SameStage next where
  presenceId := two.presenceId.trans one.presenceId
  keyId := two.keyId.trans one.keyId
  blocklistId := two.blocklistId.trans one.blocklistId
  phase := two.phase.trans one.phase
  openBatches := two.openBatches.trans one.openBatches
  received := fun before => two.received (one.received before)

theorem Annotates.sameStage {next : Round} (annotates : round.Annotates next) :
    round.SameStage next := by
  rw [annotates.same]
  exact ⟨rfl, rfl, rfl, rfl, rfl, id⟩

/-- Some batch is open; or none is, and there is nothing to ask, or there is. -/
theorem afterRoster_split (round : Round) :
    (round.openBatches ≠ [] ∧ round.afterRoster = (round, [])) ∨
    (round.openBatches = [] ∧ (round.matchedCount = 0 ∧ round.blocklistReceived = true) ∧
      round.afterRoster = (round, [])) ∨
    (round.openBatches = [] ∧ ¬(round.matchedCount = 0 ∧ round.blocklistReceived = true) ∧
      round.afterRoster = ({ round with phase := .awaitingDetails },
        [.presenceRequest round.presenceId, .publicKeyRequest round.keyId]
          ++ round.blocklistRequests)) := by
  unfold afterRoster onRosterComplete
  split
  case isFalse opened => exact Or.inl ⟨mt List.isEmpty_iff.2 opened, rfl⟩
  case isTrue closed =>
    have closed := List.isEmpty_iff.1 closed
    split
    case isTrue ended =>
      rw [Bool.and_eq_true, decide_eq_true_eq] at ended
      exact Or.inr (Or.inl ⟨closed, ended, rfl⟩)
    case isFalse further =>
      rw [Bool.and_eq_true, decide_eq_true_eq] at further
      exact Or.inr (Or.inr ⟨closed, further, rfl⟩)

/-- The requests for details are put when nothing is left of the batches, unless that is the end. -/
theorem afterRoster_cases (round : Round) :
    (round.afterRoster = (round, []) ∧
      (round.openBatches = [] → round.matchedCount = 0 ∧ round.blocklistReceived = true)) ∨
    (round.openBatches = [] ∧ round.afterRoster.1 = { round with phase := .awaitingDetails } ∧
      round.afterRoster.2 = [.presenceRequest round.presenceId, .publicKeyRequest round.keyId]
        ++ round.blocklistRequests) := by
  rcases round.afterRoster_split with ⟨opened, eq⟩ | ⟨-, ended, eq⟩ | ⟨closed, -, eq⟩
  · exact Or.inl ⟨eq, fun closed => absurd closed opened⟩
  · exact Or.inl ⟨eq, fun _ => ended⟩
  · exact Or.inr ⟨closed, by rw [eq], by rw [eq]⟩

end Round

/-! ## What one event means -/

/-- What an event means for the stage of a round. -/
inductive Turn (round : Round) : List Event → Round → Prop
  | stays {requests : List Event} {next : Round} (same : round.SameStage next)
      (plain : ∀ request ∈ requests, ¬AsksDetails request) : Turn round requests next
  | gathers {plain : List Event} {asked : Round} (early : round.phase ≠ .awaitingDetails)
      (phase : asked.phase = .awaitingRosterMatch)
      (batches : ∀ request ∈ plain, ¬AsksDetails request) :
      Turn round (plain ++ asked.afterRoster.2) asked.afterRoster.1

section
variable {round : Round}

theorem Turn.silent {next : Round} (same : round.SameStage next) : Turn round [] next :=
  .stays same (List.forall_mem_nil _)

theorem turn_onConnected : Turn round round.onConnected.2 round.onConnected.1 := by
  unfold Round.onConnected
  split
  case isTrue idle =>
    refine .gathers (by rw [idle]; nofun) rfl fun request mem => ?_
    obtain ⟨batch, -, rfl⟩ := List.mem_map.1 mem
    exact id
  case isFalse => exact .silent (.refl round)

theorem turn_onRosterMatch (formed : round.WellFormed) (running : round.phase.isFinished = false)
    (details : round.phase = .awaitingDetails → round.openBatches = []) (batch : RequestId)
    (matched : List Identity) :
    Turn round (round.onRosterMatch batch matched).2 (round.onRosterMatch batch matched).1 := by
  unfold Round.onRosterMatch
  split
  case isTrue listed =>
    have opened : batch ∈ round.openBatches := List.contains_iff_mem.1 listed
    have late : round.phase ≠ .init := fun idle => by simp [formed.idle idle] at opened
    have early : round.phase ≠ .awaitingDetails := fun eq => by simp [details eq] at opened
    have phase : round.phase = .awaitingRosterMatch := by
      revert late early running
      cases round.phase <;> simp [Phase.isFinished]
    have matches' := (Round.matches_noteMatch_all (⟨formed.findings, fun idle => absurd idle late⟩ :
      { round with openBatches := round.openBatches.filter (· ≠ batch) : Round }.WellFormed) matched).same
    refine (.gathers early ?_ (List.forall_mem_nil _) : Turn round ([] ++ _) _)
    rw [matches']
    exact phase
  case isFalse => exact .silent (.refl round)

theorem turn_onPresence (presence : Presence) :
    Turn round (round.onPresence presence).2 (round.onPresence presence).1 := by
  unfold Round.onPresence
  split
  · dsimp only
    split
    · exact .silent ⟨rfl, rfl, rfl, rfl, rfl, id⟩
    · split
      · refine .stays ⟨rfl, rfl, rfl, rfl, rfl, id⟩ fun request mem => ?_
        rw [List.mem_singleton.1 mem]
        exact id
      · exact .silent ⟨rfl, rfl, rfl, rfl, rfl, id⟩
  · exact .silent (.refl round)

theorem turn_onPublicKey (request : RequestId) (identity : Identity) (key : Octets) :
    Turn round [] (round.onPublicKey request identity key) := by
  refine .silent ?_
  unfold Round.onPublicKey
  split
  · split
    · exact ⟨rfl, rfl, rfl, rfl, rfl, id⟩
    · exact .refl round
  · exact .refl round

theorem turn_onBlocklist (formed : round.WellFormed) (request : RequestId)
    (blocked : List Identity) : Turn round [] (round.onBlocklist request blocked) := by
  refine .silent ?_
  unfold Round.onBlocklist
  split
  · have received : round.SameStage { round with blocklistReceived := true } :=
      ⟨rfl, rfl, rfl, rfl, rfl, fun _ => rfl⟩
    have formed : Round.WellFormed { round with blocklistReceived := true } :=
      ⟨formed.findings, formed.idle⟩
    exact received.trans (Round.annotates_noteBlocked_all formed blocked).sameStage
  · exact .refl round

theorem turn_onLastActivity (formed : round.WellFormed) (request : RequestId) (notFound : Bool) :
    Turn round (round.onLastActivity request notFound).2 (round.onLastActivity request notFound).1 := by
  unfold Round.onLastActivity
  split
  · exact .silent (.refl round)
  case h_2 identity _ =>
    have answered : round.SameStage
        { round with openChecks := round.openChecks.filter (·.1 ≠ request) } :=
      ⟨rfl, rfl, rfl, rfl, rfl, id⟩
    have formed : Round.WellFormed
        { round with openChecks := round.openChecks.filter (·.1 ≠ request) } :=
      ⟨formed.findings, formed.idle⟩
    dsimp only
    split
    · refine .stays (answered.trans (Round.annotates_discard formed identity).sameStage) ?_
      unfold Round.discard
      dsimp only
      split
      · exact List.forall_mem_nil _
      · intro request mem
        rw [List.mem_singleton.1 mem]
        exact id
    · exact .silent answered

theorem turn_of_react {event : Event} {reaction : Round × List Event} (formed : round.WellFormed)
    (running : round.phase.isFinished = false)
    (details : round.phase = .awaitingDetails → round.openBatches = [])
    (reacts : round.react event = some reaction) : Turn round reaction.2 reaction.1 := by
  unfold Round.react at reacts
  split at reacts
  case h_1 => cases reacts; exact turn_onConnected
  case h_2 batch matched =>
    cases reacts
    exact turn_onRosterMatch formed running details batch matched
  case h_3 presence => cases reacts; exact turn_onPresence presence
  case h_4 request identity key => cases reacts; exact turn_onPublicKey request identity key
  case h_5 request blocked =>
    split at reacts
    · cases reacts
    · cases reacts
      exact turn_onBlocklist formed request blocked
  case h_6 request identity notFound =>
    cases reacts
    exact turn_onLastActivity formed request notFound
  case h_7 => cases reacts

end

/-! ## A round that runs -/

/-- What the phase of a running round tells. -/
structure Staged (history : List Handled) (round : Round) : Prop where
  batches : round.phase = .awaitingRosterMatch → round.openBatches ≠ []
  details : round.phase = .awaitingDetails → round.openBatches = []
  asked : round.phase = .awaitingDetails →
    .presenceRequest round.presenceId ∈ published history ∧
      .publicKeyRequest round.keyId ∈ published history ∧
      (round.blocklistReceived = true ∨ .blocklistRequest round.blocklistId ∈ published history)
  only : ∀ request ∈ published history, AsksDetails request → round.phase = .awaitingDetails ∧
    (request = .presenceRequest round.presenceId ∨ request = .publicKeyRequest round.keyId ∨
      request = .blocklistRequest round.blocklistId)

section
variable {history : List Handled} {round next : Round}

theorem published_snoc (history : List Handled) (handled : Handled) :
    published (history ++ [handled]) = published history ++ handled.progress.published := by
  simp [published]

theorem Staged.stays (staged : Staged history round) (same : round.SameStage next) {handled : Handled}
    (plain : ∀ request ∈ handled.progress.published, ¬AsksDetails request) :
    Staged (history ++ [handled]) next where
  batches := by
    rw [same.phase, same.openBatches]
    exact staged.batches
  details := by
    rw [same.phase, same.openBatches]
    exact staged.details
  asked := by
    rw [same.phase, same.presenceId, same.keyId, same.blocklistId, published_snoc]
    intro details
    obtain ⟨presences, keys, blocklist⟩ := staged.asked details
    refine ⟨List.mem_append_left _ presences, List.mem_append_left _ keys, ?_⟩
    exact blocklist.imp same.received (List.mem_append_left _)
  only := by
    rw [same.phase, same.presenceId, same.keyId, same.blocklistId, published_snoc]
    intro request mem asks
    rcases List.mem_append.1 mem with mem | mem
    · exact staged.only request mem asks
    · exact absurd asks (plain request mem)

theorem Staged.unasked (staged : Staged history round) (early : round.phase ≠ .awaitingDetails) :
    ∀ request ∈ published history, ¬AsksDetails request :=
  fun request mem asks => early (staged.only request mem asks).1

theorem Staged.of_unasked (phase : next.phase = .awaitingRosterMatch) (opened : next.openBatches ≠ [])
    (unasked : ∀ request ∈ published history, ¬AsksDetails request) : Staged history next where
  batches := fun _ => opened
  details := by
    rw [phase]
    exact nofun
  asked := by
    rw [phase]
    exact nofun
  only := fun request mem asks => absurd asks (unasked request mem)

theorem Staged.of_asked (next : Round) (phase : next.phase = .awaitingDetails)
    (closed : next.openBatches = []) {handled : Handled} {plain : List Event}
    (unasked : ∀ request ∈ published history, ¬AsksDetails request)
    (batches : ∀ request ∈ plain, ¬AsksDetails request)
    (requests : handled.progress.published = plain ++ ([.presenceRequest next.presenceId,
      .publicKeyRequest next.keyId] ++ next.blocklistRequests)) :
    Staged (history ++ [handled]) next where
  batches := by
    rw [phase]
    exact nofun
  details := fun _ => closed
  asked := by
    intro _
    rw [published_snoc, requests]
    refine ⟨by simp, by simp, ?_⟩
    unfold Round.blocklistRequests
    cases received : next.blocklistReceived with
    | true => exact Or.inl rfl
    | false => exact Or.inr (by simp)
  only := by
    intro request mem asks
    refine ⟨phase, ?_⟩
    rw [published_snoc, requests] at mem
    rcases List.mem_append.1 mem with mem | mem
    · exact absurd asks (unasked request mem)
    rcases List.mem_append.1 mem with mem | mem
    · exact absurd asks (batches request mem)
    unfold Round.blocklistRequests at mem
    split at mem
    · exact (show _ ∨ _ by simpa using mem).imp_right Or.inl
    · simpa using mem

/-- A round whose batches may all be answered. -/
theorem Staged.gathers (staged : Staged history round) {asked : Round}
    (early : round.phase ≠ .awaitingDetails) (phase : asked.phase = .awaitingRosterMatch)
    {handled : Handled} {plain : List Event} (batches : ∀ request ∈ plain, ¬AsksDetails request)
    (published_eq : handled.progress.published = plain ++ asked.afterRoster.2)
    (waiting : asked.afterRoster.1.isComplete = false) :
    Staged (history ++ [handled]) asked.afterRoster.1 := by
  rcases asked.afterRoster_cases with ⟨eq, ended⟩ | ⟨closed, eq, requests⟩
  · rw [eq] at published_eq waiting ⊢
    refine .of_unasked phase (fun closed : asked.openBatches = [] => ?_) ?_
    · obtain ⟨nobody, received⟩ := ended closed
      simp [Round.isComplete, Round.rosterComplete, phase, closed, nobody, received] at waiting
    · rw [published_snoc, published_eq, List.append_nil]
      exact List.forall_mem_append.2 ⟨staged.unasked early, batches⟩
  · rw [requests] at published_eq
    rw [eq]
    exact .of_asked { asked with phase := .awaitingDetails } rfl closed (staged.unasked early) batches
      published_eq

end

theorem staged_start (candidates : List Identity) (batchSize : Nat) (first : RequestId) :
    Staged [] (Round.start candidates batchSize first) where
  batches := nofun
  details := nofun
  asked := nofun
  only := nofun

section
variable {history : List Handled} {round : Round}

/-- What an event leaves of a running round, if it still runs. -/
theorem Staged.step (staged : Staged history round) (running : Running history round) {event : Event}
    (connected : event ≠ .disconnected)
    (next : Running (history ++ [⟨round, event⟩]) (round.step event).round) :
    Staged (history ++ [⟨round, event⟩]) (round.step event).round := by
  have unfinished := running.unfinished
  cases reacts : round.react event with
  | none =>
    have step := Round.step_of_ignored unfinished connected reacts
    rw [step]
    refine staged.stays (.refl round) ?_
    rw [Handled.progress, step]
    exact List.forall_mem_nil _
  | some reaction =>
    have step := Round.step_of_react unfinished connected reacts
    have requests := Round.published_step unfinished connected reacts
    have turn := turn_of_react running.tracks.formed unfinished staged.details reacts
    have waiting : reaction.1.isComplete = false := by
      refine Bool.eq_false_iff.2 fun complete => ?_
      have open_still := next.unfinished
      rw [step, Round.settle, if_pos complete] at open_still
      cases open_still
    have same : (round.step event).round = reaction.1 := by
      rw [step, Round.settle, if_neg (by rw [waiting]; exact Bool.false_ne_true)]
    rw [same]
    obtain ⟨after, published⟩ := reaction
    dsimp only at turn waiting requests
    cases turn with
    | stays same plain => exact staged.stays same fun request mem => plain request (requests ▸ mem)
    | gathers early phase batches => exact staged.gathers early phase batches requests waiting

end

section
variable {round : Round} {events : List Event}

theorem running_or_done (start : Running [] round) (connected : .disconnected ∉ events) :
    Running (round.history events) (round.after events) ∨ (round.after events).phase = .done := by
  induction events using List.reverseRecOn with
  | nil => exact Or.inl start
  | append_singleton earlier event ih =>
    have here : event ≠ .disconnected := by
      rintro rfl
      exact connected (List.mem_append_right _ List.mem_cons_self)
    rw [round.history_snoc, round.after_append]
    rcases ih fun mem => connected (List.mem_append_left _ mem) with running | done
    · by_cases complete : Complete (round.history earlier ++ [⟨round.after earlier, event⟩])
      · exact Or.inr ((running.step here).1 complete).1
      · exact Or.inl ((running.step here).2 complete).1
    · refine Or.inr ?_
      show ((round.after earlier).step event).round.phase = .done
      rw [step_of_finished (by rw [done]; rfl), done]

theorem Running.of_prefix (start : Running [] round) (connected : .disconnected ∉ events)
    (running : (round.after events).phase.isFinished = false) {earlier : List Event}
    (before : earlier <+: events) : Running (round.history earlier) (round.after earlier) := by
  obtain ⟨later, rfl⟩ := before
  refine (running_or_done start fun mem => connected (List.mem_append_left _ mem)).resolve_right ?_
  intro done
  have finished : (round.after earlier).phase.isFinished = true := by rw [done]; rfl
  rw [round.after_append, (inert_of_finished finished later).1, finished] at running
  cases running

theorem staged_of_running (start : Running [] round) (staged : Staged [] round)
    (connected : .disconnected ∉ events) (running : (round.after events).phase.isFinished = false) :
    Staged (round.history events) (round.after events) := by
  induction events using List.reverseRecOn with
  | nil => exact staged
  | append_singleton earlier event ih =>
    have before := Running.of_prefix start connected running (List.prefix_append earlier [event])
    have now := Running.of_prefix start connected running (List.prefix_refl _)
    have here : event ≠ .disconnected := by
      rintro rfl
      exact connected (List.mem_append_right _ List.mem_cons_self)
    rw [round.history_snoc, round.after_append] at now ⊢
    exact (ih (fun mem => connected (List.mem_append_left _ mem)) before.unfinished).step before here now

end

end Messenger.Discovery

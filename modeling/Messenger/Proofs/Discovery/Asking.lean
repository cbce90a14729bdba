/-
# What a round asks, and when

Two families of requests belong to one moment each, and nothing that comes before or after makes a round
put them:

    batches    there is a connection for the first time    (`Opens`)
    details    no batch is open any more                    (`Gathers`)

The second moment is reached from two sides, with the answer to the last batch and, if there is nobody
to ask about, with the connection itself.  What is asked then depends on what is there (`Details`):

    no blocklist                        presences, keys, blocklist
    the blocklist, somebody matched     presences, keys
    the blocklist, nobody matched       nothing, and the round is done

A round that runs knows by its phase whether the moment has passed (`Staged`), so it is enough to look
at the two handlers that may bring it (`Turn.gathers`).
-/
import Messenger.Proofs.Discovery.Invariants
import Messenger.Proofs.Discovery.Strays

namespace Messenger

/-- The people about whom a batch asks. -/
def Event.batch? : Event → Option (List Identity)
  | .rosterMatchRequest _ people => some people
  | _ => none

/-- Whether an event asks for details. -/
def Event.isForDetails : Event → Bool
  | .presenceRequest _ | .publicKeyRequest _ | .blocklistRequest _ => true
  | _ => false

namespace Discovery

theorem isForDetails_iff {request : Event} : request.isForDetails = true ↔ AsksDetails request := by
  cases request <;> simp [Event.isForDetails, AsksDetails]

/-! ## Two families of requests -/

/-- The batches that were asked about. -/
def batchesIn (requests : List Event) : List (List Identity) := requests.filterMap Event.batch?

/-- The requests for details. -/
def detailsIn (requests : List Event) : List Event := requests.filter Event.isForDetails

theorem batchesIn_append (one two : List Event) :
    batchesIn (one ++ two) = batchesIn one ++ batchesIn two :=
  List.filterMap_append

theorem detailsIn_append (one two : List Event) :
    detailsIn (one ++ two) = detailsIn one ++ detailsIn two :=
  List.filter_append ..

theorem batchesIn_eq_nil {requests : List Event} (other : ∀ request ∈ requests, request.batch? = none) :
    batchesIn requests = [] :=
  List.filterMap_eq_nil_iff.2 other

theorem detailsIn_eq_nil {requests : List Event} (plain : ∀ request ∈ requests, ¬AsksDetails request) :
    detailsIn requests = [] :=
  List.filter_eq_nil_iff.2 fun request mem asks => plain request mem (isForDetails_iff.1 asks)

/-- Runs of a list, in order and none of them empty; only the last may be shorter than this size. -/
structure CutInto (size : Nat) (items : List α) (runs : List (List α)) : Prop where
  flatten : runs.flatten = items
  bounds : ∀ run ∈ runs, 0 < run.length ∧ run.length ≤ size
  full : ∀ run ∈ runs.dropLast, run.length = size

theorem cutInto_batches (n : Nat) (items : List α) : CutInto (max 1 n) items (batches n items) :=
  ⟨flatten_batches n items, fun _ => length_of_mem_batches, fun _ => length_of_mem_dropLast_batches⟩

/-! ## Two moments -/

/-- There was a connection, and no batch is open. -/
def RosterComplete (history : List Handled) : Prop :=
  Connected history ∧ ∀ id, ¬Open .rosterMatch id history

/-- The round is not over, and there is a connection for the first time. -/
structure Opens (past : List Handled) (handled : Handled) : Prop where
  unfinished : handled.before.phase.isFinished = false
  event : handled.event = .connected
  first : ¬Connected past

/-- The round is not over, and with this event no batch is open any more. -/
structure Gathers (past : List Handled) (handled : Handled) : Prop where
  unfinished : handled.before.phase.isFinished = false
  before : ¬RosterComplete past
  after : RosterComplete (past ++ [handled])

/-- The requests for details that fit what is there when no batch is open any more. -/
inductive Details (start : Round) (past : List Handled) (handled : Handled) : List Event → Prop
  | all (unlisted : ¬Blocklisted past) : Details start past handled
      [.presenceRequest start.presenceId, .publicKeyRequest start.keyId,
        .blocklistRequest start.blocklistId]
  | listed (listed : Blocklisted past)
      (somebody : ∃ identity, Matched identity (past ++ [handled])) : Details start past handled
      [.presenceRequest start.presenceId, .publicKeyRequest start.keyId]
  | nothing (listed : Blocklisted past) (nobody : ∀ identity, ¬Matched identity (past ++ [handled]))
      (done : handled.progress.round.phase = .done) : Details start past handled []

/-- Batches and details are asked about in their moments, as they should be, and only then. -/
structure AsksInTurn (start : Round) (past : List Handled) (handled : Handled) : Prop where
  opened : Opens past handled →
    CutInto (max 1 start.batchSize) start.candidates (batchesIn handled.progress.published) ∧
      (Gathers past handled ↔ start.candidates = [])
  unopened : ¬Opens past handled → batchesIn handled.progress.published = []
  gathered : Gathers past handled → Details start past handled (detailsIn handled.progress.published)
  ungathered : ¬Gathers past handled → detailsIn handled.progress.published = []

theorem Tracks.rosterComplete_iff {history : List Handled} {round : Round}
    (tracks : Tracks history round) : round.rosterComplete = true ↔ RosterComplete history := by
  rw [Round.rosterComplete, Bool.and_eq_true, decide_eq_true_eq, tracks.connected, List.isEmpty_iff,
    List.eq_nil_iff_forall_not_mem]
  exact and_congr_right fun _ => forall_congr' fun id => not_congr (tracks.batches id)

/-! ## What does not change -/

namespace Round

variable {round : Round}

/-- The names under which a round asks for details. -/
def names (round : Round) : RequestId × RequestId × RequestId :=
  (round.presenceId, round.keyId, round.blocklistId)

theorem names_afterRoster (round : Round) : round.afterRoster.1.names = round.names := by
  rcases round.afterRoster_cases with ⟨eq, -⟩ | ⟨-, eq, -⟩
  · rw [eq]
  · rw [eq]
    rfl

theorem names_onRosterMatch (formed : round.WellFormed) (batch : RequestId) (matched : List Identity) :
    (round.onRosterMatch batch matched).1.names = round.names := by
  unfold onRosterMatch
  split
  case isTrue opened =>
    have same := (matches_noteMatch_all (formed.closed opened) matched).same
    rw [names_afterRoster, same]
    rfl
  case isFalse => rfl

theorem names_onBlocklist (formed : round.WellFormed) (request : RequestId) (blocked : List Identity) :
    (round.onBlocklist request blocked).names = round.names := by
  unfold onBlocklist
  split
  · have formed : WellFormed { round with blocklistReceived := true } := ⟨formed.findings, formed.idle⟩
    rw [(annotates_noteBlocked_all formed blocked).same]
    rfl
  · rfl

theorem names_onLastActivity (formed : round.WellFormed) (request : RequestId) (notFound : Bool) :
    (round.onLastActivity request notFound).1.names = round.names := by
  unfold onLastActivity
  split
  · rfl
  case h_2 identity _ =>
    have formed : WellFormed { round with openChecks := round.openChecks.filter (·.1 ≠ request) } :=
      ⟨formed.findings, formed.idle⟩
    dsimp only
    split
    · rw [(annotates_discard formed identity).same]
      rfl
    · rfl

theorem names_of_react {event : Event} {reaction : Round × List Event} (formed : round.WellFormed)
    (reacts : round.react event = some reaction) : reaction.1.names = round.names := by
  unfold react at reacts
  split at reacts
  case h_1 =>
    cases reacts
    unfold onConnected
    split
    · exact names_afterRoster _
    · rfl
  case h_2 batch matched => cases reacts; exact names_onRosterMatch formed batch matched
  case h_3 presence =>
    cases reacts
    unfold onPresence
    split
    · dsimp only
      split
      · rfl
      · split <;> rfl
    · rfl
  case h_4 request identity key =>
    cases reacts
    unfold onPublicKey
    split
    · split <;> rfl
    · rfl
  case h_5 request blocked =>
    split at reacts
    · cases reacts
    · cases reacts
      exact names_onBlocklist formed request blocked
  case h_6 request identity notFound => cases reacts; exact names_onLastActivity formed request notFound
  case h_7 => cases reacts

theorem react_start {candidates : List Identity} {batchSize : Nat} {first : RequestId} {event : Event}
    {reaction : Round × List Event} (unconnected : event ≠ .connected)
    (reacts : (start candidates batchSize first).react event = some reaction) :
    reaction.1 = start candidates batchSize first := by
  cases event with
  | connected => exact absurd rfl unconnected
  | rosterMatch | lastActivity => cases reacts; rfl
  | presence =>
    cases reacts
    simp [onPresence, start]
  | publicKey =>
    cases reacts
    simp [onPublicKey, start]
  | _ => cases reacts

/-- A round with the names of another; as long as there was no connection it is the same. -/
structure Began (start round : Round) : Prop where
  formed : round.WellFormed
  names : round.names = start.names
  idle : round.phase = .init → round = start

end Round

theorem preserved_began (candidates : List Identity) (batchSize : Nat) (first : RequestId) :
    Preserved fun _ round => (Round.start candidates batchSize first).Began round where
  react := by
    intro history round event reaction began unfinished _ reacts
    have advance := advance_of_react began.formed unfinished reacts
    refine ⟨advance.formed, (Round.names_of_react began.formed reacts).trans began.names, fun idle => ?_⟩
    have before : ¬(round.phase ≠ .init ∨ event = .connected) := fun started =>
      advance.phase.2 started idle
    obtain ⟨still, unconnected⟩ := not_or.1 before
    rw [began.idle (not_not.1 still)] at reacts
    exact Round.react_start unconnected reacts
  ignore := fun began _ _ _ => began

/-! ## Batches -/

section
variable {round : Round}

theorem batchesIn_afterRoster (round : Round) : batchesIn round.afterRoster.2 = [] := by
  refine batchesIn_eq_nil fun request mem => ?_
  rcases mem_afterRoster mem with rfl | rfl | rfl <;> rfl

theorem batchesIn_batchRequests (first : RequestId) (runs : List (List Identity)) :
    batchesIn ((Round.nameBatches first runs).map Round.batchRequest) = runs := by
  induction runs generalizing first with
  | nil => rfl
  | cons run rest ih => exact congrArg (run :: ·) (ih _)

theorem batchesIn_onConnected (idle : round.phase = .init) :
    batchesIn round.onConnected.2 = batches round.batchSize round.candidates := by
  rw [Round.onConnected, if_pos idle]
  dsimp only
  rw [batchesIn_append, batchesIn_batchRequests, batchesIn_afterRoster, List.append_nil]

theorem nameBatches_eq_nil_iff {first : RequestId} {runs : List (List Identity)} :
    Round.nameBatches first runs = [] ↔ runs = [] := by
  cases runs <;> simp [Round.nameBatches]

theorem rosterComplete_afterRoster (asked : Round) (begun : asked.phase ≠ .init) :
    asked.afterRoster.1.rosterComplete = asked.rosterComplete := by
  rcases asked.afterRoster_cases with ⟨eq, -⟩ | ⟨-, eq, -⟩
  · rw [eq]
  · rw [eq]
    simp [Round.rosterComplete, begun]

theorem rosterComplete_onConnected (idle : round.phase = .init) :
    round.onConnected.1.rosterComplete = true ↔ round.candidates = [] := by
  rw [Round.onConnected, if_pos idle]
  dsimp only
  rw [rosterComplete_afterRoster, Round.rosterComplete, Bool.and_eq_true, List.isEmpty_iff,
    List.map_eq_nil_iff, nameBatches_eq_nil_iff, batches_eq_nil_iff]
  · exact and_iff_right rfl
  · simp

theorem batchesIn_of_react {event : Event} {reaction : Round × List Event}
    (late : event = .connected → round.phase ≠ .init) (reacts : round.react event = some reaction) :
    batchesIn reaction.2 = [] := by
  unfold Round.react at reacts
  split at reacts
  case h_1 =>
    cases reacts
    rw [Round.onConnected, if_neg (late rfl)]
    rfl
  case h_2 batch matched =>
    cases reacts
    unfold Round.onRosterMatch
    split
    · exact batchesIn_afterRoster _
    · rfl
  case h_3 presence =>
    cases reacts
    unfold Round.onPresence
    split
    · dsimp only
      split
      · rfl
      · split <;> rfl
    · rfl
  case h_4 => cases reacts; rfl
  case h_5 =>
    split at reacts
    · cases reacts
    · cases reacts
      rfl
  case h_6 request identity notFound =>
    cases reacts
    unfold Round.onLastActivity
    split
    · rfl
    · dsimp only
      split
      · unfold Round.discard
        dsimp only
        split <;> rfl
      · rfl
  case h_7 => cases reacts

end

/-! ## One event -/

section
variable {start round : Round} {history : List Handled} {event : Event}

/-- A round that does not wait for details yet waits for a batch, or for a connection. -/
theorem Staged.rosterComplete (staged : Staged history round) (early : round.phase ≠ .awaitingDetails)
    (unfinished : round.phase.isFinished = false) : round.rosterComplete = false := by
  cases phase : round.phase with
  | init => simp [Round.rosterComplete, phase]
  | awaitingRosterMatch => simp [Round.rosterComplete, staged.batches phase]
  | awaitingDetails => exact absurd phase early
  | done | unavailable => rw [phase] at unfinished; cases unfinished

theorem gathers_iff {next : Round} (before : Tracks history round)
    (after : Tracks (history ++ [⟨round, event⟩]) next) (unfinished : round.phase.isFinished = false) :
    Gathers history ⟨round, event⟩ ↔ round.rosterComplete = false ∧ next.rosterComplete = true := by
  rw [← Bool.not_eq_true, before.rosterComplete_iff, after.rosterComplete_iff]
  exact ⟨fun gathers => ⟨gathers.before, gathers.after⟩, fun ⟨one, two⟩ => ⟨unfinished, one, two⟩⟩

theorem Gathers.blocklisted {handled : Handled} (gathers : Gathers history handled) :
    Blocklisted (history ++ [handled]) ↔ Blocklisted history := by
  rw [blocklisted_snoc]
  refine or_iff_left ?_
  rintro ⟨connected, blocked, here⟩
  refine gathers.before ⟨connected, fun id opened => gathers.after.2 id ?_⟩
  refine ⟨asked_snoc.2 (Or.inl opened.1), ?_⟩
  rw [answered_snoc, here]
  rintro (answered | ⟨-, matched, eq⟩)
  · exact opened.2 answered
  · cases eq

/-- What is asked for when the batches may all be answered. -/
theorem details_afterRoster {asked : Round} {plain : List Event} (running : Running history round)
    (staged : Staged history round) (early : round.phase ≠ .awaitingDetails)
    (names : asked.names = start.names) (batches : ∀ request ∈ plain, ¬AsksDetails request)
    (after : Tracks (history ++ [⟨round, event⟩]) asked.afterRoster.1)
    (step : round.step event = asked.afterRoster.1.settle (plain ++ asked.afterRoster.2)) :
    (Gathers history ⟨round, event⟩ →
      Details start history ⟨round, event⟩ (detailsIn (plain ++ asked.afterRoster.2))) ∧
    (¬Gathers history ⟨round, event⟩ → detailsIn (plain ++ asked.afterRoster.2) = []) := by
  have moment := gathers_iff running.tracks after running.unfinished
  have incomplete := staged.rosterComplete early running.unfinished
  rw [detailsIn_append, detailsIn_eq_nil batches, List.nil_append]
  rcases asked.afterRoster_split with
    ⟨opened, eq⟩ | ⟨closed, ⟨nobody, received⟩, eq⟩ | ⟨closed, further, eq⟩
  · -- A batch is still open.
    rw [eq] at after moment ⊢
    refine ⟨fun gathers => absurd (moment.1 gathers).2 ?_, fun _ => rfl⟩
    simp [Round.rosterComplete, opened]
  · -- Nothing is left to ask, and the round is done.
    rw [eq] at after moment step ⊢
    refine ⟨fun gathers => ?_, fun _ => rfl⟩
    refine .nothing (gathers.blocklisted.1 (after.blocklist.1 received)) (fun identity => ?_) ?_
    · exact mt (after.matched identity).2 (after.matchedCount.1 nobody identity)
    · have complete : asked.isComplete = true := by
        simp [Round.isComplete, (moment.1 gathers).2, received, nobody]
      show (round.step event).round.phase = .done
      rw [step, Round.settle, if_pos complete]
  · rw [eq] at after moment ⊢
    have gathers : Gathers history ⟨round, event⟩ :=
      moment.2 ⟨incomplete, by simp [Round.rosterComplete, closed]⟩
    refine ⟨fun _ => ?_, fun passed => absurd gathers passed⟩
    obtain ⟨presences, keys, blocklist⟩ : asked.presenceId = start.presenceId ∧
        asked.keyId = start.keyId ∧ asked.blocklistId = start.blocklistId := by
      simpa [Round.names] using names
    rw [Round.blocklistRequests, presences, keys, blocklist]
    cases received : asked.blocklistReceived with
    | false => exact .all (mt gathers.blocklisted.2 (mt after.blocklist.2 (by simp [received])))
    | true =>
      refine .listed (gathers.blocklisted.1 (after.blocklist.1 received)) ?_
      by_contra nobody
      have nobody (identity : Identity) := mt (after.matched identity).1 (not_exists.1 nobody identity)
      exact further ⟨after.matchedCount.2 nobody, received⟩

/-- What a running round asks for with an event of which it takes notice. -/
theorem details_of_react {reaction : Round × List Event} (running : Running history round)
    (staged : Staged history round) (began : start.Began round)
    (reacts : round.react event = some reaction) :
    (Gathers history ⟨round, event⟩ → Details start history ⟨round, event⟩ (detailsIn reaction.2)) ∧
    (¬Gathers history ⟨round, event⟩ → detailsIn reaction.2 = []) := by
  have unfinished := running.unfinished
  have connected : event ≠ .disconnected := by
    rintro rfl
    cases reacts
  have after := (running.tracks.notice unfinished reacts).2
  have step := Round.step_of_react unfinished connected reacts
  have names := (Round.names_of_react began.formed reacts).trans began.names
  have turn := turn_of_react began.formed unfinished staged.details reacts
  obtain ⟨next, requests⟩ := reaction
  dsimp only at after step names turn ⊢
  cases turn with
  | stays same plain =>
    refine ⟨fun gathers => ?_, fun _ => detailsIn_eq_nil plain⟩
    obtain ⟨before, now⟩ := (gathers_iff running.tracks after unfinished).1 gathers
    rw [Round.rosterComplete, same.phase, same.openBatches, ← Round.rosterComplete, before] at now
    cases now
  | gathers early _ batches =>
    rw [Round.names_afterRoster] at names
    exact details_afterRoster running staged early names batches after step

theorem asksInTurn_of_running (running : Running history round) (staged : Staged history round)
    (began : start.Began round) (event : Event) : AsksInTurn start history ⟨round, event⟩ := by
  have unfinished := running.unfinished
  cases reacts : round.react event with
  | none =>
    obtain ⟨silent, after⟩ := running.tracks.ignore unfinished reacts
    constructor
    case opened =>
      intro opens
      have here : event = .connected := opens.event
      rw [here] at reacts
      cases reacts
    case gathered =>
      intro gathers
      obtain ⟨before, now⟩ := (gathers_iff running.tracks after unfinished).1 gathers
      rw [before] at now
      cases now
    all_goals
      intro _
      rw [Handled.progress, silent]
      rfl
  | some reaction =>
    obtain ⟨published, after⟩ := running.tracks.notice unfinished reacts
    have details := details_of_react running staged began reacts
    rw [← published] at details
    refine ⟨fun opens => ?_, fun unopened => ?_, details.1, details.2⟩
    · have here : event = .connected := opens.event
      subst here
      cases reacts
      have idle : round.phase = .init := not_not.1 (mt running.tracks.connected.1 opens.first)
      have incomplete : round.rosterComplete = false := by simp [Round.rosterComplete, idle]
      rw [gathers_iff running.tracks after unfinished, Handled.progress, published,
        batchesIn_onConnected idle, rosterComplete_onConnected idle, began.idle idle]
      exact ⟨cutInto_batches _ _, and_iff_right (began.idle idle ▸ incomplete)⟩
    · rw [Handled.progress, published]
      refine batchesIn_of_react (fun here idle => unopened ⟨unfinished, here, fun connected => ?_⟩) reacts
      exact running.tracks.connected.2 connected idle

theorem asksInTurn_of_finished (finished : round.phase.isFinished = true) (event : Event) :
    AsksInTurn start history ⟨round, event⟩ := by
  have silent : (round.step event).published = [] := by rw [step_of_finished finished]
  constructor
  case opened => exact fun opens => absurd opens.unfinished (by simp [finished])
  case gathered => exact fun gathers => absurd gathers.unfinished (by simp [finished])
  all_goals
    intro _
    rw [Handled.progress, silent]
    rfl

/-- Before the last batch is answered, nothing was asked for. -/
theorem Staged.detailsIn_published (staged : Staged history round) (tracks : Tracks history round)
    (incomplete : ¬RosterComplete history) : detailsIn (published history) = [] := by
  refine detailsIn_eq_nil fun request mem asks => incomplete (tracks.rosterComplete_iff.1 ?_)
  have phase := (staged.only request mem asks).1
  simp [Round.rosterComplete, phase, staged.details phase]

theorem Details.sublist {handled : Handled} {requests : List Event}
    (details : Details start history handled requests) :
    requests.Sublist [.presenceRequest start.presenceId, .publicKeyRequest start.keyId,
      .blocklistRequest start.blocklistId] := by
  cases details with
  | all => exact List.Sublist.refl _
  | listed => exact List.sublist_append_left [_, _] [_]
  | nothing => exact List.nil_sublist _

end

/-! ## Any events -/

/-- In every round, whatever comes in whatever order: batches are asked about when there is a connection
for the first time and the round is not over, and then they are all candidates, cut into runs of the batch
size; details are asked for when no batch is open any more, which is at once if there are no candidates,
and then all that is not there yet, or nothing at all if nobody was matched and the blocklist is there,
which ends the round; and all in all presences, keys and blocklist are asked for at most once, in this
order. -/
theorem asks_in_turn (candidates : List Identity) (batchSize : Nat) (first : RequestId)
    (events : List Event) :
    let start := Round.start candidates batchSize first
    (∀ event, AsksInTurn start (start.history events) ⟨start.after events, event⟩) ∧
    (detailsIn (published (start.history events))).Sublist
      [.presenceRequest start.presenceId, .publicKeyRequest start.keyId,
        .blocklistRequest start.blocklistId] := by
  intro start
  have running : Running [] start := ⟨tracks_start candidates batchSize first, rfl, rfl⟩
  have staged : Staged [] start := staged_start candidates batchSize first
  have began : start.Began start := ⟨.start candidates batchSize first, rfl, fun _ => rfl⟩
  have turns (events : List Event) (event : Event) :
      AsksInTurn start (start.history events) ⟨start.after events, event⟩ := by
    rcases running_or_finished running staged events with ⟨running, staged⟩ | finished
    · have began := (preserved_began candidates batchSize first).of_unfinished began events
        running.unfinished
      exact asksInTurn_of_running running staged began event
    · exact asksInTurn_of_finished finished event
  refine ⟨turns events, ?_⟩
  induction events using List.reverseRecOn with
  | nil => exact List.nil_sublist _
  | append_singleton earlier event ih =>
    rw [start.history_snoc, published_snoc, detailsIn_append]
    by_cases gathers : Gathers (start.history earlier) ⟨start.after earlier, event⟩
    · rcases running_or_finished running staged earlier with ⟨running, staged⟩ | finished
      · rw [staged.detailsIn_published running.tracks gathers.before, List.nil_append]
        exact ((turns earlier event).gathered gathers).sublist
      · exact absurd gathers.unfinished (by simp [finished])
    · rw [(turns earlier event).ungathered gathers, List.append_nil]
      exact ih

/-- The blocklist comes before the answer to the last of two batches. -/
theorem asks_in_turn_listed :
    let start := Round.start [⟨"a@x"⟩, ⟨"b@x"⟩, ⟨"c@x"⟩] 2 ⟨0⟩
    let events : List Event := [.connected, .rosterMatch ⟨3⟩ [], .blocklist ⟨2⟩ []]
    let last : Event := .rosterMatch ⟨4⟩ [⟨"c@x"⟩]
    Opens [] ⟨start, .connected⟩ ∧
    batchesIn (start.step .connected).published = [[⟨"a@x"⟩, ⟨"b@x"⟩], [⟨"c@x"⟩]] ∧
    ((start.after events).step last).published = [.presenceRequest ⟨0⟩, .publicKeyRequest ⟨1⟩] ∧
    Gathers (start.history events) ⟨start.after events, last⟩ := by
  intro start events last
  have requests : ((start.after events).step last).published =
      [.presenceRequest ⟨0⟩, .publicKeyRequest ⟨1⟩] := by decide +kernel
  refine ⟨⟨rfl, rfl, ?_⟩, by decide +kernel, requests, ?_⟩
  · rintro ⟨_, mem, -⟩
    cases mem
  · by_contra passed
    have silent := ((asks_in_turn [⟨"a@x"⟩, ⟨"b@x"⟩, ⟨"c@x"⟩] 2 ⟨0⟩ events).1 last).ungathered passed
    rw [show Handled.progress ⟨start.after events, last⟩ = (start.after events).step last from rfl,
      requests] at silent
    cases silent

end Discovery

end Messenger

/-
# What a round has found, in terms of what was accepted

The items of a round are the fold of the answers that it accepts, and of nothing else.  At any time,
whatever came in whatever order, there is one item for everybody whom

    a roster match named that answered an open batch while the round ran    (`MatchTaken`)
    or an accepted presence was about                                       (`present`)

and the item tells which of the two it was.  The rest of it is what was told last:

    status, timestamp, roster name    by an accepted presence that gave one at all   (`lastGiven`)
    public key                        by an accepted key                             (`lastKey`)

A presence that leaves something out takes nothing away; a key counts only if the item was there
when it came.
-/
import Messenger.Proofs.Discovery.LookUps

namespace Messenger.Discovery

/-! ## What was told -/

/-- The person was named by an answer to an open batch, and the round was not over when it came. -/
def MatchTaken (identity : Identity) : List Handled → Prop :=
  Happened fun past handled => handled.before.phase.isFinished = false ∧
    ∃ batch matched, handled.event = .rosterMatch batch matched ∧ identity ∈ matched ∧
      Open .rosterMatch batch past

/-- The presence of the person, if that is what comes and the round accepts it. -/
def Handled.presence? (identity : Identity) (handled : Handled) : Option Presence :=
  match handled.event with
  | .presence presence => if handled.present? = some identity then some presence else none
  | _ => none

section
variable {α : Type}

/-- What the accepted presences of the person told last. -/
def lastGiven (told : Presence → Option α) (identity : Identity) (history : List Handled) :
    Option α :=
  (history.filterMap fun handled => (handled.presence? identity).bind told).getLast?

variable {told : Presence → Option α} {history lived late : List Handled} {handled : Handled}
  {identity : Identity}

theorem lastGiven_snoc : lastGiven told identity (history ++ [handled]) =
    ((handled.presence? identity).bind told).or (lastGiven told identity history) :=
  getLast?_filterMap_snoc

/-! ## What comes when the round is over -/

theorem Handled.Idle.not_awaiting (idle : handled.Idle) (connected : handled.event ≠ .disconnected) :
    handled.before.phase ≠ .awaitingDetails := by
  intro awaiting
  rcases idle with finished | lost
  · rw [awaiting] at finished
    cases finished
  · exact connected lost

theorem Handled.Idle.present?_eq_none (idle : handled.Idle) : handled.present? = none := by
  unfold Handled.present?
  split
  case h_1 presence event_eq =>
    exact if_neg fun accepts => idle.not_awaiting (by simp [event_eq]) accepts.2
  case h_2 => rfl

theorem Handled.Idle.presence?_eq_none (idle : handled.Idle) : handled.presence? identity = none := by
  unfold Handled.presence?
  rw [idle.present?_eq_none]
  split <;> rfl

theorem Handled.Idle.keyed?_eq_none (idle : handled.Idle) : handled.keyed? = none := by
  unfold Handled.keyed?
  split
  case h_1 event_eq =>
    exact if_neg fun accepts => idle.not_awaiting (by simp [event_eq]) accepts.2.1
  case h_2 => rfl

theorem Handled.Idle.key?_eq_none (idle : handled.Idle) : handled.key? identity = none := by
  unfold Handled.key?
  rw [idle.keyed?_eq_none]
  split <;> rfl

/-- What such events bring nothing of is complete before they come. -/
theorem filterMap_of_idle {brings? : Handled → Option α}
    (nothing : ∀ handled : Handled, handled.Idle → brings? handled = none)
    (idle : ∀ handled ∈ late, handled.Idle) :
    (lived ++ late).filterMap brings? = lived.filterMap brings? := by
  have none : late.filterMap brings? = [] :=
    List.filterMap_eq_nil_iff.2 fun handled mem => nothing handled (idle handled mem)
  rw [List.filterMap_append, none, List.append_nil]

theorem lastGiven_of_idle (idle : ∀ handled ∈ late, handled.Idle) :
    lastGiven told identity (lived ++ late) = lastGiven told identity lived := by
  have nothing (handled : Handled) (idle : handled.Idle) :
      (handled.presence? identity).bind told = none := by
    rw [idle.presence?_eq_none, Option.bind_none]
  exact congrArg List.getLast? (filterMap_of_idle nothing idle)

theorem lastKey_of_idle (idle : ∀ handled ∈ late, handled.Idle) :
    lastKey identity (lived ++ late) = lastKey identity lived :=
  congrArg List.getLast? (filterMap_of_idle (fun _ => Handled.Idle.key?_eq_none) idle)

theorem present_of_idle (idle : ∀ handled ∈ late, handled.Idle) :
    present (lived ++ late) = present lived :=
  congrArg List.toFinset (filterMap_of_idle (fun _ => Handled.Idle.present?_eq_none) idle)

theorem matchTaken_of_idle (awake : ∀ handled ∈ lived, ¬handled.Idle)
    (idle : ∀ handled ∈ late, handled.Idle) :
    MatchTaken identity (lived ++ late) ↔ Matched identity lived := by
  induction late using List.reverseRecOn with
  | nil =>
    rw [List.append_nil]
    constructor
    · rintro ⟨past, handled, future, eq, -, named⟩
      exact ⟨past, handled, future, eq, named⟩
    · rintro ⟨past, handled, future, rfl, named⟩
      have running : handled.before.phase.isFinished = false := Bool.eq_false_iff.2 fun finished =>
        awake handled (List.mem_append_right _ List.mem_cons_self) (Or.inl finished)
      exact ⟨past, handled, future, rfl, running, named⟩
  | append_singleton earlier handled ih =>
    obtain ⟨idle, last⟩ := List.forall_mem_append.1 idle
    rw [← List.append_assoc, MatchTaken, happened_snoc, ← MatchTaken, ih idle, or_iff_left_iff_imp]
    rintro ⟨running, batch, matched, event_eq, -⟩
    rcases List.forall_mem_singleton.1 last with finished | lost
    · rw [running] at finished
      cases finished
    · rw [event_eq] at lost
      cases lost

end

/-! ## What a presence tells -/

section
variable {α : Type} {told : Presence → Option α} {part : Finding → Option α} {round : Round}

/-- All that presences tell of a person. -/
def Finding.news (finding : Finding) : Option String × Option Int × Option String :=
  (finding.status, finding.timestamp, finding.rosterName)

/-- A part of an item that is told by presences only, and stays if a presence does not tell it. -/
structure ToldBy (told : Presence → Option α) (part : Finding → Option α) : Prop where
  updated : ∀ (finding : Finding) (presence : Presence),
    part (finding.updated presence) = (told presence).or (part finding)
  fresh : ∀ identity : Identity, part { identity } = none
  plain : ∀ {one two : Finding}, one.news = two.news → part one = part two

theorem toldBy_status : ToldBy Presence.status Finding.status where
  updated finding presence := by cases told : presence.status <;> simp [Finding.updated, told]
  fresh _ := rfl
  plain same := congrArg (·.1) same

theorem toldBy_timestamp : ToldBy Presence.timestamp Finding.timestamp where
  updated finding presence := by cases told : presence.timestamp <;> simp [Finding.updated, told]
  fresh _ := rfl
  plain same := congrArg (·.2.1) same

theorem toldBy_rosterName : ToldBy Presence.rosterName Finding.rosterName where
  updated finding presence := by cases told : presence.rosterName <;> simp [Finding.updated, told]
  fresh _ := rfl
  plain same := congrArg (·.2.2) same

theorem part_onPresence (toldBy : ToldBy told part) (formed : round.WellFormed) (presence : Presence)
    (identity : Identity) :
    part ((round.onPresence presence).1.finding identity) =
      ((Handled.presence? identity ⟨round, .presence presence⟩).bind told).or
        (part (round.finding identity)) := by
  have own : ((round.finding presence.identity).updated presence).identity = presence.identity :=
    formed.identity_finding _
  have comes : Handled.presence? identity ⟨round, .presence presence⟩ =
      if Handled.present? ⟨round, .presence presence⟩ = some identity then some presence
      else none := rfl
  rw [comes]
  unfold Round.onPresence
  split
  case isTrue accepts =>
    rw [Bool.and_eq_true, decide_eq_true_eq, decide_eq_true_eq] at accepts
    have accepted : Handled.present? ⟨round, .presence presence⟩ = some presence.identity :=
      if_pos accepts
    -- Whichever mark the item gets besides, it is the one noted here.
    have noted (finding : Finding) (about : finding.identity = presence.identity)
        (tells : part finding = part ((round.finding presence.identity).updated presence)) :
        part ((round.note finding).finding identity) =
          ((if some presence.identity = some identity then some presence else none).bind told).or
            (part (round.finding identity)) := by
      rw [round.finding_note, about]
      by_cases same : identity = presence.identity
      · rw [if_pos same, same, if_pos rfl, tells, toldBy.updated, Option.bind_some]
      · rw [if_neg same, if_neg fun eq => same (Option.some.inj eq).symm, Option.bind_none,
          Option.none_or]
    rw [accepted]
    dsimp only
    split
    · exact noted _ own rfl
    · have first := noted { (round.finding presence.identity).updated presence with presence := true }
        own (toldBy.plain rfl)
      split <;> exact first
  case isFalse refuses =>
    have refused : Handled.present? ⟨round, .presence presence⟩ = none := by
      refine if_neg fun accepts => refuses ?_
      rw [Bool.and_eq_true, decide_eq_true_eq, decide_eq_true_eq]
      exact accepts
    rw [refused, if_neg (Option.some_ne_none identity).symm, Option.bind_none, Option.none_or]

/-- What an event of which a round takes notice tells. -/
theorem part_of_react {event : Event} {reaction : Round × List Event} (toldBy : ToldBy told part)
    (formed : round.WellFormed) (reacts : round.react event = some reaction) (identity : Identity) :
    part (reaction.1.finding identity) =
      ((Handled.presence? identity ⟨round, event⟩).bind told).or (part (round.finding identity)) := by
  unfold Round.react at reacts
  split at reacts
  case h_1 => cases reacts; exact round.keeps_onConnected identity
  case h_2 batch matched =>
    cases reacts
    exact Round.keeps_onRosterMatch (fun _ => toldBy.plain rfl) formed batch matched identity
  case h_3 presence =>
    cases reacts
    exact part_onPresence toldBy formed presence identity
  case h_4 request person key =>
    cases reacts
    exact keeps_onPublicKey formed (fun _ _ => toldBy.plain rfl) request person key identity
  case h_5 request blocked =>
    split at reacts
    · cases reacts
    · cases reacts
      exact Round.keeps_onBlocklist (fun _ => toldBy.plain rfl) formed request blocked identity
  case h_6 request person notFound =>
    cases reacts
    exact Round.keeps_onLastActivity (fun _ => toldBy.plain rfl) formed request notFound identity
  case h_7 => cases reacts

/-- A round has of a person what was told last. -/
structure Tells (told : Presence → Option α) (part : Finding → Option α) (history : List Handled)
    (round : Round) : Prop where
  formed : round.WellFormed
  part : ∀ identity, part (round.finding identity) = lastGiven told identity history

theorem tells_start (toldBy : ToldBy told part) (candidates : List Identity) (batchSize : Nat)
    (first : RequestId) : Tells told part [] (Round.start candidates batchSize first) where
  formed := .start candidates batchSize first
  part := toldBy.fresh

theorem tells_preserved (toldBy : ToldBy told part) : Preserved (Tells told part) where
  react := by
    intro history round event reaction tells unfinished connected reacts
    refine ⟨(advance_of_react tells.formed unfinished reacts).formed, fun identity => ?_⟩
    rw [part_of_react toldBy tells.formed reacts, lastGiven_snoc, tells.part]
  ignore := by
    intro history round event tells unfinished connected ignores
    refine ⟨tells.formed, fun identity => ?_⟩
    have plain : Handled.presence? identity ⟨round, event⟩ = none := by
      cases event <;> first | rfl | cases ignores
    rw [lastGiven_snoc, tells.part, plain, Option.bind_none, Option.none_or]

end

/-! ## A whole round -/

/-- The item is what was accepted about its person. -/
structure Recounts (history : List Handled) (finding : Finding) : Prop where
  matched : finding.matched = true ↔ MatchTaken finding.identity history
  presence : finding.presence = true ↔ finding.identity ∈ present history
  status : finding.status = lastGiven Presence.status finding.identity history
  timestamp : finding.timestamp = lastGiven Presence.timestamp finding.identity history
  rosterName : finding.rosterName = lastGiven Presence.rosterName finding.identity history
  publicKey : finding.publicKey = lastKey finding.identity history

/-- At any time a round has one item for everybody whom an answer to an open batch matched while it
ran or whose presence was accepted, and for nobody else, and each item is what was accepted. -/
theorem findings_recount (candidates : List Identity) (batchSize : Nat) (first : RequestId)
    (events : List Event) :
    let start := Round.start candidates batchSize first
    let findings := (start.after events).allFindings
    let history := start.history events
    (findings.map (·.identity)).Nodup ∧
    (∀ identity, identity ∈ findings.map (·.identity) ↔
      MatchTaken identity history ∨ identity ∈ present history) ∧
    ∀ finding ∈ findings, Recounts history finding := by
  intro start findings history
  have begins := keyed_start candidates batchSize first
  have preserved := (((keyed_preserved.and (tells_preserved toldBy_status)).and
    (tells_preserved toldBy_timestamp)).and (tells_preserved toldBy_rosterName)).and Preserved.awake
  obtain ⟨lived, late, last, phase, history_eq, idle, holds, round_eq⟩ := preserved.lived
    ⟨⟨⟨⟨begins, tells_start toldBy_status ..⟩, tells_start toldBy_timestamp ..⟩,
      tells_start toldBy_rosterName ..⟩, List.forall_mem_nil _⟩ events
  obtain ⟨⟨⟨⟨⟨marks, publicKey⟩, status⟩, timestamp⟩, rosterName⟩, awake⟩ := holds
  have findings_eq : findings = last.allFindings :=
    congrArg (fun round => round.findings.values) round_eq
  have history_eq : history = lived ++ late := history_eq
  have keyed := marks.tracks.formed.findings
  have taken (identity : Identity) : MatchTaken identity history ↔
      (last.finding identity).matched = true := by
    rw [history_eq, matchTaken_of_idle awake idle, marks.tracks.matched]
  have came (identity : Identity) : identity ∈ present history ↔
      (last.finding identity).presence = true := by
    rw [history_eq, present_of_idle idle, marks.tracks.presence]
  rw [findings_eq]
  refine ⟨keyed.keys_nodup, fun identity => ?_, fun finding mem => ?_⟩
  · rw [taken, came, ← marks.grounded.has_iff, Table.has_iff, List.mem_map]
    constructor
    · rintro ⟨finding, mem, rfl⟩
      exact ⟨finding, keyed.mem_values_iff.1 mem⟩
    · rintro ⟨finding, found⟩
      exact ⟨finding, Table.mem_values.2 ⟨identity, found⟩, keyed.key_eq found⟩
  · have found := Round.finding_of_get? (keyed.mem_values_iff.1 mem)
    refine ⟨?_, ?_, ?_, ?_, ?_, ?_⟩
    · rw [taken, found]
    · rw [came, found]
    · rw [history_eq, lastGiven_of_idle idle, ← status.part, found]
    · rw [history_eq, lastGiven_of_idle idle, ← timestamp.part, found]
    · rw [history_eq, lastGiven_of_idle idle, ← rosterName.part, found]
    · rw [history_eq, lastKey_of_idle idle, ← publicKey, found]

/-- Alice is matched.  Bob's presence comes twice, the second time without his name, and then his key;
that he is looked up and given up in the end takes nothing from what was told. -/
theorem findings_recount_twice :
    let start := Round.start [⟨"a@x"⟩] 1 ⟨0⟩
    let events : List Event := [.connected, .rosterMatch ⟨3⟩ [⟨"a@x"⟩],
      .presence ⟨⟨0⟩, ⟨"b@x"⟩, some "away", some 7, some "Bob", true⟩,
      .presence ⟨⟨0⟩, ⟨"b@x"⟩, some "back", none, none, true⟩,
      .publicKey ⟨1⟩ ⟨"b@x"⟩ (Octets.ofText "key"), .lastActivity ⟨4⟩ ⟨"b@x"⟩ true]
    let findings := (start.after events).allFindings
    let history := start.history events
    findings.map (·.identity) = [⟨"a@x"⟩, ⟨"b@x"⟩] ∧
      .lastActivityRequest ⟨4⟩ ⟨"b@x"⟩ ∈ published history ∧
      .unsubscribeRequest ⟨"b@x"⟩ ∈ published history ∧
      MatchTaken ⟨"a@x"⟩ history ∧ ¬MatchTaken ⟨"b@x"⟩ history ∧ ⟨"b@x"⟩ ∈ present history ∧
      lastGiven Presence.status ⟨"b@x"⟩ history = some "back" ∧
      lastGiven Presence.timestamp ⟨"b@x"⟩ history = some 7 ∧
      lastGiven Presence.rosterName ⟨"b@x"⟩ history = some "Bob" ∧
      lastKey ⟨"b@x"⟩ history = some (Octets.ofText "key") := by
  intro start events findings history
  obtain ⟨-, -, recounts⟩ := findings_recount [⟨"a@x"⟩] 1 ⟨0⟩ events
  let alice : Finding := { identity := ⟨"a@x"⟩, matched := true }
  let bob : Finding :=
    { identity := ⟨"b@x"⟩, status := some "back", timestamp := some 7, rosterName := some "Bob"
      publicKey := some (Octets.ofText "key"), presence := true, discarded := true }
  have found : findings = [alice, bob] := by decide +kernel
  have ofAlice : Recounts history alice :=
    recounts alice (show alice ∈ findings by rw [found]; exact List.mem_cons_self)
  have ofBob : Recounts history bob :=
    recounts bob (show bob ∈ findings by rw [found]; exact List.mem_cons_of_mem _ List.mem_cons_self)
  have looked_up : .lastActivityRequest ⟨4⟩ ⟨"b@x"⟩ ∈ published history := by decide +kernel
  have gone : .unsubscribeRequest ⟨"b@x"⟩ ∈ published history := by decide +kernel
  refine ⟨congrArg (List.map (·.identity)) found, looked_up, gone, ofAlice.matched.1 rfl,
    fun matched => ?_, ofBob.presence.1 rfl, ofBob.status.symm, ofBob.timestamp.symm,
    ofBob.rosterName.symm, ofBob.publicKey.symm⟩
  exact absurd (ofBob.matched.2 matched) Bool.false_ne_true

end Messenger.Discovery

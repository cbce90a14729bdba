/-
# What one event does to a running round

`Advance round event requests next` tells, without a word about the past, everything that matters
for the end of a round: which questions become open or are answered, who is newly matched or
present, and how far the counters move.  `advance_of_react` shows it of every event that a round
takes notice of.

    connected        opens a question for each batch            (`advance_onConnected`)
    rosterMatch      answers one, may match people              (`advance_onRosterMatch`)
    presence         may count a person, may open a look-up     (`advance_onPresence`)
    publicKey        may count a key                            (`advance_onPublicKey`)
    blocklist        may set the mark                           (`advance_onBlocklist`)
    lastActivity     answers a look-up                          (`advance_onLastActivity`)
-/
import Messenger.Proofs.Discovery.History
import Messenger.Proofs.Table

namespace Messenger.Discovery

namespace Round

/-- Findings stand under the people they are about, and nothing is asked before a connection. -/
structure WellFormed (round : Round) : Prop where
  findings : round.findings.KeyedBy (·.identity)
  idle : round.phase = .init → round.openBatches = []

theorem WellFormed.start (candidates : List Identity) (batchSize : Nat) (first : RequestId) :
    (start candidates batchSize first).WellFormed :=
  ⟨Table.KeyedBy.empty, fun _ => rfl⟩

variable {round : Round}

theorem WellFormed.identity_finding (formed : round.WellFormed) (identity : Identity) :
    (round.finding identity).identity = identity := by
  unfold finding
  cases found : round.findings.get? identity with
  | none => rfl
  | some finding => exact formed.findings.key_eq found

theorem WellFormed.closed (formed : round.WellFormed) {batch : RequestId}
    (opened : round.openBatches.contains batch = true) :
    WellFormed { round with openBatches := round.openBatches.filter (· ≠ batch) } := by
  refine ⟨formed.findings, fun idle => ?_⟩
  have idle : round.phase = .init := idle
  rw [formed.idle idle] at opened
  cases opened

theorem finding_of_get? {identity : Identity} {finding : Finding}
    (found : round.findings.get? identity = some finding) : round.finding identity = finding := by
  rw [Round.finding, found, Option.getD_some]

theorem finding_note (finding : Finding) (identity : Identity) :
    (round.note finding).finding identity =
      if identity = finding.identity then finding else round.finding identity := by
  unfold note Round.finding
  rw [Table.get?_put]
  split <;> rfl

/-- Only what is noted about people has changed, and not who is matched or present. -/
structure Annotates (round next : Round) : Prop where
  same : next = { round with findings := next.findings, unsubscribed := next.unsubscribed }
  formed : next.WellFormed
  matched : ∀ identity, (next.finding identity).matched = (round.finding identity).matched
  presence : ∀ identity, (next.finding identity).presence = (round.finding identity).presence

theorem Annotates.refl (formed : round.WellFormed) : round.Annotates round :=
  ⟨rfl, formed, fun _ => rfl, fun _ => rfl⟩

theorem Annotates.trans {middle next : Round} (first : round.Annotates middle)
    (second : middle.Annotates next) : round.Annotates next where
  same := by
    rw [second.same, first.same]
  formed := second.formed
  matched := fun identity => (second.matched identity).trans (first.matched identity)
  presence := fun identity => (second.presence identity).trans (first.presence identity)

theorem annotates_note (formed : round.WellFormed) {identity : Identity} {finding : Finding}
    (own : finding.identity = identity)
    (matched : finding.matched = (round.finding identity).matched)
    (presence : finding.presence = (round.finding identity).presence) :
    round.Annotates (round.note finding) where
  same := rfl
  formed := ⟨formed.findings.put rfl, formed.idle⟩
  matched := by
    intro other
    rw [finding_note, own]
    split
    case isTrue same => rw [same, matched]
    case isFalse => rfl
  presence := by
    intro other
    rw [finding_note, own]
    split
    case isTrue same => rw [same, presence]
    case isFalse => rfl

theorem annotates_noteBlocked (formed : round.WellFormed) (identity : Identity) :
    round.Annotates (round.noteBlocked identity) := by
  unfold noteBlocked
  cases found : round.findings.get? identity with
  | none => exact .refl formed
  | some finding =>
    have own : finding.identity = identity := formed.findings.key_eq found
    have known : round.finding identity = finding := finding_of_get? found
    exact annotates_note formed own (by rw [known]) (by rw [known])

theorem annotates_noteBlocked_all (formed : round.WellFormed) (blocked : List Identity) :
    round.Annotates (blocked.foldl noteBlocked round) := by
  induction blocked generalizing round with
  | nil => exact .refl formed
  | cons identity rest ih =>
    have first := annotates_noteBlocked formed identity
    exact first.trans (ih first.formed)

theorem annotates_discard (formed : round.WellFormed) (identity : Identity) :
    round.Annotates (round.discard identity).1 := by
  have own := formed.identity_finding identity
  have noted : round.Annotates (round.note { round.finding identity with discarded := true }) :=
    annotates_note formed own rfl rfl
  unfold discard
  dsimp only
  split
  · exact noted
  · exact ⟨rfl, ⟨noted.formed.findings, noted.formed.idle⟩, noted.matched, noted.presence⟩

/-- Who is matched has changed, by these people and no others. -/
structure Matches (round : Round) (people : List Identity) (next : Round) : Prop where
  same : next = { round with findings := next.findings, matchedCount := next.matchedCount }
  formed : next.WellFormed
  matched : ∀ identity, (next.finding identity).matched = true ↔
    (round.finding identity).matched = true ∨ identity ∈ people
  presence : ∀ identity, (next.finding identity).presence = (round.finding identity).presence
  count : (round.matchedCount = 0 ↔ ∀ identity, ¬(round.finding identity).matched = true) →
    (next.matchedCount = 0 ↔ ∀ identity, ¬(next.finding identity).matched = true)

theorem matches_noteMatch (formed : round.WellFormed) (identity : Identity) :
    round.Matches [identity] (round.noteMatch identity) := by
  unfold noteMatch
  dsimp only
  split
  case isTrue before =>
    refine ⟨rfl, formed, fun other => (or_iff_left_of_imp fun mem => ?_).symm, fun _ => rfl, id⟩
    rw [List.mem_singleton.1 mem, before]
  case isFalse new =>
    have own := formed.identity_finding identity
    have known (other : Identity) :
        (round.note { round.finding identity with matched := true }).finding other =
          if other = identity then { round.finding identity with matched := true }
          else round.finding other :=
      (round.finding_note _ other).trans (by rw [own])
    refine ⟨rfl, ⟨formed.findings.put rfl, formed.idle⟩, fun other => ?_, fun other => ?_, fun _ => ?_⟩
    · refine (Bool.eq_iff_iff.1 (congrArg Finding.matched (known other))).trans ?_
      rw [List.mem_singleton]
      split
      case isTrue same => exact ⟨fun _ => Or.inr same, fun _ => rfl⟩
      case isFalse differ => exact (or_iff_left differ).symm
    · refine (congrArg Finding.presence (known other)).trans ?_
      split
      case isTrue same => rw [same]
      case isFalse => rfl
    · refine iff_of_false (Nat.succ_ne_zero _) fun none => none identity ?_
      exact (congrArg Finding.matched (known identity)).trans (by rw [if_pos rfl])

theorem Matches.trans {first second : List Identity} {middle next : Round}
    (one : round.Matches first middle) (two : middle.Matches second next) :
    round.Matches (first ++ second) next where
  same := by
    rw [two.same, one.same]
  formed := two.formed
  matched := by
    intro identity
    rw [two.matched, one.matched, or_assoc, List.mem_append]
  presence := fun identity => (two.presence identity).trans (one.presence identity)
  count := fun count => two.count (one.count count)

theorem matches_noteMatch_all (formed : round.WellFormed) (people : List Identity) :
    round.Matches people (people.foldl noteMatch round) := by
  induction people generalizing round with
  | nil => exact ⟨rfl, formed, fun _ => (or_iff_left List.not_mem_nil).symm, fun _ => rfl, id⟩
  | cons identity rest ih =>
    have first := matches_noteMatch formed identity
    exact first.trans (ih first.formed)

end Round

/-- What an event means for the end of a round. -/
structure Advance (round : Round) (event : Event) (requests : List Event) (next : Round) : Prop where
  formed : next.WellFormed
  running : next.phase.isFinished = false
  phase : next.phase ≠ .init ↔ round.phase ≠ .init ∨ event = .connected
  batches : ∀ id, id ∈ next.openBatches ↔
    (id ∈ round.openBatches ∧ ¬Question.rosterMatch.Answers id event) ∨
      ∃ request ∈ requests, Question.rosterMatch.Asks id request
  checks : ∀ id, id ∈ next.openChecks.map Prod.fst ↔
    (id ∈ round.openChecks.map Prod.fst ∧ ¬Question.lastActivity.Answers id event) ∨
      ∃ request ∈ requests, Question.lastActivity.Asks id request
  nextId : round.nextId.val ≤ next.nextId.val
  fresh : ∀ {question : Question} {id : RequestId} {request : Event}, request ∈ requests →
    question.Asks id request → round.nextId.val ≤ id.val ∧ id.val < next.nextId.val
  blocklist : next.blocklistReceived = true ↔ round.blocklistReceived = true ∨
    round.phase ≠ .init ∧ ∃ blocked, event = .blocklist round.blocklistId blocked
  matched : ∀ identity, (next.finding identity).matched = true ↔
    (round.finding identity).matched = true ∨ ∃ batch matched,
      event = .rosterMatch batch matched ∧ identity ∈ matched ∧ batch ∈ round.openBatches
  matchedCount : (round.matchedCount = 0 ↔ ∀ identity, ¬(round.finding identity).matched = true) →
    (next.matchedCount = 0 ↔ ∀ identity, ¬(next.finding identity).matched = true)
  present : ∀ identity, (next.finding identity).presence = true ↔
    (round.finding identity).presence = true ∨ Handled.present? ⟨round, event⟩ = some identity
  presenceCount : next.presenceCount = round.presenceCount +
    ((Handled.present? ⟨round, event⟩).filter fun identity => !(round.finding identity).presence).toList.length
  keyCount : next.keyCount = round.keyCount + (Handled.keyed? ⟨round, event⟩).toList.length

section
variable {round : Round}

/-- An event that neither starts the round, answers an open question nor brings the blocklist. -/
structure Aside (round : Round) (event : Event) : Prop where
  connected : event = .connected → round.phase ≠ .init
  batches : ∀ id ∈ round.openBatches, ¬Question.rosterMatch.Answers id event
  checks : ∀ id ∈ round.openChecks.map Prod.fst, ¬Question.lastActivity.Answers id event
  blocklist : round.phase ≠ .init → ∀ blocked, event ≠ .blocklist round.blocklistId blocked

/-- Such an event may at most change who is present and how many keys there are. -/
theorem advance_of_details {next : Round} {event : Event} (formed : next.WellFormed)
    (running : round.phase.isFinished = false)
    (same : next = { round with
      findings := next.findings, presenceCount := next.presenceCount, keyCount := next.keyCount })
    (matched : ∀ identity, (next.finding identity).matched = (round.finding identity).matched)
    (aside : Aside round event)
    (present : ∀ identity, (next.finding identity).presence = true ↔
      (round.finding identity).presence = true ∨ Handled.present? ⟨round, event⟩ = some identity)
    (presenceCount : next.presenceCount = round.presenceCount + ((Handled.present? ⟨round, event⟩).filter
      fun identity => !(round.finding identity).presence).toList.length)
    (keyCount : next.keyCount =
      round.keyCount + (Handled.keyed? ⟨round, event⟩).toList.length) :
    Advance round event [] next := by
  have openBatches : next.openBatches = round.openBatches := by rw [same]
  have openChecks : next.openChecks = round.openChecks := by rw [same]
  have phase : next.phase = round.phase := by rw [same]
  have nextId : next.nextId = round.nextId := by rw [same]
  have received : next.blocklistReceived = round.blocklistReceived := by rw [same]
  have matchedCount : next.matchedCount = round.matchedCount := by rw [same]
  constructor
  case formed => exact formed
  case running => rw [phase, running]
  case phase => rw [phase]; exact (or_iff_left_of_imp aside.connected).symm
  case batches => simpa [openBatches] using fun id mem => aside.batches id mem
  case checks => simpa [openChecks] using fun id mem => aside.checks id (List.mem_map.2 mem)
  case nextId => exact Nat.le_of_eq (congrArg _ nextId.symm)
  case fresh => exact fun mem => nomatch mem
  case blocklist =>
    rw [received]
    exact (or_iff_left fun ⟨started, blocked, eq⟩ => aside.blocklist started blocked eq).symm
  case matched =>
    intro identity
    rw [matched]
    refine (or_iff_left_of_imp ?_).symm
    rintro ⟨batch, people, eq, -, mem⟩
    exact absurd ⟨people, eq⟩ (aside.batches batch mem)
  case matchedCount => simp [matchedCount, matched]
  case present => exact present
  case presenceCount => exact presenceCount
  case keyCount => exact keyCount

theorem advance_refl {event : Event} (formed : round.WellFormed)
    (running : round.phase.isFinished = false) (aside : Aside round event)
    (present : Handled.present? ⟨round, event⟩ = none)
    (keyed : Handled.keyed? ⟨round, event⟩ = none) : Advance round event [] round := by
  refine advance_of_details formed running rfl (fun _ => rfl) aside (fun identity => ?_) ?_ ?_
  · simp [present]
  · simp [present]
  · simp [keyed]

namespace Advance

variable {next : Round} {event : Event} {requests : List Event}

theorem annotate {last : Round} (advance : Advance round event requests next)
    (annotates : next.Annotates last) : Advance round event requests last := by
  obtain ⟨same, formed, matched, presence⟩ := annotates
  have openBatches : last.openBatches = next.openBatches := by rw [same]
  have openChecks : last.openChecks = next.openChecks := by rw [same]
  have phase : last.phase = next.phase := by rw [same]
  have nextId : last.nextId = next.nextId := by rw [same]
  have received : last.blocklistReceived = next.blocklistReceived := by rw [same]
  have matchedCount : last.matchedCount = next.matchedCount := by rw [same]
  have presenceCount : last.presenceCount = next.presenceCount := by rw [same]
  have keyCount : last.keyCount = next.keyCount := by rw [same]
  constructor
  case formed => exact formed
  case running => rw [phase, advance.running]
  case phase => rw [phase, advance.phase]
  case batches => rw [openBatches]; exact advance.batches
  case checks => rw [openChecks]; exact advance.checks
  case nextId => rw [nextId]; exact advance.nextId
  case fresh => rw [nextId]; exact advance.fresh
  case blocklist => rw [received, advance.blocklist]
  case matched => intro identity; rw [matched, advance.matched]
  case matchedCount => simpa only [matchedCount, matched] using advance.matchedCount
  case present => intro identity; rw [presence, advance.present]
  case presenceCount => rw [presenceCount, advance.presenceCount]
  case keyCount => rw [keyCount, advance.keyCount]

theorem publish {more : List Event} (advance : Advance round event requests next)
    (plain : ∀ request ∈ more, ∀ question id, ¬Question.Asks question id request) :
    Advance round event (requests ++ more) next := by
  have asks (question : Question) (id : RequestId) :
      (∃ request ∈ requests ++ more, question.Asks id request) ↔
        ∃ request ∈ requests, question.Asks id request := by
    constructor
    · rintro ⟨request, mem, asks⟩
      exact ⟨request, (List.mem_append.1 mem).resolve_right fun mem => plain _ mem _ _ asks, asks⟩
    · rintro ⟨request, mem, asks⟩
      exact ⟨request, List.mem_append_left _ mem, asks⟩
  exact { advance with
    batches := fun id => (advance.batches id).trans (or_congr_right (asks _ _).symm)
    checks := fun id => (advance.checks id).trans (or_congr_right (asks _ _).symm)
    fresh := fun {question id request} mem asks =>
      advance.fresh ((List.mem_append.1 mem).resolve_right fun mem => plain _ mem _ _ asks) asks }

end Advance

/-! ## Keys and presences -/

theorem aside_publicKey (request : RequestId) (identity : Identity) (key : Octets) :
    Aside round (.publicKey request identity key) := by
  constructor <;> simp [Question.Answers]

theorem aside_presence (presence : Presence) : Aside round (.presence presence) := by
  constructor <;> simp [Question.Answers]

theorem advance_onPublicKey (formed : round.WellFormed) (running : round.phase.isFinished = false)
    (request : RequestId) (identity : Identity) (key : Octets) :
    Advance round (.publicKey request identity key) [] (round.onPublicKey request identity key) := by
  have aside : Aside round (.publicKey request identity key) := aside_publicKey request identity key
  unfold Round.onPublicKey
  split
  case isTrue accepted =>
    simp only [Bool.and_eq_true, decide_eq_true_eq] at accepted
    obtain ⟨named, phase⟩ := accepted
    cases found : round.findings.get? identity with
    | none =>
      refine advance_refl formed running aside rfl ?_
      simp [Handled.keyed?, Table.has, found]
    | some finding =>
      have own : finding.identity = identity := formed.findings.key_eq found
      have known : round.finding identity = finding := Round.finding_of_get? found
      have counted : Advance round (.publicKey request identity key) []
          { round with keyCount := round.keyCount + 1 } := by
        refine advance_of_details ⟨formed.findings, formed.idle⟩ running rfl (fun _ => rfl) aside
          (fun other => (or_iff_left fun eq => by cases eq).symm) rfl ?_
        simp [Handled.keyed?, named, phase, Table.has, found]
      refine counted.annotate (Round.annotates_note counted.formed own ?_ ?_)
      · exact show finding.matched = (round.finding identity).matched by rw [known]
      · exact show finding.presence = (round.finding identity).presence by rw [known]
  case isFalse refused =>
    refine advance_refl formed running aside rfl ?_
    simp_all [Handled.keyed?]

theorem Advance.check {next : Round} {event : Event} (advance : Advance round event [] next)
    (identity : Identity) : Advance round event (next.check identity).2 (next.check identity).1 :=
  { advance with
    formed := ⟨advance.formed.findings, advance.formed.idle⟩
    batches := by
      intro id
      simpa [Round.check, Question.Asks] using advance.batches id
    checks := by
      intro id
      have checks := advance.checks id
      simp only [List.not_mem_nil, false_and, exists_false, or_false] at checks
      simp only [Round.check, List.map_append, List.mem_append, checks]
      simp [Question.Asks, eq_comm]
    nextId := Nat.le_succ_of_le advance.nextId
    fresh := by
      intro question id request mem asks
      rw [List.mem_singleton.1 mem] at asks
      cases question with
      | rosterMatch =>
        obtain ⟨people, eq⟩ := asks
        cases eq
      | lastActivity =>
        obtain ⟨person, eq⟩ := asks
        cases eq
        exact ⟨advance.nextId, Nat.lt_succ_self _⟩ }

theorem advance_firstPresence (formed : round.WellFormed) (running : round.phase.isFinished = false)
    {presence : Presence}
    (accepted : Handled.present? ⟨round, .presence presence⟩ = some presence.identity)
    (absent : (round.finding presence.identity).presence = false) :
    Advance round (.presence presence) []
      { round.note { (round.finding presence.identity).updated presence with presence := true }
        with presenceCount := round.presenceCount + 1 } := by
  have own : (round.finding presence.identity).identity = presence.identity :=
    formed.identity_finding _
  have known (other : Identity) := round.finding_note
    { (round.finding presence.identity).updated presence with presence := true } other
  refine advance_of_details ⟨formed.findings.put rfl, formed.idle⟩ running rfl
    (fun other => ?_) (aside_presence presence) (fun other => ?_) ?_ rfl
  · refine (congrArg Finding.matched (known other)).trans ?_
    split
    case isTrue same => rw [same]; exact congrArg (fun i => (round.finding i).matched) own.symm
    case isFalse => rfl
  · refine (Bool.eq_iff_iff.1 (congrArg Finding.presence (known other))).trans ?_
    rw [accepted, Option.some.injEq]
    split
    case isTrue same => exact ⟨fun _ => Or.inr (same.trans own).symm, fun _ => rfl⟩
    case isFalse differ => exact (or_iff_left fun same => differ (same.symm.trans own.symm)).symm
  · simp [accepted, Option.filter, absent]

theorem advance_onPresence (formed : round.WellFormed) (running : round.phase.isFinished = false)
    (presence : Presence) :
    Advance round (.presence presence) (round.onPresence presence).2 (round.onPresence presence).1 := by
  have aside : Aside round (.presence presence) := aside_presence presence
  unfold Round.onPresence
  split
  case isTrue accepted =>
    simp only [Bool.and_eq_true, decide_eq_true_eq] at accepted
    obtain ⟨named, phase⟩ := accepted
    have accepted : Handled.present? ⟨round, .presence presence⟩ = some presence.identity := by
      simp [Handled.present?, named, phase]
    have own : (round.finding presence.identity).identity = presence.identity :=
      formed.identity_finding _
    dsimp only
    split
    case isTrue before =>
      have before : (round.finding presence.identity).presence = true := before
      have counted : Advance round (.presence presence) [] round := by
        refine advance_of_details formed running rfl (fun _ => rfl) aside (fun other => ?_) ?_ rfl
        · rw [accepted]
          refine (or_iff_left_of_imp fun same => ?_).symm
          rw [← Option.some.inj same, before]
        · simp [accepted, Option.filter, before]
      exact counted.annotate (Round.annotates_note formed own rfl rfl)
    case isFalse absent =>
      have absent : (round.finding presence.identity).presence = false := Bool.eq_false_iff.2 absent
      have counted := advance_firstPresence formed running accepted absent
      split
      case isTrue => exact counted.check presence.identity
      case isFalse => exact counted
  case isFalse refused =>
    refine advance_refl formed running aside ?_ rfl
    simp_all [Handled.present?]

/-! ## The blocklist and look-ups -/

theorem advance_onBlocklist (formed : round.WellFormed) (running : round.phase.isFinished = false)
    (started : round.phase ≠ .init) (request : RequestId) (blocked : List Identity) :
    Advance round (.blocklist request blocked) [] (round.onBlocklist request blocked) := by
  unfold Round.onBlocklist
  split
  case isTrue named =>
    have received : Advance round (.blocklist request blocked) []
        { round with blocklistReceived := true } := by
      constructor
      case formed => exact ⟨formed.findings, formed.idle⟩
      all_goals simp [running, started, named, Question.Answers, Handled.present?, Handled.keyed?,
        Round.finding]
    exact received.annotate (Round.annotates_noteBlocked_all received.formed blocked)
  case isFalse unnamed =>
    refine advance_refl formed running ?_ rfl rfl
    constructor <;> simp_all [Question.Answers]

theorem discard_plain (round : Round) (identity : Identity) :
    ∀ request ∈ (round.discard identity).2, ∀ question id, ¬Question.Asks question id request := by
  intro request mem question id asks
  unfold Round.discard at mem
  dsimp only at mem
  split at mem
  · cases mem
  · rw [List.mem_singleton.1 mem] at asks
    cases question <;> simp [Question.Asks] at asks

theorem advance_onLastActivity (formed : round.WellFormed) (running : round.phase.isFinished = false)
    (request : RequestId) (identity : Identity) (notFound : Bool) :
    Advance round (.lastActivity request identity notFound)
      (round.onLastActivity request notFound).2 (round.onLastActivity request notFound).1 := by
  unfold Round.onLastActivity
  cases found : round.openChecks.lookup request with
  | none =>
    refine advance_refl formed running ?_ rfl rfl
    constructor
    case checks =>
      rintro id mem ⟨person, notFound, eq⟩
      cases eq
      obtain ⟨row, listed, rfl⟩ := List.mem_map.1 mem
      simpa using List.lookup_eq_none_iff.1 found row listed
    all_goals simp [Question.Answers]
  | some person =>
    have answered : Advance round (.lastActivity request identity notFound) []
        { round with openChecks := round.openChecks.filter (·.1 ≠ request) } := by
      constructor
      case formed => exact ⟨formed.findings, formed.idle⟩
      case checks =>
        intro id
        simpa [Question.Answers] using fun _ _ => not_congr eq_comm
      all_goals simp [running, Question.Answers, Handled.present?, Handled.keyed?, Round.finding]
    dsimp only
    split
    · exact (answered.annotate (Round.annotates_discard answered.formed person)).publish
        (discard_plain _ person)
    · exact answered

/-! ## Batches -/

/-- Going on to the details asks for presences, keys and perhaps the blocklist. -/
theorem mem_afterRoster {request : Event} (mem : request ∈ round.afterRoster.2) :
    request = .presenceRequest round.presenceId ∨ request = .publicKeyRequest round.keyId ∨
      request = .blocklistRequest round.blocklistId := by
  unfold Round.afterRoster Round.onRosterComplete Round.blocklistRequests at mem
  split at mem
  · split at mem
    · cases mem
    · dsimp only at mem
      split at mem
      · exact (show _ ∨ _ by simpa using mem).imp_right Or.inl
      · simpa using mem
  · cases mem

theorem Advance.afterRoster {next : Round} {event : Event} {requests : List Event}
    (advance : Advance round event requests next) (started : next.phase ≠ .init) :
    Advance round event (requests ++ next.afterRoster.2) next.afterRoster.1 := by
  have plain : ∀ request ∈ next.afterRoster.2, ∀ question id, ¬Question.Asks question id request := by
    intro request mem question id asks
    rcases mem_afterRoster mem with rfl | rfl | rfl <;> cases question <;> simp [Question.Asks] at asks
  refine Advance.publish ?_ plain
  unfold Round.afterRoster Round.onRosterComplete
  split
  · split
    · exact advance
    · exact { advance with
        formed := ⟨advance.formed.findings, fun eq => nomatch eq⟩
        running := rfl
        phase := by
          rw [← advance.phase]
          simp [started] }
  · exact advance

theorem mem_nameBatches (first : RequestId) (batches : List (List Identity)) (id : RequestId) :
    id ∈ (Round.nameBatches first batches).map Prod.fst →
      first.val ≤ id.val ∧ id.val < first.val + (Round.nameBatches first batches).length := by
  induction batches generalizing first with
  | nil => exact fun mem => nomatch mem
  | cons batch rest ih =>
    intro mem
    simp only [Round.nameBatches, List.map_cons, List.mem_cons, List.length_cons] at mem ⊢
    rcases mem with rfl | mem
    · omega
    · have := ih _ mem
      simp only at this
      omega

theorem asks_batchRequest {named : List (RequestId × List Identity)} {question : Question}
    {id : RequestId} : (∃ request ∈ named.map Round.batchRequest, question.Asks id request) ↔
      question = .rosterMatch ∧ id ∈ named.map Prod.fst := by
  cases question <;> simp [Round.batchRequest, Question.Asks]

theorem advance_onConnected (formed : round.WellFormed) (running : round.phase.isFinished = false) :
    Advance round .connected round.onConnected.2 round.onConnected.1 := by
  unfold Round.onConnected
  split
  case isTrue idle =>
    refine Advance.afterRoster ?_ (fun eq => nomatch eq)
    constructor
    case formed => exact ⟨formed.findings, fun eq => nomatch eq⟩
    case batches =>
      intro id
      rw [asks_batchRequest, formed.idle idle]
      simp
    case checks =>
      intro id
      rw [asks_batchRequest]
      simp [Question.Answers]
    case nextId => exact Nat.le_add_right _ _
    case fresh =>
      intro question id request mem asks
      exact mem_nameBatches _ _ _ (asks_batchRequest.1 ⟨request, mem, asks⟩).2
    all_goals simp [idle, Phase.isFinished, Handled.present?, Handled.keyed?, Round.finding]
  case isFalse started =>
    refine advance_refl formed running ?_ rfl rfl
    constructor <;> simp [started, Question.Answers]

theorem advance_batch (formed : round.WellFormed) (running : round.phase.isFinished = false)
    {batch : RequestId} (opened : batch ∈ round.openBatches) (matched : List Identity) :
    Advance round (.rosterMatch batch matched) [] (matched.foldl Round.noteMatch
        { round with openBatches := round.openBatches.filter (· ≠ batch) }) := by
  have closed := formed.closed (List.contains_iff_mem.2 opened)
  obtain ⟨same, formed, marked, presence, count⟩ := Round.matches_noteMatch_all closed matched
  generalize matched.foldl Round.noteMatch _ = next at *
  have openBatches : next.openBatches = round.openBatches.filter (· ≠ batch) := by rw [same]
  have openChecks : next.openChecks = round.openChecks := by rw [same]
  have phase : next.phase = round.phase := by rw [same]
  have nextId : next.nextId = round.nextId := by rw [same]
  have received : next.blocklistReceived = round.blocklistReceived := by rw [same]
  have presenceCount : next.presenceCount = round.presenceCount := by rw [same]
  have keyCount : next.keyCount = round.keyCount := by rw [same]
  constructor
  case formed => exact formed
  case running => rw [phase, running]
  case phase => simp [phase]
  case batches =>
    intro id
    simpa [openBatches, Question.Answers] using fun _ => not_congr eq_comm
  case checks => simp [openChecks, Question.Answers]
  case nextId => rw [nextId]
  case fresh => exact fun mem => nomatch mem
  case blocklist => simp [received]
  case matched =>
    intro identity
    refine (marked identity).trans (or_congr_right ?_)
    simp [opened]
  case matchedCount => exact count
  case present =>
    intro identity
    rw [presence]
    exact (or_iff_left fun eq => nomatch eq).symm
  case presenceCount => exact presenceCount
  case keyCount => exact keyCount

theorem advance_onRosterMatch (formed : round.WellFormed) (running : round.phase.isFinished = false)
    (batch : RequestId) (matched : List Identity) :
    Advance round (.rosterMatch batch matched)
      (round.onRosterMatch batch matched).2 (round.onRosterMatch batch matched).1 := by
  unfold Round.onRosterMatch
  split
  case isTrue opened =>
    have opened : batch ∈ round.openBatches := List.contains_iff_mem.1 opened
    have started : round.phase ≠ .init := fun idle => by simp [formed.idle idle] at opened
    have answered := advance_batch formed running opened matched
    exact answered.afterRoster (answered.phase.2 (Or.inl started))
  case isFalse closed =>
    refine advance_refl formed running ?_ rfl rfl
    constructor
    case batches =>
      rintro id mem ⟨people, eq⟩
      cases eq
      exact closed (List.contains_iff_mem.2 mem)
    all_goals simp [Question.Answers]

/-! ## Any event -/

/-- What a running round does with an event that it takes notice of. -/
theorem advance_of_react {event : Event} {reaction : Round × List Event}
    (formed : round.WellFormed) (running : round.phase.isFinished = false)
    (reacts : round.react event = some reaction) : Advance round event reaction.2 reaction.1 := by
  unfold Round.react at reacts
  split at reacts
  case h_1 => cases reacts; exact advance_onConnected formed running
  case h_2 batch matched => cases reacts; exact advance_onRosterMatch formed running batch matched
  case h_3 presence => cases reacts; exact advance_onPresence formed running presence
  case h_4 request identity key =>
    cases reacts
    exact advance_onPublicKey formed running request identity key
  case h_5 request blocked =>
    split at reacts
    · cases reacts
    case isFalse started =>
      cases reacts
      exact advance_onBlocklist formed running started request blocked
  case h_6 request identity notFound =>
    cases reacts
    exact advance_onLastActivity formed running request identity notFound
  case h_7 => cases reacts

theorem advance_of_ignored {event : Event} (formed : round.WellFormed)
    (running : round.phase.isFinished = false) (ignores : round.react event = none) :
    Advance round event [] round := by
  unfold Round.react at ignores
  split at ignores
  case h_5 request blocked =>
    split at ignores
    case isTrue idle =>
      refine advance_refl formed running ?_ rfl rfl
      constructor <;> simp [idle, Question.Answers]
    · cases ignores
  case h_7 connected batches presences keys blocklists checks =>
    refine advance_refl formed running ⟨?_, ?_, ?_, ?_⟩ ?_ ?_
    · exact fun eq => absurd eq connected
    · exact fun id _ ⟨people, eq⟩ => batches id people eq
    · exact fun id _ ⟨person, notFound, eq⟩ => checks id person notFound eq
    · exact fun _ blocked eq => blocklists _ blocked eq
    · unfold Handled.present?
      split
      case h_1 presence eq => exact absurd eq (presences presence)
      · rfl
    · unfold Handled.keyed?
      split
      case h_1 request identity key eq => exact absurd eq (keys request identity key)
      · rfl
  all_goals cases ignores

end

end Messenger.Discovery

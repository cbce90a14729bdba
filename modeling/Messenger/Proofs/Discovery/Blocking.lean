/-
# Who is marked as blocked

A round takes the blocklist at any time after there was a connection, and does not ask for it again.
But it sets the mark on people of whom something is known at that moment, and keeps nothing of the
others, so it makes a difference what comes first:

    matched or present, then listed      marked
    listed, then matched or present      not marked

`Marking` is what one event means for the marks, as `Advance` is what it means for the end of the
round.  Over a whole round, exactly those people are marked whom an accepted answer listed when
they were known (`blocked_iff_listed_when_known`); everybody who was listed is marked only in
rounds in which nobody was listed too early.
-/
import Messenger.Proofs.Discovery.Invariants

namespace Messenger.Discovery

/-- Something is known about the person: the roster matched them, or their presence was accepted. -/
def Known (identity : Identity) (history : List Handled) : Prop :=
  Matched identity history ∨ identity ∈ present history

/-- The event is an accepted answer, and the person is on its blocklist. -/
def Lists (identity : Identity) (past : List Handled) (handled : Handled) : Prop :=
  Connected past ∧
    ∃ blocked, handled.event = .blocklist handled.before.blocklistId blocked ∧ identity ∈ blocked

/-- An accepted answer listed the person. -/
def Listed (identity : Identity) : List Handled → Prop := Happened (Lists identity)

/-- An accepted answer listed the person, and something was known about them when it came. -/
def ListedWhenKnown (identity : Identity) : List Handled → Prop :=
  Happened fun past handled => Lists identity past handled ∧ Known identity past

section
variable {history : List Handled} {handled : Handled} {identity : Identity}

theorem listedWhenKnown_snoc : ListedWhenKnown identity (history ++ [handled]) ↔
    ListedWhenKnown identity history ∨ Lists identity history handled ∧ Known identity history :=
  happened_snoc

theorem ListedWhenKnown.listed (listed : ListedWhenKnown identity history) :
    Listed identity history := by
  obtain ⟨past, handled, future, eq, lists, -⟩ := listed
  exact ⟨past, handled, future, eq, lists⟩

end

/-! ## Who is noted -/

namespace Round

/-- Everybody of whom something is noted was matched or is present, and only people who are
present are looked up. -/
structure Grounded (round : Round) : Prop where
  known : ∀ {identity : Identity} {finding : Finding},
    round.findings.get? identity = some finding → finding.matched = true ∨ finding.presence = true
  checked : ∀ check ∈ round.openChecks, (round.finding check.2).presence = true

theorem Grounded.start (candidates : List Identity) (batchSize : Nat) (first : RequestId) :
    (start candidates batchSize first).Grounded where
  known := fun found => nomatch found
  checked := fun _ mem => nomatch mem

variable {round : Round}

theorem Grounded.has_iff (grounded : round.Grounded) (identity : Identity) :
    round.findings.has identity = true ↔
      (round.finding identity).matched = true ∨ (round.finding identity).presence = true := by
  cases found : round.findings.get? identity with
  | none => simp [Table.has, Round.finding, found]
  | some finding =>
    rw [finding_of_get? found, Table.has, found]
    exact iff_of_true rfl (grounded.known found)

theorem has_note (finding : Finding) (identity : Identity) :
    (round.note finding).findings.has identity = true ↔
      identity = finding.identity ∨ round.findings.has identity = true := by
  unfold note Table.has
  rw [Table.get?_put]
  split
  case isTrue same => exact iff_of_true rfl (Or.inl same)
  case isFalse differ => exact (or_iff_right differ).symm

theorem Grounded.congr (grounded : round.Grounded) {next : Round}
    (findings : next.findings = round.findings) (checks : next.openChecks ⊆ round.openChecks) :
    next.Grounded where
  known := fun found => grounded.known (findings ▸ found)
  checked := by
    intro check mem
    have before := grounded.checked check (checks mem)
    rwa [Round.finding, findings]

/-- Nobody is marked by what has changed, and no mark is taken away. -/
structure Unmarked (round next : Round) : Prop where
  grounded : next.Grounded
  blocked : ∀ identity, (next.finding identity).blocked = (round.finding identity).blocked

theorem Unmarked.refl (grounded : round.Grounded) : round.Unmarked round :=
  ⟨grounded, fun _ => rfl⟩

theorem Unmarked.trans {middle next : Round} (first : round.Unmarked middle)
    (second : middle.Unmarked next) : round.Unmarked next :=
  ⟨second.grounded, fun identity => (second.blocked identity).trans (first.blocked identity)⟩

theorem Unmarked.congr {middle next : Round} (unmarked : round.Unmarked middle)
    (findings : next.findings = middle.findings) (checks : next.openChecks ⊆ middle.openChecks) :
    round.Unmarked next where
  grounded := unmarked.grounded.congr findings checks
  blocked := by
    intro identity
    rw [← unmarked.blocked, Round.finding, Round.finding, findings]

theorem Grounded.note (grounded : round.Grounded) {finding : Finding}
    (known : finding.matched = true ∨ finding.presence = true)
    (presence : (round.finding finding.identity).presence = true → finding.presence = true) :
    (round.note finding).Grounded where
  known := by
    intro identity other found
    rw [Round.note, Table.get?_put] at found
    split at found
    · cases found
      exact known
    · exact grounded.known found
  checked := by
    intro check mem
    have before := grounded.checked check mem
    rw [finding_note]
    split
    case isTrue same => exact presence (same ▸ before)
    case isFalse => exact before

theorem unmarked_note (grounded : round.Grounded) {finding : Finding}
    (known : finding.matched = true ∨ finding.presence = true)
    (presence : (round.finding finding.identity).presence = true → finding.presence = true)
    (blocked : finding.blocked = (round.finding finding.identity).blocked) :
    round.Unmarked (round.note finding) where
  grounded := grounded.note known presence
  blocked := by
    intro identity
    rw [finding_note]
    split
    case isTrue same => rw [same, blocked]
    case isFalse => rfl

theorem unmarked_noteMatch (formed : round.WellFormed) (grounded : round.Grounded)
    (identity : Identity) : round.Unmarked (round.noteMatch identity) := by
  have own := formed.identity_finding identity
  unfold noteMatch
  dsimp only
  split
  · exact .refl grounded
  · have noted : round.Unmarked (round.note { round.finding identity with matched := true }) := by
      refine unmarked_note grounded (Or.inl rfl) ?_ ?_ <;> dsimp only <;> rw [own]
      exact id
    exact noted.congr rfl (List.Subset.refl _)

theorem unmarked_noteMatch_all (formed : round.WellFormed) (grounded : round.Grounded)
    (people : List Identity) : round.Unmarked (people.foldl noteMatch round) := by
  induction people generalizing round with
  | nil => exact .refl grounded
  | cons identity rest ih =>
    have first := unmarked_noteMatch formed grounded identity
    exact first.trans (ih (matches_noteMatch formed identity).formed first.grounded)

theorem afterRoster_findings (round : Round) : round.afterRoster.1.findings = round.findings ∧
    round.afterRoster.1.openChecks = round.openChecks := by
  unfold afterRoster onRosterComplete
  split
  · split <;> exact ⟨rfl, rfl⟩
  · exact ⟨rfl, rfl⟩

/-- These people are marked, as far as something is known about them. -/
structure Blocks (round : Round) (people : List Identity) (next : Round) : Prop where
  formed : next.WellFormed
  grounded : next.Grounded
  has : ∀ identity, next.findings.has identity = true ↔ round.findings.has identity = true
  blocked : ∀ identity, (next.finding identity).blocked = true ↔
    (round.finding identity).blocked = true ∨
      round.findings.has identity = true ∧ identity ∈ people

theorem Blocks.trans {first second : List Identity} {middle next : Round}
    (one : round.Blocks first middle) (two : middle.Blocks second next) :
    round.Blocks (first ++ second) next where
  formed := two.formed
  grounded := two.grounded
  has := fun identity => (two.has identity).trans (one.has identity)
  blocked := by
    intro identity
    rw [two.blocked, one.blocked, one.has, or_assoc, ← and_or_left, List.mem_append]

theorem blocks_noteBlocked (formed : round.WellFormed) (grounded : round.Grounded)
    (identity : Identity) : round.Blocks [identity] (round.noteBlocked identity) := by
  have still := (annotates_noteBlocked formed identity).formed
  revert still
  unfold noteBlocked
  cases found : round.findings.get? identity with
  | none =>
    refine fun still => ⟨still, grounded, fun _ => Iff.rfl, fun other => ?_⟩
    refine (or_iff_left ?_).symm
    rintro ⟨has, mem⟩
    rw [List.mem_singleton.1 mem, Table.has, found] at has
    cases has
  | some finding =>
    have own : finding.identity = identity := formed.findings.key_eq found
    have known : round.finding identity = finding := finding_of_get? found
    have has : round.findings.has identity = true := Table.has_iff.2 ⟨finding, found⟩
    intro still
    have noticed : finding.matched = true ∨ finding.presence = true := grounded.known found
    have noted : (round.note { finding with blocked := true }).Grounded := by
      refine grounded.note noticed fun presence => ?_
      rwa [own, known] at presence
    refine ⟨still, noted, fun other => ?_, fun other => ?_⟩
    · rw [has_note, own]
      exact or_iff_right_of_imp fun same => same ▸ has
    · rw [finding_note, own]
      split
      case isTrue same =>
        exact iff_of_true rfl (Or.inr ⟨same ▸ has, List.mem_singleton.2 same⟩)
      case isFalse differ =>
        exact (or_iff_left fun both => differ (List.mem_singleton.1 both.2)).symm

theorem blocks_noteBlocked_all (formed : round.WellFormed) (grounded : round.Grounded)
    (people : List Identity) : round.Blocks people (people.foldl noteBlocked round) := by
  induction people generalizing round with
  | nil =>
    exact ⟨formed, grounded, fun _ => Iff.rfl, fun _ =>
      (or_iff_left fun ⟨_, mem⟩ => nomatch mem).symm⟩
  | cons identity rest ih =>
    have first := blocks_noteBlocked formed grounded identity
    exact first.trans (ih first.formed first.grounded)

end Round

/-! ## What one event marks -/

/-- What an event means for the marks. -/
structure Marking (round : Round) (event : Event) (next : Round) : Prop where
  grounded : next.Grounded
  blocked : ∀ identity, (next.finding identity).blocked = true ↔
    (round.finding identity).blocked = true ∨
      round.phase ≠ .init ∧ round.findings.has identity = true ∧
        ∃ blocked, event = .blocklist round.blocklistId blocked ∧ identity ∈ blocked

section
variable {round : Round}

theorem Round.Unmarked.marking {next : Round} {event : Event} (unmarked : round.Unmarked next)
    (plain : ∀ blocked, event ≠ .blocklist round.blocklistId blocked) :
    Marking round event next where
  grounded := unmarked.grounded
  blocked := by
    intro identity
    rw [unmarked.blocked]
    exact (or_iff_left fun ⟨_, _, blocked, eq, _⟩ => plain blocked eq).symm

theorem unmarked_onConnected (grounded : round.Grounded) : round.Unmarked round.onConnected.1 := by
  unfold Round.onConnected
  split
  · obtain ⟨findings, checks⟩ := Round.afterRoster_findings
      { round with
        phase := .awaitingRosterMatch
        candidates := []
        openBatches :=
          (Round.nameBatches round.nextId (batches round.batchSize round.candidates)).map Prod.fst
        nextId := ⟨round.nextId.val +
          (Round.nameBatches round.nextId (batches round.batchSize round.candidates)).length⟩ }
    exact (Round.Unmarked.refl grounded).congr findings fun _ mem => checks ▸ mem
  · exact .refl grounded

theorem unmarked_onRosterMatch (formed : round.WellFormed) (grounded : round.Grounded)
    (batch : RequestId) (matched : List Identity) :
    round.Unmarked (round.onRosterMatch batch matched).1 := by
  unfold Round.onRosterMatch
  split
  case isTrue opened =>
    have answered : round.Unmarked
        { round with openBatches := round.openBatches.filter (· ≠ batch) } :=
      (Round.Unmarked.refl grounded).congr rfl (List.Subset.refl _)
    have noted := answered.trans
      (Round.unmarked_noteMatch_all (formed.closed opened) answered.grounded matched)
    obtain ⟨findings, checks⟩ := Round.afterRoster_findings (matched.foldl Round.noteMatch
      { round with openBatches := round.openBatches.filter (· ≠ batch) })
    exact noted.congr findings fun _ mem => checks ▸ mem
  case isFalse => exact .refl grounded

theorem Round.Unmarked.check {next : Round} (unmarked : round.Unmarked next) {identity : Identity}
    (present : (next.finding identity).presence = true) :
    round.Unmarked (next.check identity).1 where
  grounded := by
    refine ⟨unmarked.grounded.known, fun check mem => ?_⟩
    rcases List.mem_append.1 mem with mem | mem
    · exact unmarked.grounded.checked check mem
    · rw [List.mem_singleton.1 mem]
      exact present
  blocked := unmarked.blocked

theorem unmarked_onPresence (formed : round.WellFormed) (grounded : round.Grounded)
    (presence : Presence) : round.Unmarked (round.onPresence presence).1 := by
  have own : (round.finding presence.identity).identity = presence.identity :=
    formed.identity_finding _
  unfold Round.onPresence
  split
  · dsimp only
    split
    case isTrue before =>
      refine Round.unmarked_note grounded (Or.inr before) (fun _ => before) ?_
      exact congrArg (fun i => (round.finding i).blocked) own.symm
    case isFalse =>
      have noted : round.Unmarked (round.note
          { (round.finding presence.identity).updated presence with presence := true }) :=
        Round.unmarked_note grounded (Or.inr rfl) (fun _ => rfl)
          (congrArg (fun i => (round.finding i).blocked) own.symm)
      have counted : round.Unmarked { round.note
          { (round.finding presence.identity).updated presence with presence := true } with
        presenceCount := round.presenceCount + 1 } := noted.congr rfl (List.Subset.refl _)
      split
      · refine counted.check ?_
        refine (congrArg Finding.presence (round.finding_note _ presence.identity)).trans ?_
        exact congrArg Finding.presence (if_pos own.symm)
      · exact counted
  · exact .refl grounded

theorem unmarked_onPublicKey (formed : round.WellFormed) (grounded : round.Grounded)
    (request : RequestId) (identity : Identity) (key : Octets) :
    round.Unmarked (round.onPublicKey request identity key) := by
  unfold Round.onPublicKey
  split
  · cases found : round.findings.get? identity with
    | none => exact .refl grounded
    | some finding =>
      have own : finding.identity = identity := formed.findings.key_eq found
      have known : round.finding identity = finding := Round.finding_of_get? found
      have noticed : finding.matched = true ∨ finding.presence = true := grounded.known found
      have noted : round.Unmarked (round.note { finding with publicKey := some key }) := by
        refine Round.unmarked_note grounded noticed ?_ ?_ <;> dsimp only <;> rw [own, known]
        exact id
      exact noted.congr rfl (List.Subset.refl _)
  · exact .refl grounded

theorem unmarked_onLastActivity (formed : round.WellFormed) (grounded : round.Grounded)
    (request : RequestId) (notFound : Bool) :
    round.Unmarked (round.onLastActivity request notFound).1 := by
  unfold Round.onLastActivity
  cases found : round.openChecks.lookup request with
  | none => exact .refl grounded
  | some person =>
    have present : (round.finding person).presence = true := by
      obtain ⟨before, after, eq, -⟩ := List.lookup_eq_some_iff.1 found
      exact grounded.checked (request, person) (by simp [eq])
    have answered : round.Unmarked
        { round with openChecks := round.openChecks.filter (·.1 ≠ request) } :=
      (Round.Unmarked.refl grounded).congr rfl fun _ mem => (List.mem_filter.1 mem).1
    dsimp only
    split
    · have dropped : Round.Unmarked { round with
            openChecks := round.openChecks.filter (·.1 ≠ request) }
          ({ round with openChecks := round.openChecks.filter (·.1 ≠ request) }.note
            { round.finding person with discarded := true }) :=
        Round.unmarked_note answered.grounded (Or.inr present) (fun _ => present)
          (congrArg (fun i => (round.finding i).blocked) (formed.identity_finding person).symm)
      have noted := answered.trans dropped
      unfold Round.discard
      dsimp only
      split
      · exact noted
      · exact noted.congr rfl (List.Subset.refl _)
    · exact answered

theorem marking_onBlocklist (formed : round.WellFormed) (grounded : round.Grounded)
    (started : round.phase ≠ .init) (request : RequestId) (blocked : List Identity) :
    Marking round (.blocklist request blocked) (round.onBlocklist request blocked) := by
  unfold Round.onBlocklist
  split
  case isTrue named =>
    have received : Round.WellFormed { round with blocklistReceived := true } :=
      ⟨formed.findings, formed.idle⟩
    have marked := Round.blocks_noteBlocked_all received ⟨grounded.known, grounded.checked⟩ blocked
    refine ⟨marked.grounded, fun identity => (marked.blocked identity).trans ?_⟩
    refine or_congr_right ⟨fun ⟨has, mem⟩ => ⟨started, has, blocked, by rw [named], mem⟩, ?_⟩
    rintro ⟨-, has, listed, eq, mem⟩
    cases eq
    exact ⟨has, mem⟩
  case isFalse other =>
    refine (Round.Unmarked.refl grounded).marking fun listed eq => other ?_
    cases eq
    rfl

theorem marking_of_react {event : Event} {reaction : Round × List Event}
    (formed : round.WellFormed) (grounded : round.Grounded)
    (reacts : round.react event = some reaction) : Marking round event reaction.1 := by
  unfold Round.react at reacts
  split at reacts
  case h_1 => cases reacts; exact (unmarked_onConnected grounded).marking nofun
  case h_2 batch matched =>
    cases reacts
    exact (unmarked_onRosterMatch formed grounded batch matched).marking nofun
  case h_3 presence =>
    cases reacts
    exact (unmarked_onPresence formed grounded presence).marking nofun
  case h_4 request identity key =>
    cases reacts
    exact (unmarked_onPublicKey formed grounded request identity key).marking nofun
  case h_5 request blocked =>
    split at reacts
    · cases reacts
    case isFalse started =>
      cases reacts
      exact marking_onBlocklist formed grounded started request blocked
  case h_6 request identity notFound =>
    cases reacts
    exact (unmarked_onLastActivity formed grounded request notFound).marking nofun
  case h_7 => cases reacts

theorem marking_of_ignored {event : Event} (grounded : round.Grounded)
    (ignores : round.react event = none) : Marking round event round := by
  refine ⟨grounded, fun identity => (or_iff_left ?_).symm⟩
  rintro ⟨started, -, blocked, rfl, -⟩
  rw [Round.react, if_neg started] at ignores
  cases ignores

end

/-! ## A whole round -/

/-- The marks of a round are what has happened. -/
structure Marks (history : List Handled) (round : Round) : Prop where
  tracks : Tracks history round
  grounded : round.Grounded
  blocked : ∀ identity,
    (round.finding identity).blocked = true ↔ ListedWhenKnown identity history

section
variable {history : List Handled} {round : Round}

theorem marks_start (candidates : List Identity) (batchSize : Nat) (first : RequestId) :
    Marks [] (Round.start candidates batchSize first) where
  tracks := tracks_start candidates batchSize first
  grounded := .start candidates batchSize first
  blocked := fun _ => iff_of_false (fun eq => nomatch eq) not_happened_nil

/-- Of whom something is noted is who is known. -/
theorem Marks.has_iff (marks : Marks history round) (identity : Identity) :
    round.findings.has identity = true ↔ Known identity history := by
  rw [marks.grounded.has_iff, marks.tracks.matched, marks.tracks.presence, Known]

theorem Marks.snoc {event : Event} {next : Round} (marks : Marks history round)
    (tracks : Tracks (history ++ [⟨round, event⟩]) next) (marking : Marking round event next) :
    Marks (history ++ [⟨round, event⟩]) next where
  tracks := tracks
  grounded := marking.grounded
  blocked := by
    intro identity
    rw [marking.blocked, marks.blocked, listedWhenKnown_snoc, marks.has_iff, marks.tracks.connected,
      Lists, and_comm (a := Known identity history), and_assoc]

end

theorem marks_preserved : Preserved Marks where
  react := by
    intro history round event reaction marks unfinished _ reacts
    have tracks := (marks.tracks.notice unfinished reacts).2
    exact marks.snoc tracks (marking_of_react marks.tracks.formed marks.grounded reacts)
  ignore := by
    intro history round event marks unfinished _ reacts
    have tracks := (marks.tracks.ignore unfinished reacts).2
    exact marks.snoc tracks (marking_of_ignored marks.grounded reacts)

/-- As long as a round is not over, its marks are what has happened. -/
theorem marks_of_unfinished {start : Round} (marks : Marks [] start) (events : List Event)
    (unfinished : (start.after events).phase.isFinished = false) :
    Marks (start.history events) (start.after events) :=
  marks_preserved.of_unfinished marks events unfinished

/-- What a round tells when it is done is what it has noted, and its marks are what has happened. -/
theorem marks_of_completed {start : Round} (marks : Marks [] start) {events : List Event}
    {event : Event} {findings : List Finding}
    (ends : ((start.after events).step event).outcome = some (.completed findings)) :
    ∃ round, Marks (start.history (events ++ [event])) round ∧ findings = round.allFindings := by
  obtain ⟨last, marks, -, told⟩ := marks_preserved.of_completed marks ends
  exact ⟨last, marks, told⟩

/-- Where a round is done, a person is marked as blocked exactly if an accepted answer listed them
when they were known.  So all who were listed are marked exactly if nobody was listed only before
they were known. -/
theorem blocked_iff_listed_when_known (candidates : List Identity) (batchSize : Nat)
    (first : RequestId) (events : List Event) (event : Event) (findings : List Finding)
    (ends : (((Round.start candidates batchSize first).after events).step event).outcome =
      some (.completed findings)) :
    let history := (Round.start candidates batchSize first).history (events ++ [event])
    (∀ finding ∈ findings, finding.blocked = true ↔ ListedWhenKnown finding.identity history) ∧
      ((∀ finding ∈ findings, finding.blocked = true ↔ Listed finding.identity history) ↔
        ∀ finding ∈ findings,
          Listed finding.identity history → ListedWhenKnown finding.identity history) := by
  intro history
  obtain ⟨round, marks, rfl⟩ := marks_of_completed (marks_start candidates batchSize first) ends
  have marked : ∀ finding ∈ round.allFindings,
      finding.blocked = true ↔ ListedWhenKnown finding.identity history := by
    intro finding mem
    have found := marks.tracks.formed.findings.mem_values_iff.1 mem
    rw [← marks.blocked, Round.finding_of_get? found]
  refine ⟨marked, fun all finding mem listed => ?_, fun timely finding mem => ?_⟩
  · exact (marked finding mem).1 ((all finding mem).2 listed)
  · exact (marked finding mem).trans ⟨ListedWhenKnown.listed, timely finding mem⟩

/-- A blocklist that comes before the answer about a batch is not asked for again, and a person
whom it lists is not marked. -/
theorem blocked_missed :
    let start := Round.start [⟨"a@x"⟩] 1 ⟨0⟩
    let events : List Event := [.connected, .blocklist ⟨2⟩ [⟨"a@x"⟩]]
    let event : Event := .rosterMatch ⟨3⟩ [⟨"a@x"⟩]
    let finding : Finding := { identity := ⟨"a@x"⟩, matched := true }
    ((start.after events).step event).outcome = some (.completed [finding]) ∧
      Listed finding.identity (start.history (events ++ [event])) ∧
      ¬ListedWhenKnown finding.identity (start.history (events ++ [event])) := by
  intro start events event finding
  have ends : ((start.after events).step event).outcome = some (.completed [finding]) := by
    decide +kernel
  refine ⟨ends, ?_, fun listed => ?_⟩
  · have named : (start.after [.connected]).blocklistId = ⟨2⟩ := by decide +kernel
    exact ⟨start.history [.connected], ⟨start.after [.connected], .blocklist ⟨2⟩ [⟨"a@x"⟩]⟩,
      [⟨start.after events, event⟩], rfl, ⟨_, List.mem_cons_self, rfl⟩, [⟨"a@x"⟩], by rw [named],
      List.mem_cons_self⟩
  · have marked := (blocked_iff_listed_when_known _ _ _ events event _ ends).1 finding
      List.mem_cons_self
    cases marked.2 listed

end Messenger.Discovery

/-
# Whose key a round has

A round that is done has counted as many keys as presences, and no more than that.  What a person has
is the key that was accepted last for them (`lastKey`), and a key that is accepted counts whenever it
comes and whosever it is.  So there may be keys to spare,

    those that came again for a person
    those of people whom the roster matched, but who are not present

and as many of the people who are present may have no key (`keyless_le_spare`).  Where no key is to
spare, all of them have one.
-/
import Messenger.Proofs.Discovery.Blocking

namespace Messenger.Discovery

/-- The key that an event brings for the person, if the round accepts it. -/
def Handled.key? (identity : Identity) (handled : Handled) : Option Octets :=
  match handled.event with
  | .publicKey _ _ key => if handled.keyed? = some identity then some key else none
  | _ => none

/-- The key that was accepted last for the person. -/
def lastKey (identity : Identity) (history : List Handled) : Option Octets :=
  (history.filterMap (Handled.key? identity)).getLast?

/-- How many of the accepted keys came again for a person or belong to nobody who is present. -/
def spareKeys (history : List Handled) : Nat :=
  keysAccepted history - (present history ∩ keyed history).card

section
variable {history : List Handled} {handled : Handled} {identity : Identity}

theorem getLast?_filterMap_snoc {α : Type} {brings? : Handled → Option α} :
    ((history ++ [handled]).filterMap brings?).getLast? =
      (brings? handled).or (history.filterMap brings?).getLast? := by
  rw [List.filterMap_append, List.getLast?_append]
  cases brings : brings? handled <;> simp [brings]

theorem lastKey_snoc : lastKey identity (history ++ [handled]) =
    (handled.key? identity).or (lastKey identity history) :=
  getLast?_filterMap_snoc

theorem Handled.key?_isSome : (handled.key? identity).isSome = true ↔
    handled.keyed? = some identity := by
  unfold Handled.key?
  split
  case h_1 => simp
  case h_2 plain =>
    refine iff_of_false (fun some => nomatch some) fun accepted => ?_
    unfold Handled.keyed? at accepted
    split at accepted
    case h_1 event_eq => exact plain _ _ _ event_eq
    case h_2 => cases accepted

theorem lastKey_isSome : (lastKey identity history).isSome = true ↔ identity ∈ keyed history := by
  rw [lastKey, List.getLast?_isSome, ne_eq, List.filterMap_eq_nil_iff, keyed, List.mem_toFinset,
    List.mem_filterMap]
  push Not
  refine exists_congr fun handled => and_congr_right fun _ => ?_
  rw [← Handled.key?_isSome, Option.ne_none_iff_isSome]

/-- The presences without a key are as many as there are spare keys, where the keys are enough. -/
theorem card_keyless_le (enough : (present history).card ≤ keysAccepted history) :
    (present history \ keyed history).card ≤ spareKeys history := by
  have split := Finset.card_sdiff_add_card_inter (present history) (keyed history)
  unfold spareKeys
  omega

/-- No key is to spare where none came again and all belong to people who are present. -/
theorem spareKeys_eq_zero (once : (history.filterMap Handled.keyed?).Nodup)
    (own : keyed history ⊆ present history) : spareKeys history = 0 := by
  unfold spareKeys
  rw [Finset.inter_eq_right.2 own, keyed, List.toFinset_card_of_nodup once, keysAccepted,
    Nat.sub_self]

end

/-! ## What the handlers keep of a person -/

namespace Round

/-- Something of what is noted about people stays as it is. -/
def Keeps {α : Type} (part : Finding → α) (round next : Round) : Prop :=
  ∀ identity, part (next.finding identity) = part (round.finding identity)

section
variable {α : Type} {part : Finding → α} {round middle next : Round}

theorem Keeps.trans (first : round.Keeps part middle) (second : middle.Keeps part next) :
    round.Keeps part next :=
  fun identity => (second identity).trans (first identity)

theorem keeps_of_findings (same : next.findings = round.findings) : round.Keeps part next := by
  intro identity
  rw [Round.finding, Round.finding, same]

theorem keeps_note {identity : Identity} {finding : Finding} (own : finding.identity = identity)
    (same : part finding = part (round.finding identity)) : round.Keeps part (round.note finding) := by
  intro other
  rw [finding_note, own]
  split
  case isTrue is => rw [is, same]
  case isFalse => rfl

theorem keeps_noteMatch_all
    (plain : ∀ finding : Finding, part { finding with matched := true } = part finding)
    (formed : round.WellFormed) (people : List Identity) :
    round.Keeps part (people.foldl noteMatch round) := by
  induction people generalizing round with
  | nil => exact fun _ => rfl
  | cons identity rest ih =>
    have first : round.Keeps part (round.noteMatch identity) := by
      unfold noteMatch
      dsimp only
      split
      · exact fun _ => rfl
      · have noted : round.Keeps part (round.note { round.finding identity with matched := true }) :=
          keeps_note (formed.identity_finding identity) (plain _)
        exact noted
    exact first.trans (ih (matches_noteMatch formed identity).formed)

theorem keeps_noteBlocked_all
    (plain : ∀ finding : Finding, part { finding with blocked := true } = part finding)
    (formed : round.WellFormed) (people : List Identity) :
    round.Keeps part (people.foldl noteBlocked round) := by
  induction people generalizing round with
  | nil => exact fun _ => rfl
  | cons identity rest ih =>
    have first : round.Keeps part (round.noteBlocked identity) := by
      unfold noteBlocked
      cases found : round.findings.get? identity with
      | none => exact fun _ => rfl
      | some finding =>
        have own : finding.identity = identity := formed.findings.key_eq found
        have same : part { finding with blocked := true } = part (round.finding identity) := by
          rw [finding_of_get? found]
          exact plain finding
        exact keeps_note own same
    exact first.trans (ih (annotates_noteBlocked formed identity).formed)

theorem keeps_onConnected (round : Round) : round.Keeps part round.onConnected.1 := by
  unfold onConnected
  split
  · exact keeps_of_findings (afterRoster_findings _).1
  · exact fun _ => rfl

theorem keeps_onRosterMatch
    (plain : ∀ finding : Finding, part { finding with matched := true } = part finding)
    (formed : round.WellFormed) (batch : RequestId) (matched : List Identity) :
    round.Keeps part (round.onRosterMatch batch matched).1 := by
  unfold onRosterMatch
  split
  case isTrue opened =>
    have noted := keeps_noteMatch_all plain (formed.closed opened) matched
    exact noted.trans (keeps_of_findings (afterRoster_findings _).1)
  case isFalse => exact fun _ => rfl

theorem keeps_onPresence
    (plain : ∀ finding : Finding, part { finding with presence := true } = part finding)
    (formed : round.WellFormed) (presence : Presence)
    (updated : ∀ finding : Finding, part (finding.updated presence) = part finding) :
    round.Keeps part (round.onPresence presence).1 := by
  have own : (round.finding presence.identity).identity = presence.identity :=
    formed.identity_finding _
  unfold onPresence
  split
  · dsimp only
    split
    · exact keeps_note own (updated _)
    · have noted : round.Keeps part (round.note
          { (round.finding presence.identity).updated presence with presence := true }) :=
        keeps_note own ((plain _).trans (updated _))
      split <;> exact noted
  · exact fun _ => rfl

theorem keeps_onBlocklist
    (plain : ∀ finding : Finding, part { finding with blocked := true } = part finding)
    (formed : round.WellFormed) (request : RequestId) (blocked : List Identity) :
    round.Keeps part (round.onBlocklist request blocked) := by
  unfold onBlocklist
  split
  · have received : Round.WellFormed { round with blocklistReceived := true } :=
      ⟨formed.findings, formed.idle⟩
    exact keeps_noteBlocked_all plain received blocked
  · exact fun _ => rfl

theorem keeps_onLastActivity
    (plain : ∀ finding : Finding, part { finding with discarded := true } = part finding)
    (formed : round.WellFormed) (request : RequestId) (notFound : Bool) :
    round.Keeps part (round.onLastActivity request notFound).1 := by
  unfold onLastActivity
  split
  · exact fun _ => rfl
  case h_2 person _ =>
    dsimp only
    split
    · have noted : round.Keeps part
          (round.note { round.finding person with discarded := true }) :=
        keeps_note (formed.identity_finding person) (plain _)
      unfold discard
      dsimp only
      split <;> exact noted
    · exact fun _ => rfl

end

end Round

/-! ## What becomes of a key -/

section
variable {round : Round}

theorem publicKey_onPublicKey (formed : round.WellFormed) (request : RequestId)
    (person : Identity) (key : Octets) (identity : Identity) :
    ((round.onPublicKey request person key).finding identity).publicKey =
      (Handled.key? identity ⟨round, .publicKey request person key⟩).or
        (round.finding identity).publicKey := by
  have brings : Handled.key? identity ⟨round, .publicKey request person key⟩ =
      if Handled.keyed? ⟨round, .publicKey request person key⟩ = some identity then some key
      else none := rfl
  rw [brings]
  unfold Round.onPublicKey
  split
  case isTrue accepts =>
    rw [Bool.and_eq_true, decide_eq_true_eq, decide_eq_true_eq] at accepts
    cases found : round.findings.get? person with
    | none =>
      have refused : Handled.keyed? ⟨round, .publicKey request person key⟩ = none := by
        simp [Handled.keyed?, Table.has, found]
      rw [refused, if_neg (Option.some_ne_none identity).symm, Option.none_or]
    | some finding =>
      have own : finding.identity = person := formed.findings.key_eq found
      have accepted : Handled.keyed? ⟨round, .publicKey request person key⟩ = some person :=
        if_pos ⟨accepts.1, accepts.2, Table.has_iff.2 ⟨finding, found⟩⟩
      rw [accepted]
      refine (congrArg Finding.publicKey (round.finding_note _ identity)).trans ?_
      by_cases same : identity = person
      · simp [same, own]
      · simp [same, own, Ne.symm same]
  case isFalse refuses =>
    have refused : Handled.keyed? ⟨round, .publicKey request person key⟩ = none := by
      refine if_neg fun accepts => refuses ?_
      rw [Bool.and_eq_true, decide_eq_true_eq, decide_eq_true_eq]
      exact ⟨accepts.1, accepts.2.1⟩
    rw [refused, if_neg (Option.some_ne_none identity).symm, Option.none_or]

theorem publicKey_of_react {event : Event} {reaction : Round × List Event}
    (formed : round.WellFormed) (reacts : round.react event = some reaction) (identity : Identity) :
    (reaction.1.finding identity).publicKey =
      (Handled.key? identity ⟨round, event⟩).or (round.finding identity).publicKey := by
  unfold Round.react at reacts
  split at reacts
  case h_1 => cases reacts; exact round.keeps_onConnected identity
  case h_2 batch matched =>
    cases reacts
    exact Round.keeps_onRosterMatch (fun _ => rfl) formed batch matched identity
  case h_3 presence =>
    cases reacts
    exact Round.keeps_onPresence (fun _ => rfl) formed presence (fun _ => rfl) identity
  case h_4 request person key =>
    cases reacts
    exact publicKey_onPublicKey formed request person key identity
  case h_5 request blocked =>
    split at reacts
    · cases reacts
    · cases reacts
      exact Round.keeps_onBlocklist (fun _ => rfl) formed request blocked identity
  case h_6 request person notFound =>
    cases reacts
    exact Round.keeps_onLastActivity (fun _ => rfl) formed request notFound identity
  case h_7 => cases reacts

end

/-! ## A whole round -/

/-- The keys of a round are what was accepted. -/
structure Keyed (history : List Handled) (round : Round) : Prop where
  marks : Marks history round
  publicKey : ∀ identity, (round.finding identity).publicKey = lastKey identity history

theorem keyed_start (candidates : List Identity) (batchSize : Nat) (first : RequestId) :
    Keyed [] (Round.start candidates batchSize first) where
  marks := marks_start candidates batchSize first
  publicKey := fun _ => rfl

theorem keyed_preserved : Preserved Keyed where
  react := by
    intro history round event reaction keyed unfinished connected reacts
    refine ⟨marks_preserved.react keyed.marks unfinished connected reacts, fun identity => ?_⟩
    rw [publicKey_of_react keyed.marks.tracks.formed reacts, lastKey_snoc, keyed.publicKey]
  ignore := by
    intro history round event keyed unfinished connected ignores
    refine ⟨marks_preserved.ignore keyed.marks unfinished connected ignores, fun identity => ?_⟩
    have plain : Handled.key? identity ⟨round, event⟩ = none := by
      cases event <;> first | rfl | cases ignores
    rw [lastKey_snoc, keyed.publicKey, plain, Option.none_or]

/-- Where a round is done that matched somebody, everybody has the key that was accepted last for
them, and at most as many people who are present have none as there are keys to spare.  So all of
them have one if no key came again and no key is that of somebody who is not present. -/
theorem keyless_le_spare (candidates : List Identity) (batchSize : Nat) (first : RequestId)
    (events : List Event) (event : Event) (findings : List Finding)
    (ends : (((Round.start candidates batchSize first).after events).step event).outcome =
      some (.completed findings))
    (somebody : ∃ finding ∈ findings, finding.matched = true) :
    let history := (Round.start candidates batchSize first).history (events ++ [event])
    (∀ finding ∈ findings, (finding.presence = true ↔ finding.identity ∈ present history) ∧
      finding.publicKey = lastKey finding.identity history) ∧
    (findings.filter fun finding => finding.presence && finding.publicKey.isNone).length ≤
      spareKeys history ∧
    ((history.filterMap Handled.keyed?).Nodup → keyed history ⊆ present history →
      ∀ finding ∈ findings, finding.presence = true → finding.publicKey.isSome = true) := by
  intro history
  obtain ⟨round, ⟨marks, publicKey⟩, complete, rfl⟩ :=
    keyed_preserved.of_completed (keyed_start candidates batchSize first) ends
  have findings := marks.tracks.formed.findings
  have noted : ∀ finding ∈ round.allFindings,
      (finding.presence = true ↔ finding.identity ∈ present history) ∧
        finding.publicKey = lastKey finding.identity history := by
    intro finding mem
    have found := Round.finding_of_get? (findings.mem_values_iff.1 mem)
    rw [← marks.tracks.presence, ← publicKey, found]
    exact ⟨Iff.rfl, rfl⟩
  have enough : (present history).card ≤ keysAccepted history := by
    obtain ⟨finding, mem, matched⟩ := somebody
    have found := Round.finding_of_get? (findings.mem_values_iff.1 mem)
    have matched := (marks.tracks.matched finding.identity).1 (found.symm ▸ matched)
    exact ((marks.tracks.isComplete_iff.1 complete).details.resolve_left fun nobody =>
      nobody _ matched).1
  have few : (round.allFindings.filter
      fun finding => finding.presence && finding.publicKey.isNone).length ≤ spareKeys history := by
    have nodup : (round.allFindings.map (·.identity)).Nodup :=
      List.pairwise_map.2 (findings.values_ascending.imp Table.ne_of_compare_lt)
    rw [← List.length_map (·.identity),
      ← List.toFinset_card_of_nodup (nodup.sublist (List.filter_sublist.map _))]
    refine (Finset.card_le_card fun person mem => ?_).trans (card_keyless_le enough)
    obtain ⟨finding, chosen, rfl⟩ := List.mem_map.1 (List.mem_toFinset.1 mem)
    obtain ⟨mem, keyless⟩ := List.mem_filter.1 chosen
    rw [Bool.and_eq_true, (noted finding mem).1, (noted finding mem).2, Option.isNone_iff_eq_none,
      ← Option.not_isSome_iff_eq_none, lastKey_isSome] at keyless
    exact Finset.mem_sdiff.2 keyless
  refine ⟨noted, few, fun once own finding mem present => ?_⟩
  rw [spareKeys_eq_zero once own, Nat.le_zero, List.length_eq_zero_iff, List.filter_eq_nil_iff] at few
  have has_key := few finding mem
  rw [present, Bool.true_and, Option.isNone_iff_eq_none] at has_key
  exact Option.isSome_iff_ne_none.2 has_key

/-- The roster matches Alice and Carol, Alice and Bob are present, and each of the two has a key. -/
theorem keyless_le_spare_none :
    let start := Round.start [⟨"a@x"⟩, ⟨"c@x"⟩] 2 ⟨0⟩
    let presence (person : Identity) : Event := .presence ⟨⟨0⟩, person, none, none, none, false⟩
    let events : List Event := [.connected, .rosterMatch ⟨3⟩ [⟨"a@x"⟩, ⟨"c@x"⟩], presence ⟨"b@x"⟩,
      .publicKey ⟨1⟩ ⟨"a@x"⟩ [1], presence ⟨"a@x"⟩, .publicKey ⟨1⟩ ⟨"b@x"⟩ [2]]
    let findings : List Finding := [
      { identity := ⟨"a@x"⟩, matched := true, presence := true, publicKey := some [1] },
      { identity := ⟨"b@x"⟩, presence := true, publicKey := some [2] },
      { identity := ⟨"c@x"⟩, matched := true }]
    ((start.after events).step (.blocklist ⟨2⟩ [])).outcome = some (.completed findings) ∧
      ∀ finding ∈ findings, finding.presence = true → finding.publicKey.isSome = true := by
  intro start presence events findings
  have ends : ((start.after events).step (.blocklist ⟨2⟩ [])).outcome =
      some (.completed findings) := by decide +kernel
  have kept := keyless_le_spare _ _ _ events _ findings ends ⟨_, List.mem_cons_self, rfl⟩
  exact ⟨ends, kept.2.2 (by decide +kernel) (by decide +kernel)⟩

/-- Alice's key is enough for Bob, whose presence came alone: he has none in the end. -/
theorem key_stands_in :
    let start := Round.start [⟨"a@x"⟩, ⟨"b@x"⟩] 2 ⟨0⟩
    let events : List Event := [.connected, .rosterMatch ⟨3⟩ [⟨"a@x"⟩, ⟨"b@x"⟩],
      .presence ⟨⟨0⟩, ⟨"b@x"⟩, none, none, none, true⟩, .publicKey ⟨1⟩ ⟨"a@x"⟩ [1]]
    ((start.after events).step (.blocklist ⟨2⟩ [])).outcome = some (.completed [
      { identity := ⟨"a@x"⟩, matched := true, publicKey := some [1] },
      { identity := ⟨"b@x"⟩, matched := true, presence := true }]) := by
  decide +kernel

end Messenger.Discovery

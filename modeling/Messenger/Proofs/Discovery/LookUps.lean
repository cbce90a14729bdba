/-
# What one event means for the look-ups

A person who is subscribed both ways although the roster did not match them is looked up, and given
up if the server does not know them.  An answer is taken by the request that it names; the person
whom it names besides is not looked at.  `Inquiry` is what one event means for this:

    idle        nothing
    asks        a first presence puts the question
    answered    the answer that the server knows the person
    gives_up    the answer that it does not: the subscription is ended

Besides, `CountsMatched` says that the counter of the people who are matched is right, which is all
that an event leaves of it (`countsMatched_of_react`).
-/
import Messenger.Proofs.Discovery.Keys
import Messenger.Proofs.Discovery.Stages

namespace Messenger

/-- The look-up that an event asks for. -/
def Event.lookUp? : Event → Option (RequestId × Identity)
  | .lastActivityRequest id identity => some (id, identity)
  | _ => none

/-- The person whose subscription an event asks to end. -/
def Event.farewell? : Event → Option Identity
  | .unsubscribeRequest identity => some identity
  | _ => none

theorem Event.lookUp?_eq_some {event : Event} {id : RequestId} {identity : Identity} :
    event.lookUp? = some (id, identity) ↔ event = .lastActivityRequest id identity := by
  cases event <;> simp [Event.lookUp?]

theorem Event.farewell?_eq_some {event : Event} {identity : Identity} :
    event.farewell? = some identity ↔ event = .unsubscribeRequest identity := by
  cases event <;> simp [Event.farewell?]

namespace Discovery

/-- The look-ups that were asked for. -/
def lookUps (history : List Handled) : List (RequestId × Identity) :=
  (published history).filterMap Event.lookUp?

/-- The people whose subscription was asked to be ended. -/
def farewells (history : List Handled) : List Identity :=
  (published history).filterMap Event.farewell?

section
variable {history : List Handled} {handled : Handled}

theorem lookUps_snoc : lookUps (history ++ [handled]) =
    lookUps history ++ handled.progress.published.filterMap Event.lookUp? := by
  rw [lookUps, published_snoc, List.filterMap_append, lookUps]

theorem farewells_snoc : farewells (history ++ [handled]) =
    farewells history ++ handled.progress.published.filterMap Event.farewell? := by
  rw [farewells, published_snoc, List.filterMap_append, farewells]

theorem mem_lookUps {id : RequestId} {identity : Identity} :
    (id, identity) ∈ lookUps history ↔ .lastActivityRequest id identity ∈ published history := by
  simp [lookUps, Event.lookUp?_eq_some]

theorem mem_farewells {identity : Identity} :
    identity ∈ farewells history ↔ .unsubscribeRequest identity ∈ published history := by
  simp [farewells, Event.farewell?_eq_some]

theorem asked_of_mem_lookUps {check : RequestId × Identity} (mem : check ∈ lookUps history) :
    Asked .lastActivity check.1 history :=
  ⟨_, mem_lookUps.1 mem, check.2, rfl⟩

end

/-! ## How many are matched -/

namespace Round

/-- The counter of the people who are matched is right. -/
def CountsMatched (round : Round) : Prop :=
  ∃ people : Finset Identity, round.matchedCount = people.card ∧
    ∀ identity, identity ∈ people ↔ (round.finding identity).matched = true

theorem CountsMatched.congr {round next : Round} (counts : round.CountsMatched)
    (count : next.matchedCount = round.matchedCount) (matched : round.Keeps Finding.matched next) :
    next.CountsMatched := by
  obtain ⟨people, card, mem⟩ := counts
  refine ⟨people, count.trans card, fun identity => ?_⟩
  rw [mem, matched identity]

theorem CountsMatched.noteMatch {round : Round} (formed : round.WellFormed)
    (counts : round.CountsMatched) (identity : Identity) :
    (round.noteMatch identity).CountsMatched := by
  have matched := (matches_noteMatch formed identity).matched
  revert matched
  unfold Round.noteMatch
  dsimp only
  split
  case isTrue => exact fun _ => counts
  case isFalse new =>
    intro matched
    obtain ⟨people, card, mem⟩ := counts
    refine ⟨insert identity people, ?_, fun other => ?_⟩
    · rw [Finset.card_insert_of_notMem fun before => new ((mem identity).1 before), ← card]
    · rw [Finset.mem_insert, mem, matched, List.mem_singleton, or_comm]

theorem CountsMatched.noteMatch_all {round : Round} (formed : round.WellFormed)
    (counts : round.CountsMatched) (people : List Identity) :
    (people.foldl Round.noteMatch round).CountsMatched := by
  induction people generalizing round with
  | nil => exact counts
  | cons identity rest ih =>
    exact ih (matches_noteMatch formed identity).formed (counts.noteMatch formed identity)

/-- As many findings have a mark as there are people who have it. -/
theorem length_filter_findings {round : Round} (formed : round.WellFormed) {mark : Finding → Bool}
    (unknown : ∀ identity, mark { identity } = false) {people : Finset Identity}
    (mem : ∀ identity, identity ∈ people ↔ mark (round.finding identity) = true) :
    (round.allFindings.filter mark).length = people.card := by
  have findings := formed.findings
  have nodup : (round.allFindings.map (·.identity)).Nodup :=
    List.pairwise_map.2 (findings.values_ascending.imp Table.ne_of_compare_lt)
  rw [← List.length_map (·.identity),
    ← List.toFinset_card_of_nodup (nodup.sublist (List.filter_sublist.map _))]
  refine congrArg Finset.card (Finset.ext fun identity => ?_)
  rw [List.mem_toFinset, List.mem_map, mem]
  constructor
  · rintro ⟨finding, chosen, rfl⟩
    obtain ⟨listed, marked⟩ := List.mem_filter.1 chosen
    rwa [finding_of_get? (findings.mem_values_iff.1 listed)]
  · intro marked
    cases found : round.findings.get? identity with
    | none =>
      rw [Round.finding, found, Option.getD_none, unknown] at marked
      cases marked
    | some finding =>
      rw [finding_of_get? found] at marked
      exact ⟨finding, List.mem_filter.2 ⟨Table.mem_values.2 ⟨identity, found⟩, marked⟩,
        findings.key_eq found⟩

end Round

/-! ## What one event means -/

/-- What an event means for the look-ups of a round. -/
inductive Inquiry (round : Round) (event : Event) : List Event → Round → Prop
  | idle {requests : List Event} {next : Round}
      (silent : ∀ check ∈ round.openChecks, ¬Question.lastActivity.Answers check.1 event)
      (plain : ∀ request ∈ requests, request.lookUp? = none ∧ request.farewell? = none)
      (checks : next.openChecks = round.openChecks)
      (unsubscribed : next.unsubscribed = round.unsubscribed)
      (discarded : round.Keeps Finding.discarded next) : Inquiry round event requests next
  | asks {next : Round} (identity : Identity)
      (silent : ∀ id, ¬Question.lastActivity.Answers id event)
      (unmatched : (round.finding identity).matched = false)
      (absent : (round.finding identity).presence = false)
      (present : Handled.present? ⟨round, event⟩ = some identity)
      (checks : next.openChecks = round.openChecks ++ [(round.nextId, identity)])
      (unsubscribed : next.unsubscribed = round.unsubscribed)
      (discarded : round.Keeps Finding.discarded next) :
      Inquiry round event [.lastActivityRequest round.nextId identity] next
  | answered {next : Round} (id : RequestId) (identity person : Identity)
      (opened : (id, identity) ∈ round.openChecks)
      (answers : event = .lastActivity id person false)
      (checks : next.openChecks = round.openChecks.filter (·.1 ≠ id))
      (unsubscribed : next.unsubscribed = round.unsubscribed)
      (discarded : round.Keeps Finding.discarded next) : Inquiry round event [] next
  | gives_up {next : Round} (id : RequestId) (identity person : Identity)
      (opened : (id, identity) ∈ round.openChecks)
      (answers : event = .lastActivity id person true)
      (checks : next.openChecks = round.openChecks.filter (·.1 ≠ id))
      (unsubscribed : next.unsubscribed = round.unsubscribed ++ [identity])
      (discarded : ∀ other, (next.finding other).discarded = true ↔
        (round.finding other).discarded = true ∨ other = identity) :
      Inquiry round event [.unsubscribeRequest identity] next

section
variable {round : Round}

theorem afterRoster_plain (round : Round) :
    ∀ request ∈ round.afterRoster.2, request.lookUp? = none ∧ request.farewell? = none := by
  intro request mem
  rcases mem_afterRoster mem with rfl | rfl | rfl <;> exact ⟨rfl, rfl⟩

theorem afterRoster_kept (round : Round) :
    round.afterRoster.1.unsubscribed = round.unsubscribed ∧
      round.afterRoster.1.matchedCount = round.matchedCount := by
  rcases round.afterRoster_cases with ⟨same, -⟩ | ⟨-, same, -⟩ <;> rw [same] <;> exact ⟨rfl, rfl⟩

/-- Only an answer about a last activity answers a look-up. -/
theorem not_answers_lookUp {event : Event}
    (other : ∀ id person notFound, event ≠ .lastActivity id person notFound) (id : RequestId) :
    ¬Question.lastActivity.Answers id event := by
  rintro ⟨person, notFound, eq⟩
  exact other id person notFound eq

theorem inquiry_onConnected : Inquiry round .connected round.onConnected.2 round.onConnected.1 := by
  have silent : ∀ id, ¬Question.lastActivity.Answers id .connected := not_answers_lookUp nofun
  have kept : round.Keeps Finding.discarded round.onConnected.1 := round.keeps_onConnected
  revert kept
  unfold Round.onConnected
  split
  case isTrue =>
    refine .idle (fun check _ => silent check.1) (fun request mem => ?_)
      (Round.afterRoster_findings _).2 (afterRoster_kept _).1
    rcases List.mem_append.1 mem with mem | mem
    · obtain ⟨batch, -, rfl⟩ := List.mem_map.1 mem
      exact ⟨rfl, rfl⟩
    · exact afterRoster_plain _ request mem
  case isFalse => exact .idle (fun check _ => silent check.1) (List.forall_mem_nil _) rfl rfl

theorem inquiry_onRosterMatch (formed : round.WellFormed) (batch : RequestId)
    (matched : List Identity) : Inquiry round (.rosterMatch batch matched)
      (round.onRosterMatch batch matched).2 (round.onRosterMatch batch matched).1 := by
  have silent : ∀ id, ¬Question.lastActivity.Answers id (.rosterMatch batch matched) :=
    not_answers_lookUp nofun
  have kept : round.Keeps Finding.discarded (round.onRosterMatch batch matched).1 :=
    Round.keeps_onRosterMatch (fun _ => rfl) formed batch matched
  revert kept
  unfold Round.onRosterMatch
  split
  case isTrue opened =>
    have noted := (Round.matches_noteMatch_all (formed.closed opened) matched).same
    refine .idle (fun check _ => silent check.1) (afterRoster_plain _) ?_ ?_
    · rw [(Round.afterRoster_findings _).2, noted]
    · rw [(afterRoster_kept _).1, noted]
  case isFalse => exact .idle (fun check _ => silent check.1) (List.forall_mem_nil _) rfl rfl

theorem inquiry_onPresence (formed : round.WellFormed) (presence : Presence) :
    Inquiry round (.presence presence) (round.onPresence presence).2
      (round.onPresence presence).1 := by
  have silent : ∀ id, ¬Question.lastActivity.Answers id (.presence presence) :=
    not_answers_lookUp nofun
  have kept : round.Keeps Finding.discarded (round.onPresence presence).1 :=
    Round.keeps_onPresence (fun _ => rfl) formed presence (fun _ => rfl)
  revert kept
  unfold Round.onPresence
  split
  case isTrue accepted =>
    rw [Bool.and_eq_true, decide_eq_true_eq, decide_eq_true_eq] at accepted
    dsimp only
    split
    case isTrue => exact .idle (fun check _ => silent check.1) (List.forall_mem_nil _) rfl rfl
    case isFalse absent =>
      split
      case isTrue looked =>
        rw [Bool.and_eq_true, Bool.not_eq_true'] at looked
        exact .asks presence.identity silent looked.1 (Bool.eq_false_iff.2 absent) (if_pos accepted)
          rfl rfl
      case isFalse => exact .idle (fun check _ => silent check.1) (List.forall_mem_nil _) rfl rfl
  case isFalse => exact .idle (fun check _ => silent check.1) (List.forall_mem_nil _) rfl rfl

theorem keeps_onPublicKey {α : Type} {part : Finding → α} (formed : round.WellFormed)
    (plain : ∀ finding : Finding, ∀ key, part { finding with publicKey := some key } = part finding)
    (request : RequestId) (identity : Identity) (key : Octets) :
    round.Keeps part (round.onPublicKey request identity key) := by
  unfold Round.onPublicKey
  split
  · cases found : round.findings.get? identity with
    | none => exact fun _ => rfl
    | some finding =>
      have own : finding.identity = identity := formed.findings.key_eq found
      have same : part { finding with publicKey := some key } = part (round.finding identity) := by
        rw [plain, Round.finding_of_get? found]
      exact Round.keeps_note own same
  · exact fun _ => rfl

theorem onPublicKey_same (round : Round) (request : RequestId) (identity : Identity) (key : Octets) :
    round.onPublicKey request identity key = { round with
      findings := (round.onPublicKey request identity key).findings
      keyCount := (round.onPublicKey request identity key).keyCount } := by
  unfold Round.onPublicKey
  split
  · split <;> rfl
  · rfl

theorem noteBlocked_all_same (round : Round) (people : List Identity) :
    people.foldl Round.noteBlocked round =
      { round with findings := (people.foldl Round.noteBlocked round).findings } := by
  induction people generalizing round with
  | nil => rfl
  | cons identity rest ih =>
    have first : round.noteBlocked identity =
        { round with findings := (round.noteBlocked identity).findings } := by
      unfold Round.noteBlocked
      split <;> rfl
    rw [List.foldl_cons, ih, first]

theorem onBlocklist_same (round : Round) (request : RequestId) (blocked : List Identity) :
    round.onBlocklist request blocked = { round with
      findings := (round.onBlocklist request blocked).findings
      blocklistReceived := (round.onBlocklist request blocked).blocklistReceived } := by
  unfold Round.onBlocklist
  split
  · rw [noteBlocked_all_same]
  · rfl

theorem discarded_note (formed : round.WellFormed) (identity other : Identity) :
    ((round.note { round.finding identity with discarded := true }).finding other).discarded = true ↔
      (round.finding other).discarded = true ∨ other = identity := by
  have own := formed.identity_finding identity
  rw [Round.finding_note]
  dsimp only
  rw [own]
  split
  case isTrue same => exact iff_of_true rfl (Or.inr same)
  case isFalse differ => exact (or_iff_left differ).symm

/-- A look-up is answered for the person about whom it asked, whomever the answer names. -/
theorem inquiry_onLastActivity (formed : round.WellFormed)
    (once : ∀ check ∈ round.openChecks, check.2 ∉ round.unsubscribed)
    (request : RequestId) (person : Identity) (notFound : Bool) :
    Inquiry round (.lastActivity request person notFound)
      (round.onLastActivity request notFound).2 (round.onLastActivity request notFound).1 := by
  unfold Round.onLastActivity
  cases found : round.openChecks.lookup request with
  | none =>
    refine .idle ?_ (List.forall_mem_nil _) rfl rfl fun _ => rfl
    rintro check mem ⟨other, answer, eq⟩
    cases eq
    simpa using List.lookup_eq_none_iff.1 found check mem
  | some identity =>
    have opened : (request, identity) ∈ round.openChecks := by
      obtain ⟨before, after, eq, -⟩ := List.lookup_eq_some_iff.1 found
      simp [eq]
    dsimp only
    cases notFound with
    | false => exact .answered request identity person opened rfl rfl rfl fun _ => rfl
    | true =>
      have answered : Round.WellFormed
          { round with openChecks := round.openChecks.filter (·.1 ≠ request) } :=
        ⟨formed.findings, formed.idle⟩
      have fresh := once _ opened
      simp only [Round.discard, if_true]
      rw [if_neg (by simpa [Round.note] using fresh)]
      exact .gives_up request identity person opened rfl rfl rfl (discarded_note answered identity)

theorem inquiry_of_react {event : Event} {reaction : Round × List Event} (formed : round.WellFormed)
    (once : ∀ check ∈ round.openChecks, check.2 ∉ round.unsubscribed)
    (reacts : round.react event = some reaction) : Inquiry round event reaction.2 reaction.1 := by
  unfold Round.react at reacts
  split at reacts
  case h_1 => cases reacts; exact inquiry_onConnected
  case h_2 batch matched => cases reacts; exact inquiry_onRosterMatch formed batch matched
  case h_3 presence => cases reacts; exact inquiry_onPresence formed presence
  case h_4 request identity key =>
    cases reacts
    have silent : ∀ id, ¬Question.lastActivity.Answers id (.publicKey request identity key) :=
      not_answers_lookUp nofun
    refine .idle (fun check _ => silent check.1) (List.forall_mem_nil _) ?_ ?_
      (keeps_onPublicKey formed (fun _ _ => rfl) _ _ _)
    · rw [onPublicKey_same]
    · rw [onPublicKey_same]
  case h_5 request blocked =>
    split at reacts
    · cases reacts
    · cases reacts
      have silent : ∀ id, ¬Question.lastActivity.Answers id (.blocklist request blocked) :=
        not_answers_lookUp nofun
      refine .idle (fun check _ => silent check.1) (List.forall_mem_nil _) ?_ ?_
        (Round.keeps_onBlocklist (fun _ => rfl) formed request blocked)
      · rw [onBlocklist_same]
      · rw [onBlocklist_same]
  case h_6 request person notFound =>
    cases reacts
    exact inquiry_onLastActivity formed once request person notFound
  case h_7 => cases reacts

theorem inquiry_of_ignored {event : Event} (ignores : round.react event = none) :
    Inquiry round event [] round := by
  refine .idle (fun check _ => not_answers_lookUp ?_ check.1) (List.forall_mem_nil _) rfl rfl
    fun _ => rfl
  rintro id person notFound rfl
  cases ignores

theorem countsMatched_of_react {event : Event} {reaction : Round × List Event}
    (formed : round.WellFormed) (counts : round.CountsMatched)
    (reacts : round.react event = some reaction) : reaction.1.CountsMatched := by
  unfold Round.react at reacts
  split at reacts
  case h_1 =>
    cases reacts
    refine counts.congr ?_ round.keeps_onConnected
    unfold Round.onConnected
    split
    · exact (afterRoster_kept _).2
    · rfl
  case h_2 batch matched =>
    cases reacts
    unfold Round.onRosterMatch
    split
    case isTrue opened =>
      have noted := Round.CountsMatched.noteMatch_all (formed.closed opened) counts matched
      exact noted.congr (afterRoster_kept _).2
        (Round.keeps_of_findings (Round.afterRoster_findings _).1)
    case isFalse => exact counts
  case h_3 presence =>
    cases reacts
    refine counts.congr ?_ (Round.keeps_onPresence (fun _ => rfl) formed presence fun _ => rfl)
    unfold Round.onPresence
    split
    · dsimp only
      split
      · rfl
      · split <;> rfl
    · rfl
  case h_4 request identity key =>
    cases reacts
    refine counts.congr ?_ (keeps_onPublicKey formed (fun _ _ => rfl) _ _ _)
    rw [onPublicKey_same]
  case h_5 request blocked =>
    split at reacts
    · cases reacts
    · cases reacts
      refine counts.congr ?_ (Round.keeps_onBlocklist (fun _ => rfl) formed request blocked)
      rw [onBlocklist_same]
  case h_6 request person notFound =>
    cases reacts
    refine counts.congr ?_ (Round.keeps_onLastActivity (fun _ => rfl) formed request notFound)
    unfold Round.onLastActivity
    split
    · rfl
    · dsimp only
      split
      · unfold Round.discard
        dsimp only
        split <;> rfl
      · rfl
  case h_7 => cases reacts

end

namespace Inquiry

variable {round next : Round} {event : Event} {requests : List Event}

theorem mem_openChecks (inquiry : Inquiry round event requests next) (check : RequestId × Identity) :
    check ∈ next.openChecks ↔
      (check ∈ round.openChecks ∧ ¬Question.lastActivity.Answers check.1 event) ∨
        check ∈ requests.filterMap Event.lookUp? := by
  cases inquiry with
  | idle silent plain checks =>
    have none_asked : requests.filterMap Event.lookUp? = [] :=
      List.filterMap_eq_nil_iff.2 fun request mem => (plain request mem).1
    rw [checks, none_asked]
    simpa using fun mem => silent check mem
  | asks identity silent _ _ _ checks =>
    simp [checks, silent, Event.lookUp?]
  | answered id identity person _ answers checks =>
    simpa [checks, answers, Question.Answers] using fun _ => not_congr eq_comm
  | gives_up id identity person _ answers checks =>
    simpa [checks, answers, Question.Answers, Event.lookUp?] using fun _ => not_congr eq_comm

theorem lookUps_cases (inquiry : Inquiry round event requests next) :
    requests.filterMap Event.lookUp? = [] ∨
      ∃ check, requests.filterMap Event.lookUp? = [check] := by
  cases inquiry with
  | idle _ plain =>
    exact Or.inl (List.filterMap_eq_nil_iff.2 fun request mem => (plain request mem).1)
  | asks identity => exact Or.inr ⟨_, rfl⟩
  | answered => exact Or.inl rfl
  | gives_up => exact Or.inl rfl

/-- It is asked for under a new name, at the first presence of a person whom nobody matched. -/
theorem of_mem_lookUps (inquiry : Inquiry round event requests next) {check : RequestId × Identity}
    (mem : check ∈ requests.filterMap Event.lookUp?) :
    check.1 = round.nextId ∧ (round.finding check.2).matched = false ∧
      (round.finding check.2).presence = false ∧
      Handled.present? ⟨round, event⟩ = some check.2 := by
  cases inquiry with
  | idle _ plain =>
    obtain ⟨request, listed, looks⟩ := List.mem_filterMap.1 mem
    rw [(plain request listed).1] at looks
    cases looks
  | asks identity _ unmatched absent present =>
    cases List.mem_singleton.1 mem
    exact ⟨rfl, unmatched, absent, present⟩
  | answered => cases mem
  | gives_up => cases mem

theorem farewells_cases (inquiry : Inquiry round event requests next) :
    (requests.filterMap Event.farewell? = [] ∧ next.unsubscribed = round.unsubscribed ∧
      round.Keeps Finding.discarded next) ∨
    ∃ id identity person, requests.filterMap Event.farewell? = [identity] ∧
      (id, identity) ∈ round.openChecks ∧ event = .lastActivity id person true ∧
      next.unsubscribed = round.unsubscribed ++ [identity] ∧
      ∀ other, (next.finding other).discarded = true ↔
        (round.finding other).discarded = true ∨ other = identity := by
  cases inquiry with
  | idle _ plain _ unsubscribed discarded =>
    have none_asked : requests.filterMap Event.farewell? = [] :=
      List.filterMap_eq_nil_iff.2 fun request mem => (plain request mem).2
    exact Or.inl ⟨none_asked, unsubscribed, discarded⟩
  | asks _ _ _ _ _ _ unsubscribed discarded => exact Or.inl ⟨rfl, unsubscribed, discarded⟩
  | answered _ _ _ _ _ _ unsubscribed discarded => exact Or.inl ⟨rfl, unsubscribed, discarded⟩
  | gives_up id identity person opened answers _ unsubscribed discarded =>
    exact Or.inr ⟨id, identity, person, rfl, opened, answers, unsubscribed, discarded⟩

/-- The subscription is ended exactly if the event answers the person's open look-up, and the server
does not know them. -/
theorem mem_unsubscribeRequest (inquiry : Inquiry round event requests next)
    (named : ∀ check ∈ round.openChecks, ∀ other ∈ round.openChecks, check.1 = other.1 → check = other)
    (identity : Identity) : .unsubscribeRequest identity ∈ requests ↔
      ∃ id person, event = .lastActivity id person true ∧ (id, identity) ∈ round.openChecks := by
  cases inquiry with
  | idle silent plain =>
    refine iff_of_false (fun mem => ?_) ?_
    · have farewell := (plain _ mem).2
      cases farewell
    · rintro ⟨id, person, answers, opened⟩
      exact silent _ opened ⟨person, true, answers⟩
  | asks other silent =>
    refine iff_of_false (by simp) ?_
    rintro ⟨id, person, answers, -⟩
    exact silent id ⟨person, true, answers⟩
  | answered id other person _ answers =>
    refine iff_of_false List.not_mem_nil ?_
    rintro ⟨_, _, eq, -⟩
    rw [answers] at eq
    cases eq
  | gives_up id other person opened answers =>
    rw [List.mem_singleton, Event.unsubscribeRequest.injEq]
    constructor
    · rintro rfl
      exact ⟨id, person, answers, opened⟩
    · rintro ⟨_, _, eq, still⟩
      rw [answers] at eq
      cases eq
      exact congrArg Prod.snd (named _ still _ opened rfl)

end Inquiry

end Discovery

end Messenger

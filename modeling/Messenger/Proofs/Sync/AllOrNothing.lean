/-
# A sync writes all of its contacts or none

A sync can come to its end in many ways: it does not run at all, there is nobody to ask about, the
round ends, the time is over, the server is lost, or somebody cancels it, before it begins, while
it waits or together with its outcome.  `Ends` lists them, whatever is on the bus, and whichever
way is taken where two are open.  If the store does not fail, what a sync leaves follows from its
result:

    skipped                       everything is as before
    cancelled                     the same, but for the mark if the throttle let it pass
    complete, with exceptions     the same, but for the mark
    complete, without             the mark is cleared

Each piece of work comes first, in closed form; then the two halves of a sync, and last the sync.
-/
import Messenger.Sync.Syncer

namespace Messenger.Sync

/-! ## Work that does not fail -/

/-- No use of the store fails. -/
def Host.Faultless (host : Host) : Prop := ∀ call, host.fault call = none

namespace Work

variable {host : Host}

theorem run_collect (faultless : host.Faultless) (server : String) (store : Store) :
    (collect server).run host { store } =
      (.ok (.ofEntries server store.syncCandidates),
        { store := store.beginResync.store
          tally := { skippedEntries := countShort store.syncCandidates } }) := by
  obtain ⟨settings, cipher, fault⟩ := host
  obtain rfl : fault = fun _ => none := funext faultless
  rfl

theorem run_clear (faultless : host.Faultless) (run : Run) :
    clear.run host run =
      let deleted := run.store.deleteSyncedContacts
      (.ok (),
        { store := deleted.store.commitResync.store
          changes := run.changes ++ deleted.changes ++ []
          tally := { run.tally with deletes := deleted.value } }) := by
  obtain ⟨settings, cipher, fault⟩ := host
  obtain rfl : fault = fun _ => none := funext faultless
  rfl

theorem run_replace (faultless : host.Faultless) (candidates : Candidates)
    (findings : List Discovery.Finding) (run : Run) :
    (replace candidates findings).run host run =
      let deleted := run.store.deleteSyncedContacts
      let written := deleted.store.applyContactBatch
        (rows host.settings host.cipher candidates findings)
      (.ok (),
        { store := written.store.commitResync.store
          changes := run.changes ++ deleted.changes ++ written.changes ++ []
          tally := { run.tally with
            entries := findings.length
            deletes := deleted.value
            inserts := written.value.applied
            skippedEntries := run.tally.skippedEntries + written.value.skipped } }) := by
  obtain ⟨settings, cipher, fault⟩ := host
  obtain rfl : fault = fun _ => none := funext faultless
  rfl

theorem run_giveUp (run : Run) :
    giveUp.run host run =
      (.ok (), { run with
        tally := { run.tally with ioExceptions := run.tally.ioExceptions + 1 } }) := rfl

theorem run_throw (failure : Failure) (run : Run) :
    (throw failure : Work α).run host run = (.error failure, run) := rfl

/-! ## Work that goes through

The same without a word about the host: what is known of work from its going through. -/

section
variable {α β : Type} {start last : Run}

theorem of_bind {work : Work α} {rest : α → Work β} {b : β}
    (runs : (work >>= rest).run host start = (.ok b, last)) :
    ∃ a middle, work.run host start = (.ok a, middle) ∧ (rest a).run host middle = (.ok b, last) := by
  have parts : (work >>= rest).run host start =
      match work.run host start with
      | (.ok a, middle) => (rest a).run host middle
      | (.error failure, middle) => (.error failure, middle) := by
    have bound : ReaderT.run (work >>= rest) host start =
        EStateM.bind (work host) (fun a => rest a host) start := rfl
    unfold Work.run
    rw [bound, EStateM.bind, ReaderT.run]
    cases work host start <;> rfl
  rw [parts] at runs
  split at runs
  case h_1 a middle first => exact ⟨a, middle, first, runs⟩
  case h_2 => cases runs

theorem of_reach {call : StoreCall} {b : Unit} (runs : (reach call).run host start = (.ok b, last)) :
    last = start := by
  obtain ⟨settings, cipher, fault⟩ := host
  obtain ⟨asked, middle, read, rest⟩ := of_bind runs
  cases read
  dsimp only at rest
  split at rest
  · cases rest
  · cases rest
    rfl

theorem of_commit {call : StoreCall} {f : Store → Committed α} {a : α}
    (runs : (commit call f).run host start = (.ok a, last)) :
    a = (f start.store).value ∧ last = { start with
      store := (f start.store).store, changes := start.changes ++ (f start.store).changes } := by
  obtain ⟨_, middle, reached, rest⟩ := of_bind runs
  cases of_reach reached
  cases rest
  exact ⟨rfl, rfl⟩

theorem of_look {call : StoreCall} {f : Store → α} {a : α}
    (runs : (look call f).run host start = (.ok a, last)) : a = f start.store ∧ last = start := by
  obtain ⟨_, middle, reached, rest⟩ := of_bind runs
  cases of_reach reached
  cases rest
  exact ⟨rfl, rfl⟩

theorem of_collect {server : String} {store : Store} {candidates : Candidates}
    (runs : (collect server).run host { store } = (.ok candidates, last)) :
    candidates = .ofEntries server store.syncCandidates ∧ last =
      { store := store.beginResync.store
        tally := { skippedEntries := countShort store.syncCandidates } } := by
  obtain ⟨_, _, marked, rest⟩ := of_bind runs
  obtain ⟨entries, _, listed, rest⟩ := of_bind rest
  obtain ⟨-, rfl⟩ := of_commit marked
  obtain ⟨rfl, rfl⟩ := of_look listed
  cases rest
  exact ⟨rfl, rfl⟩

end

end Work

/-! ## The ways in which a sync ends -/

/-- What can happen to a sync while it waits. -/
inductive Incident where
  | heard (event : Event)
  | cancelled

namespace Wait

/-- A wait after something has happened. -/
def meet (wait : Wait) : Incident → Wait
  | .heard event => (wait.hear event).1
  | .cancelled => wait.cancel

/-- A wait after one thing after the other has happened. -/
def meetAll (wait : Wait) (incidents : List Incident) : Wait := incidents.foldl meet wait

@[simp] theorem meet_candidates (wait : Wait) (incident : Incident) :
    (wait.meet incident).candidates = wait.candidates := by
  cases incident <;> rfl

@[simp] theorem meet_tally (wait : Wait) (incident : Incident) :
    (wait.meet incident).tally = wait.tally := by
  cases incident <;> rfl

/-- A sync waits for what it has asked about. -/
@[simp] theorem meetAll_candidates (wait : Wait) (incidents : List Incident) :
    (wait.meetAll incidents).candidates = wait.candidates := by
  induction incidents generalizing wait with
  | nil => rfl
  | cons incident rest ih => exact (ih _).trans (meet_candidates wait incident)

/-- Nothing is counted while a sync waits. -/
@[simp] theorem meetAll_tally (wait : Wait) (incidents : List Incident) :
    (wait.meetAll incidents).tally = wait.tally := by
  induction incidents generalizing wait with
  | nil => rfl
  | cons incident rest ih => exact (ih _).trans (meet_tally wait incident)

end Wait

/-- The end of a sync that has asked its question, if nobody else has written to the store. -/
def Question.close (question : Question) (host : Host) (wait : Wait) (ending : Ending)
    (later : Nat) : Conclusion :=
  let conclusion := question.syncer.finish host wait ending later
  { conclusion with changes := question.changes ++ conclusion.changes }

/-- The sync can come to this conclusion.  The last but one says whether it was cancelled before it
began, or before it took what its round had found. -/
inductive Syncer.Ends (syncer : Syncer) (host : Host) (forced cancelled : Bool) (now : Nat)
    (first : RequestId) : Bool → Conclusion → Prop where
  /-- It ends without a question. -/
  | atOnce {conclusion : Conclusion} :
      syncer.begin host forced cancelled now first = .over conclusion →
      syncer.Ends host forced cancelled now first cancelled conclusion
  /-- It waits, and any way to end that is open can be taken.  More can happen between that and the
  look whether it is cancelled. -/
  | waited {question : Question} {ending : Ending} {later : Nat} (incidents more : List Incident) :
      syncer.begin host forced cancelled now first = .waiting question →
      ending ∈ (question.wait.meetAll incidents).endings later →
      syncer.Ends host forced cancelled now first
        ((question.wait.meetAll incidents).meetAll more).cancelled
        (question.close host ((question.wait.meetAll incidents).meetAll more) ending later)

namespace Syncer

/-- The sync runs: there is a server to ask, nobody has cancelled it, and the throttle lets it
pass. -/
structure Passes (syncer : Syncer) (host : Host) (forced cancelled : Bool) (now : Nat) : Prop where
  online : host.settings.offlineMode = false
  server : host.settings.endpointServer.isSome
  wanted : cancelled = false
  allowed : syncer.throttle.allows host.settings.minSyncInterval now forced

variable {syncer : Syncer} {host : Host} {forced cancelled : Bool} {now : Nat}

theorem begin_of_server {server : String} (first : RequestId)
    (named : host.settings.endpointServer = some server)
    (passes : syncer.Passes host forced cancelled now) :
    syncer.begin host forced cancelled now first =
      { syncer with throttle := ⟨some now⟩ }.work host server now first := by
  have claimed := Throttle.claim?_eq_some.2 ⟨passes.allowed, rfl⟩
  simp [begin, passes.online, named, passes.wanted, claimed]

theorem begin_of_passes (first : RequestId) (passes : syncer.Passes host forced cancelled now) :
    ∃ server, syncer.begin host forced cancelled now first =
      { syncer with throttle := ⟨some now⟩ }.work host server now first := by
  obtain ⟨server, named⟩ := Option.isSome_iff_exists.1 passes.server
  exact ⟨server, begin_of_server first named passes⟩

theorem begin_of_not_passes (first : RequestId)
    (passes : ¬syncer.Passes host forced cancelled now) :
    ∃ result, syncer.begin host forced cancelled now first = .over { syncer, result } ∧
      (result = .error .cancelled ∨ (∃ obstacle, result = .ok (.skipped obstacle)) ∧
        (cancelled = true → host.settings.offlineMode = false →
          host.settings.endpointServer = none)) := by
  unfold begin
  split
  case isTrue offline =>
    exact ⟨_, rfl, Or.inr ⟨⟨_, rfl⟩, fun _ online => absurd offline (by simp [online])⟩⟩
  case isFalse online =>
    split
    case h_1 unnamed => exact ⟨_, rfl, Or.inr ⟨⟨_, rfl⟩, fun _ _ => unnamed⟩⟩
    case h_2 server named =>
      split
      case isTrue => exact ⟨_, rfl, Or.inl rfl⟩
      case isFalse wanted =>
        split
        case h_1 => exact ⟨_, rfl, Or.inr ⟨⟨_, rfl⟩, fun cancelled => absurd cancelled wanted⟩⟩
        case h_2 throttle claimed =>
          have allowed := (Throttle.claim?_eq_some.1 claimed).1
          exact absurd ⟨by simpa using online, by simp [named], by simpa using wanted, allowed⟩
            passes

end Syncer

/-! ## The two halves of a sync -/

/-- The sync breaks off with the store like this, and says so. -/
structure Conclusion.BreaksOff (conclusion : Conclusion) (store : Store) : Prop where
  store : conclusion.syncer.store = store
  silent : conclusion.changes = []
  result : conclusion.result = .error .cancelled ∨
    ∃ tally, conclusion.result = .ok (.completed tally) ∧ 0 < tally.ioExceptions

/-- The sync goes through to its end, and clears the mark. -/
structure Conclusion.GoesThrough (conclusion : Conclusion) : Prop where
  cleared : conclusion.syncer.store.resyncPending = false
  result : ∃ tally, conclusion.result = .ok (.completed tally) ∧ tally.ioExceptions = 0

namespace Syncer

variable {syncer : Syncer} {host : Host} {now : Nat} {first : RequestId}

theorem work_of_faultless (faultless : host.Faultless) (server : String) :
    let run : Run :=
      { store := syncer.store.beginResync.store
        tally := { skippedEntries := countShort syncer.store.syncCandidates } }
    let candidates := Candidates.ofEntries server syncer.store.syncCandidates
    syncer.work host server now first =
      if candidates.rows.isEmpty then
        .over (syncer.conclude (.ok ()) (Work.clear.run host run).2 now)
      else .waiting (syncer.discover host candidates run now first) := by
  intro run candidates
  unfold work
  rw [Work.run_collect faultless]
  show (if candidates.rows.isEmpty then
      Progress.over (syncer.conclude (Work.clear.run host run).1 (Work.clear.run host run).2 now)
    else Progress.waiting (syncer.discover host candidates run now first)) = _
  rw [Work.run_clear faultless]

theorem finish_of_run {wait : Wait} {ending : Ending} {result : Except Failure Unit} {run : Run}
    (last : (lastWork wait ending).run host { store := syncer.store, tally := wait.tally } =
      (result, run)) :
    syncer.finish host wait ending now = syncer.conclude result run now := by
  unfold finish
  rw [last]

/-- A sync that has asked its question breaks off as it is or goes through, and it goes through only
if it is not cancelled. -/
theorem finish_cases (faultless : host.Faultless) (wait : Wait) (ending : Ending)
    (counted : wait.tally.ioExceptions = 0) :
    (syncer.finish host wait ending now).BreaksOff syncer.store ∨
      wait.cancelled = false ∧ (syncer.finish host wait ending now).GoesThrough := by
  have thrown (last : lastWork wait ending = throw .cancelled) :
      (syncer.finish host wait ending now).BreaksOff syncer.store := by
    rw [finish_of_run (by rw [last, Work.run_throw])]
    exact ⟨rfl, rfl, Or.inl rfl⟩
  have gaveUp (last : lastWork wait ending = Work.giveUp) :
      (syncer.finish host wait ending now).BreaksOff syncer.store := by
    rw [finish_of_run (by rw [last, Work.run_giveUp])]
    exact ⟨rfl, rfl, Or.inr ⟨_, rfl, Nat.succ_pos _⟩⟩
  cases ending with
  | cancelled => exact Or.inl (thrown rfl)
  | expired => exact Or.inl (gaveUp rfl)
  | outcome outcome =>
    cases outcome with
    | unavailable => exact Or.inl (gaveUp rfl)
    | completed findings =>
      cases cancelled : wait.cancelled with
      | true => exact Or.inl (thrown (if_pos cancelled))
      | false =>
        have last : lastWork wait (.outcome (.completed findings)) =
            Work.replace wait.candidates findings := if_neg (ne_true_of_eq_false cancelled)
        rw [finish_of_run (by rw [last, Work.run_replace faultless])]
        exact Or.inr ⟨rfl, rfl, _, rfl, counted⟩

end Syncer

/-! ## The sync -/

namespace Syncer.Ends

variable {syncer : Syncer} {host : Host} {forced cancelled stopped : Bool} {now : Nat}
  {first : RequestId} {conclusion : Conclusion}

/-- A sync that runs breaks off with nothing written but the mark, or goes through; and it goes
through only if it is not cancelled before it takes what its round has found. -/
theorem of_passes (faultless : host.Faultless) (passes : syncer.Passes host forced cancelled now)
    (ends : syncer.Ends host forced cancelled now first stopped conclusion) :
    conclusion.BreaksOff { syncer.store with resyncPending := true } ∨
      stopped = false ∧ conclusion.GoesThrough := by
  obtain ⟨server, eq⟩ := begin_of_passes first passes
  rw [work_of_faultless faultless] at eq
  cases ends with
  | atOnce ended =>
    rw [eq] at ended
    split at ended
    · cases ended
      rw [Work.run_clear faultless]
      exact Or.inr ⟨passes.wanted, rfl, _, rfl, rfl⟩
    · cases ended
  | waited incidents more waits _ =>
    rw [eq] at waits
    split at waits
    · cases waits
    · cases waits
      exact finish_cases faultless _ _ (by simp only [Wait.meetAll_tally]; rfl)

theorem of_not_passes (passes : ¬syncer.Passes host forced cancelled now)
    (ends : syncer.Ends host forced cancelled now first stopped conclusion) :
    conclusion.syncer = syncer ∧ conclusion.changes = [] ∧
      (conclusion.result = .error .cancelled ∨
        (∃ obstacle, conclusion.result = .ok (.skipped obstacle)) ∧
          (stopped = true → host.settings.offlineMode = false →
            host.settings.endpointServer = none)) := by
  obtain ⟨result, eq, what⟩ := begin_of_not_passes first passes
  cases ends with
  | atOnce ended =>
    rw [eq] at ended
    cases ended
    exact ⟨rfl, rfl, what⟩
  | waited _ _ waits _ =>
    rw [eq] at waits
    cases waits

/-- What a sync leaves follows from its result.  One that is skipped, or cancelled before it runs,
leaves everything as it was; one that runs and is cancelled, or counts an exception, leaves
everything but the mark as it was; any other clears the mark.  A sync that is cancelled before it
takes what its round has found is never of the last kind. -/
theorem writes_all_or_nothing (faultless : host.Faultless)
    (ends : syncer.Ends host forced cancelled now first stopped conclusion) :
    (match conclusion.result with
      | .ok (.skipped _) => conclusion.syncer = syncer ∧ conclusion.changes = []
      | .error failure =>
        failure = .cancelled ∧ conclusion.changes = [] ∧
          (syncer.Passes host forced cancelled now →
            conclusion.syncer.store = { syncer.store with resyncPending := true }) ∧
          (¬syncer.Passes host forced cancelled now → conclusion.syncer = syncer)
      | .ok (.completed tally) =>
        syncer.Passes host forced cancelled now ∧
          (tally.ioExceptions = 0 → conclusion.syncer.store.resyncPending = false) ∧
          (0 < tally.ioExceptions →
            conclusion.syncer.store = { syncer.store with resyncPending := true } ∧
              conclusion.changes = [])) ∧
      (stopped = true → host.settings.offlineMode = false → host.settings.endpointServer.isSome →
        conclusion.result = .error .cancelled ∨
          ∃ tally, conclusion.result = .ok (.completed tally) ∧ 0 < tally.ioExceptions) := by
  by_cases passes : syncer.Passes host forced cancelled now
  case neg =>
    obtain ⟨kept, silent, eq | ⟨⟨obstacle, eq⟩, unnamed⟩⟩ := ends.of_not_passes passes
    · rw [eq]
      exact ⟨⟨rfl, silent, fun present => absurd present passes, fun _ => kept⟩,
        fun _ _ _ => Or.inl rfl⟩
    · rw [eq]
      refine ⟨⟨kept, silent⟩, fun stopped online server => ?_⟩
      cases (unnamed stopped online).symm ▸ server
  case pos =>
    obtain off | ⟨unstopped, through⟩ := ends.of_passes faultless passes
    · refine ⟨?_, fun _ _ _ => off.result⟩
      obtain eq | ⟨tally, eq, pos⟩ := off.result
      · rw [eq]
        exact ⟨rfl, off.silent, fun _ => off.store, fun absent => absurd passes absent⟩
      · rw [eq]
        exact ⟨passes, fun zero => absurd zero (Nat.ne_of_gt pos), fun _ => ⟨off.store, off.silent⟩⟩
    · obtain ⟨tally, eq, zero⟩ := through.result
      rw [eq]
      refine ⟨⟨passes, fun _ => through.cleared, fun pos => absurd zero (Nat.ne_of_gt pos)⟩, ?_⟩
      exact fun stopped => absurd (unstopped.symm.trans stopped) Bool.false_ne_true

/-- A sync that is cancelled when its round has come to its end writes nothing, even if it is the
outcome that it takes. -/
theorem outcome_dropped :
    let entry : AddressBookEntry := { lookupKey := "k", number := "1234", displayName := none }
    let syncer : Syncer := { store := { addressBook := (∅ : Table _ _).put "k" entry } }
    let host : Host := { settings := { endpointServer := some "x" } }
    let incidents : List Incident :=
      [.heard .connected, .heard (.blocklist ⟨2⟩ []), .heard (.rosterMatch ⟨3⟩ []), .cancelled]
    let ending : Ending := .outcome (.completed [])
    ∃ question : Question,
      let wait := question.wait.meetAll incidents
      let conclusion := question.close host wait ending 0
      host.Faultless ∧ ending ∈ wait.endings 0 ∧
        syncer.Ends host true false 0 ⟨0⟩ true conclusion ∧
        conclusion.result = .error .cancelled ∧
        conclusion.syncer.store = { syncer.store with resyncPending := true } := by
  intro entry syncer host incidents ending
  have faultless : host.Faultless := fun _ => rfl
  have passes : syncer.Passes host true false 0 := ⟨rfl, rfl, rfl, rfl⟩
  obtain ⟨question, waits, complete⟩ : ∃ question,
      syncer.begin host true false 0 ⟨0⟩ = .waiting question ∧
        (question.wait.meetAll incidents).outcome = some (.completed []) := by
    refine ⟨_, (work_of_faultless faultless "x").trans (if_neg ?_), ?_⟩
    · decide +kernel
    · decide +kernel
  have taken : ending ∈ (question.wait.meetAll incidents).endings 0 := by
    simp [ending, Wait.endings, Wait.ending?, complete]
  have ends : syncer.Ends host true false 0 ⟨0⟩ true
      (question.close host (question.wait.meetAll incidents) ending 0) :=
    waited incidents [] waits taken
  have result : (question.close host (question.wait.meetAll incidents) ending 0).result =
      .error .cancelled := rfl
  have kept := (ends.writes_all_or_nothing faultless).1
  rw [result] at kept
  exact ⟨question, faultless, taken, ends, result, kept.2.2.1 passes⟩

end Syncer.Ends

end Messenger.Sync

/-
# What a sync writes when it goes through

A sync that asks about somebody and counts no exception has taken what its round has found.  It puts
that in place of the contacts of the sync before, whatever they were:

    given up by the server         no row
    an address without a server    refused, and counted as left out
    any other                      one contact                          (`kept`)
    ourselves, if among those      the same as our profile

What a contact says is `Describes`, field by field; all that a sync leaves is `Replaces`.  First
come the candidates, then the rows of a batch one by one, and then the wait, which ends with an
outcome only if its round has told it.
-/
import Messenger.Proofs.Discovery.Invariants
import Messenger.Proofs.Store.Writes
import Messenger.Proofs.Sync.AllOrNothing
import Mathlib.Data.List.Forall2

namespace Messenger.Sync

open Discovery (Finding Round)

/-! ## Whom the address book stands for -/

/-- The entry that stands for an account: the first one, in the order of the keys, whose number is
long enough and gives this account. -/
def entryFor? (server : String) (entries : List AddressBookEntry) (identity : Identity) :
    Option AddressBookEntry :=
  entries.find? fun entry => isLookedUp entry && Identity.ofNumber entry.number server = identity

namespace Candidates

theorem get?_add (server : String) (candidates : Candidates) (entry : AddressBookEntry)
    (identity : Identity) : (candidates.add server entry).get? identity =
      (candidates.get? identity <|>
        if Identity.ofNumber entry.number server = identity then some entry else none) := by
  unfold add
  cases found : candidates.get? (Identity.ofNumber entry.number server) with
  | some other =>
    by_cases same : Identity.ofNumber entry.number server = identity
    · simp [Table.has, found, ← same]
    · simp [Table.has, found, same]
  | none =>
    by_cases same : Identity.ofNumber entry.number server = identity
    · simp [Table.has, found, ← same]
    · simp [Table.has, found, same, Ne.symm same]

theorem get?_foldl_add (server : String) (entries : List AddressBookEntry) (candidates : Candidates)
    (identity : Identity) : ((entries.filter isLookedUp).foldl (add server) candidates).get? identity =
      (candidates.get? identity <|> entryFor? server entries identity) := by
  induction entries generalizing candidates with
  | nil => simp [entryFor?]
  | cons entry rest ih =>
    cases long : isLookedUp entry with
    | false => simp [entryFor?, long, ih]
    | true =>
      simp only [List.filter_cons, long, if_true, List.foldl_cons, ih, get?_add, entryFor?,
        List.find?_cons, Bool.true_and]
      by_cases same : Identity.ofNumber entry.number server = identity
      · simp [same]
      · simp [same]

/-- The first entry of an account stands for it. -/
theorem get?_ofEntries (server : String) (entries : List AddressBookEntry) (identity : Identity) :
    (ofEntries server entries).get? identity = entryFor? server entries identity := by
  rw [ofEntries, get?_foldl_add, Table.get?_empty]
  rfl

theorem rows_ne_nil (server : String) {entries : List AddressBookEntry} {entry : AddressBookEntry}
    (mem : entry ∈ entries) (long : isLookedUp entry) : (ofEntries server entries).rows ≠ [] := by
  have found : (entryFor? server entries (Identity.ofNumber entry.number server)).isSome :=
    List.find?_isSome.2 ⟨entry, mem, by simp [long]⟩
  obtain ⟨first, found⟩ := Option.isSome_iff_exists.1 found
  rw [← get?_ofEntries, Table.get?_eq_some_iff] at found
  exact List.ne_nil_of_mem found

end Candidates

/-! ## What a contact says -/

def kept (findings : List Finding) : List Finding :=
  findings.filter fun finding => !finding.discarded && finding.identity.hasServer

def refused (findings : List Finding) : List Finding :=
  findings.filter fun finding => !finding.discarded && !finding.identity.hasServer

/-- The contact tells what the round has found about a person, and what the address book knows. -/
structure Describes (cipher : Cipher) (entry : Option AddressBookEntry) (finding : Finding)
    (contact : Contact) : Prop where
  identity : contact.identity = finding.identity
  registered : contact.registered = true
  status : contact.status = finding.status
  lastSeen : contact.lastSeen = finding.timestamp
  publicKey : contact.publicKey = finding.publicKey
  fingerprint : contact.fingerprint = finding.publicKey.map cipher.fingerprint
  blocked : contact.blocked = finding.blocked
  listed : ∀ found, entry = some found →
    contact.number = found.number ∧ contact.lookupKey = some found.lookupKey
  unlisted : entry = none →
    contact.number = finding.identity.localPart ∧ contact.lookupKey = none
  /-- The first name that there is. -/
  displayName : some contact.displayName =
    [entry.bind (·.displayName), finding.publicKey.bind cipher.keyName, finding.rosterName,
      some contact.number].findSome? id

theorem describes_contactOf (cipher : Cipher) (entry : Option AddressBookEntry) (finding : Finding) :
    Describes cipher entry finding (contactOf cipher entry finding) where
  identity := rfl
  registered := rfl
  status := rfl
  lastSeen := rfl
  publicKey := rfl
  fingerprint := rfl
  blocked := rfl
  listed := by
    rintro found rfl
    exact ⟨rfl, rfl⟩
  unlisted := by
    rintro rfl
    exact ⟨rfl, rfl⟩
  displayName := by
    show some (displayNameOf cipher entry finding) = List.findSome? id
      [entry.bind (·.displayName), finding.publicKey.bind cipher.keyName, finding.rosterName,
        some (numberOf entry finding)]
    unfold displayNameOf
    cases entry.bind (·.displayName) <;> cases finding.publicKey.bind cipher.keyName <;>
      cases finding.rosterName <;> rfl

/-! ## The rows of a batch -/

theorem isValid_eq (contact : Contact) : contact.isValid = contact.identity.hasServer := by
  unfold Contact.isValid
  cases server : contact.identity.hasServer with
  | false => rw [Bool.and_false]
  | true =>
    have text : contact.identity.isEmpty = false := by
      rw [Identity.isEmpty, decide_eq_false_iff_not]
      intro empty
      rw [Identity.hasServer, empty] at server
      cases server
    rw [text]
    rfl

section
variable (settings : Settings) (cipher : Cipher) (candidates : Candidates)

def contactFor (finding : Finding) : Contact :=
  contactOf cipher (candidates.get? finding.identity) finding

/-- Whether one of the findings is about ourselves. -/
def ownAmong (findings : List Finding) : Bool := findings.any (settings.isSelf ·.identity)

theorem filter_rowsOf (keep : Bool → Bool) (finding : Finding) :
    (rowsOf settings cipher candidates finding).filter (keep ·.contact.isValid) =
      if keep finding.identity.hasServer then rowsOf settings cipher candidates finding else [] := by
  have valid : (contactOf cipher (candidates.get? finding.identity) finding).isValid =
      finding.identity.hasServer := isValid_eq _
  cases keeps : keep finding.identity.hasServer <;> unfold rowsOf <;> split <;>
    simp [ContactOp.contact, valid, keeps]

theorem filter_rows (keep : Bool → Bool) (findings : List Finding) :
    (rows settings cipher candidates findings).filter (keep ·.contact.isValid) =
      (findings.filter fun finding => !finding.discarded && keep finding.identity.hasServer).flatMap
        (rowsOf settings cipher candidates) := by
  induction findings with
  | nil => rfl
  | cons finding rest ih =>
    unfold rows at ih ⊢
    cases gone : finding.discarded with
    | true => simpa [gone] using ih
    | false =>
      cases keeps : keep finding.identity.hasServer <;>
        simp [gone, keeps, filter_rowsOf, ih]

/-- Different people, in the order of their identities. -/
abbrev Ascending (findings : List Finding) : Prop :=
  findings.Pairwise fun a b => compare a.identity b.identity = .lt

theorem not_ownAmong_rest {settings : Settings} {finding : Finding} {rest : List Finding}
    (ascending : Ascending (finding :: rest)) (own : settings.isSelf finding.identity) :
    ownAmong settings rest = false := by
  obtain ⟨first, -⟩ := List.pairwise_cons.1 ascending
  refine List.any_eq_false.2 fun other mem same => ?_
  have own : settings.selfIdentity = some finding.identity := by simpa [Settings.isSelf] using own
  have same : settings.selfIdentity = some other.identity := by simpa [Settings.isSelf] using same
  exact Table.ne_of_compare_lt (first other mem) (Option.some.inj (own.symm.trans same))

theorem length_flatMap_rowsOf {findings : List Finding} (ascending : Ascending findings) :
    (findings.flatMap (rowsOf settings cipher candidates)).length =
      findings.length + if ownAmong settings findings then 1 else 0 := by
  induction findings with
  | nil => rfl
  | cons finding rest ih =>
    have more : ownAmong settings (finding :: rest) =
        (settings.isSelf finding.identity || ownAmong settings rest) := List.any_cons
    rw [List.flatMap_cons, List.length_append, ih (List.pairwise_cons.1 ascending).2, more, rowsOf]
    cases own : settings.isSelf finding.identity with
    | false =>
      simp
      omega
    | true =>
      simp [not_ownAmong_rest ascending own]
      omega

theorem foldl_rowsOf (store : Store) (finding : Finding) :
    (rowsOf settings cipher candidates finding).foldl Store.applyContactOp store =
      let contact := contactFor cipher candidates finding
      { store with
        contacts := store.contacts.put finding.identity contact
        profile := if settings.isSelf finding.identity then some contact else store.profile } := by
  unfold rowsOf
  split <;> rfl

theorem rows_foldl_rowsOf {findings : List Finding} (ascending : Ascending findings) (store : Store)
    (above : ∀ row ∈ store.contacts.rows, ∀ finding ∈ findings,
      compare row.1 finding.identity = .lt) :
    ((findings.flatMap (rowsOf settings cipher candidates)).foldl
        Store.applyContactOp store).contacts.rows =
      store.contacts.rows ++
        findings.map fun finding => (finding.identity, contactFor cipher candidates finding) := by
  induction findings generalizing store with
  | nil => exact (List.append_nil _).symm
  | cons finding rest ih =>
    obtain ⟨first, later⟩ := List.pairwise_cons.1 ascending
    have last := Table.rows_put_of_above (contactFor cipher candidates finding)
      fun row mem => above row mem finding List.mem_cons_self
    rw [List.flatMap_cons, List.foldl_append, foldl_rowsOf, ih later _]
    · simp only [last, List.append_assoc, List.singleton_append, List.map_cons]
    · intro row mem other later
      rw [last] at mem
      rcases List.mem_append.1 mem with mem | mem
      · exact above row mem other (List.mem_cons_of_mem _ later)
      · rw [List.mem_singleton.1 mem]
        exact first other later

theorem profile_foldl_rowsOf {findings : List Finding} (ascending : Ascending findings)
    (store : Store) :
    ((findings.flatMap (rowsOf settings cipher candidates)).foldl
        Store.applyContactOp store).profile =
      match findings.find? (settings.isSelf ·.identity) with
      | some own => some (contactFor cipher candidates own)
      | none => store.profile := by
  induction findings generalizing store with
  | nil => rfl
  | cons finding rest ih =>
    rw [List.flatMap_cons, List.foldl_append, foldl_rowsOf, ih (List.pairwise_cons.1 ascending).2]
    cases own : settings.isSelf finding.identity with
    | false => simp [own]
    | true =>
      have others := not_ownAmong_rest ascending own
      rw [ownAmong, List.any_eq_false] at others
      have others : rest.find? (settings.isSelf ·.identity) = none := List.find?_eq_none.2 others
      simp [own, others]

end

/-! ## All that is left -/

/-- What a sync that goes through leaves, if its round has found this: it may have any contacts and
any profile to begin with. -/
structure Replaces (host : Host) (server : String) (findings : List Finding) (before after : Store)
    (tally : Tally) : Prop where
  contacts : List.Forall₂
    (fun (finding : Finding) (row : Identity × Contact) => row.1 = finding.identity ∧
      Describes host.cipher (entryFor? server before.syncCandidates finding.identity) finding row.2)
    (kept findings) after.contacts.rows
  profile : ownAmong host.settings (kept findings) → ∃ self contact,
    host.settings.selfIdentity = some self ∧ after.contacts.get? self = some contact ∧
      after.profile = some contact
  profile_kept : ¬ownAmong host.settings (kept findings) → after.profile = before.profile
  rest : after = { before with
    contacts := after.contacts, profile := after.profile, resyncPending := false }
  tally : tally =
    { deletes := before.contacts.size
      entries := findings.length
      inserts := after.contacts.size + if ownAmong host.settings (kept findings) then 1 else 0
      skippedEntries := countShort before.syncCandidates + ((refused findings).length +
        if ownAmong host.settings (refused findings) then 1 else 0)
      ioExceptions := 0
      databaseError := false }

section
variable {host : Host} {before : Store} {findings : List Finding}

/-- A batch writes the rows of those who are kept, and refuses those of the others. -/
theorem applyContactBatch_rows (settings : Settings) (cipher : Cipher) (candidates : Candidates)
    (store : Store) (findings : List Finding) :
    let written := store.applyContactBatch (rows settings cipher candidates findings)
    let rowsOf := rowsOf settings cipher candidates
    written.value.applied = ((kept findings).flatMap rowsOf).length ∧
      written.value.skipped = ((refused findings).flatMap rowsOf).length ∧
      written.store = ((kept findings).flatMap rowsOf).foldl Store.applyContactOp store := by
  have valid := filter_rows settings cipher candidates id findings
  have invalid := filter_rows settings cipher candidates not findings
  simp only [id] at valid
  rw [← kept] at valid
  rw [← refused] at invalid
  simp only [Store.applyContactBatch, List.partition_eq_filter_filter, valid, Function.comp_def,
    invalid, and_self]

theorem applyContactBatch_over_empty (settings : Settings) (cipher : Cipher)
    (candidates : Candidates) (store : Store) (empty : store.contacts = ∅)
    (ascending : Ascending (kept findings)) : ∃ contacts profile,
      (store.applyContactBatch (rows settings cipher candidates findings)).store =
        { store with contacts, profile } ∧
      contacts.rows = (kept findings).map
        (fun finding => (finding.identity, contactFor cipher candidates finding)) ∧
      profile = match (kept findings).find? (settings.isSelf ·.identity) with
        | some own => some (contactFor cipher candidates own)
        | none => store.profile := by
  obtain ⟨-, -, written⟩ := applyContactBatch_rows settings cipher candidates store findings
  obtain ⟨contacts, profile, rest⟩ :=
    store.foldl_applyContactOp ((kept findings).flatMap (rowsOf settings cipher candidates))
  refine ⟨contacts, profile, written.trans rest, ?_, ?_⟩
  · have above : ∀ row ∈ store.contacts.rows, ∀ finding ∈ kept findings,
        compare row.1 finding.identity = .lt := by
      rw [empty]
      exact fun row mem => nomatch mem
    have listed := rows_foldl_rowsOf settings cipher candidates ascending store above
    rw [rest, empty] at listed
    exact listed
  · have named := profile_foldl_rowsOf settings cipher candidates ascending store
    rw [rest] at named
    exact named

theorem replaces_of_replace (server : String) (faultless : host.Faultless)
    (ascending : Ascending findings) (run : Run) (marked : run.store = { before with resyncPending := true })
    (counted : run.tally = { skippedEntries := countShort before.syncCandidates }) :
    let done := (Work.replace (.ofEntries server before.syncCandidates) findings).run host run
    done.1 = .ok () ∧ Replaces host server findings before done.2.store done.2.tally := by
  intro done
  have keeps : Ascending (kept findings) := ascending.sublist List.filter_sublist
  have refuses : Ascending (refused findings) := ascending.sublist List.filter_sublist
  let candidates := Candidates.ofEntries server before.syncCandidates
  let emptied : Store := { before with contacts := ∅, resyncPending := true }
  obtain ⟨applied, skipped, -⟩ :=
    applyContactBatch_rows host.settings host.cipher candidates emptied findings
  rw [length_flatMap_rowsOf _ _ _ keeps] at applied
  rw [length_flatMap_rowsOf _ _ _ refuses] at skipped
  obtain ⟨contacts, profile, written, listed, named⟩ :=
    applyContactBatch_over_empty host.settings host.cipher candidates emptied rfl keeps
  have cleared : run.store.deleteSyncedContacts.store = emptied := by rw [marked]; rfl
  have deleted : run.store.deleteSyncedContacts.value = before.contacts.size := by rw [marked]; rfl
  have replaced : done = _ := Work.run_replace faultless candidates findings run
  simp only [cleared, deleted, written, applied, skipped, counted] at replaced
  have store : done.2.store = { before with contacts, profile, resyncPending := false } := by
    rw [replaced]
    rfl
  have size : contacts.size = (kept findings).length := by
    rw [Table.size, listed, List.length_map]
  refine ⟨by rw [replaced], ?_⟩
  rw [store]
  constructor
  case contacts =>
    rw [listed, List.forall₂_map_right_iff, List.forall₂_same]
    intro finding _
    refine ⟨rfl, ?_⟩
    rw [← Candidates.get?_ofEntries]
    exact describes_contactOf _ _ _
  case profile =>
    intro own
    obtain ⟨finding, found⟩ : ∃ finding,
        (kept findings).find? (host.settings.isSelf ·.identity) = some finding :=
      Option.isSome_iff_exists.1 (List.find?_isSome.2 (by simpa [ownAmong] using own))
    have self : host.settings.selfIdentity = some finding.identity := by
      simpa [Settings.isSelf] using List.find?_some found
    refine ⟨finding.identity, contactFor host.cipher candidates finding, self, ?_, ?_⟩
    · rw [Table.get?_eq_some_iff, listed]
      exact List.mem_map_of_mem (List.mem_of_find?_eq_some found)
    · rw [named, found]
  case profile_kept =>
    intro other
    have absent : (kept findings).find? (host.settings.isSelf ·.identity) = none := by
      simpa [ownAmong] using other
    rw [named, absent]
  case rest => rfl
  case tally =>
    rw [replaced, size]

end

/-! ## The wait -/

namespace Wait

variable {wait : Wait} {incidents : List Incident} {outcome : Discovery.Outcome}

theorem outcome_of_mem_endings {now : Nat} (taken : .outcome outcome ∈ wait.endings now) :
    wait.outcome = some outcome := by
  have open_ : some (Ending.outcome outcome) = wait.ending? now := by
    rcases List.mem_append.1 taken with mem | mem
    · split at mem <;> simp at mem
    · exact (Option.mem_toList.1 mem).symm
  unfold ending? at open_
  split at open_
  case h_1 other told =>
    cases open_
    exact told
  case h_2 => split at open_ <;> cases open_

theorem outcome_meetAll_of_some (incidents : List Incident) (told : wait.outcome = some outcome) :
    (wait.meetAll incidents).outcome = some outcome := by
  induction incidents generalizing wait with
  | nil => exact told
  | cons incident rest ih =>
    refine ih ?_
    cases incident with
    | heard event => simp [meet, hear, told]
    | cancelled => exact told

theorem told_of_outcome_meetAll (fresh : wait.outcome = none)
    (told : (wait.meetAll incidents).outcome = some outcome) : ∃ events event,
      ((wait.round.after events).step event).outcome = some outcome := by
  induction incidents generalizing wait with
  | nil => cases fresh.symm.trans told
  | cons incident rest ih =>
    cases incident with
    | cancelled => exact @ih wait.cancel fresh told
    | heard event =>
      have outcome_eq : (wait.meet (.heard event)).outcome = (wait.round.step event).outcome := by
        simp [meet, hear, fresh]
      cases here : (wait.round.step event).outcome with
      | some first =>
        have stays := outcome_meetAll_of_some rest (outcome_eq.trans here)
        cases stays.symm.trans told
        exact ⟨[], event, here⟩
      | none =>
        obtain ⟨events, last, tells⟩ := ih (outcome_eq.trans here) told
        exact ⟨event :: events, last, tells⟩

end Wait

/-! ## The sync -/

namespace Syncer

variable {syncer : Syncer} {host : Host} {wait : Wait} {ending : Ending} {tally : Tally}

/-- A sync that has waited and counts no exception has taken what its round has found. -/
theorem took_findings (now : Nat)
    (completed : (syncer.finish host wait ending now).result = .ok (.completed tally))
    (clean : tally.ioExceptions = 0) : ∃ findings, ending = .outcome (.completed findings) ∧
      lastWork wait ending = Work.replace wait.candidates findings := by
  have thrown (last : lastWork wait ending = throw .cancelled) : False := by
    rw [finish_of_run (by rw [last, Work.run_throw])] at completed
    cases completed
  have gaveUp (last : lastWork wait ending = Work.giveUp) : False := by
    rw [finish_of_run (by rw [last, Work.run_giveUp])] at completed
    cases completed
    exact Nat.succ_ne_zero _ clean
  cases ending with
  | cancelled => exact (thrown rfl).elim
  | expired => exact (gaveUp rfl).elim
  | outcome outcome =>
    cases outcome with
    | unavailable => exact (gaveUp rfl).elim
    | completed findings =>
      cases cancelled : wait.cancelled with
      | true => exact (thrown (if_pos cancelled)).elim
      | false => exact ⟨findings, rfl, if_neg (ne_true_of_eq_false cancelled)⟩

end Syncer

/-- What a sync that has asked its question goes through with is what its round has found. -/
theorem Question.replaces {question : Question} {host : Host} {server : String} {before : Store}
    {incidents more : List Incident} {ending : Ending} {later : Nat} {tally : Tally}
    (faultless : host.Faultless) (fresh : question.wait.outcome = none)
    (asked : question.wait.candidates = .ofEntries server before.syncCandidates)
    (counted : question.wait.tally = { skippedEntries := countShort before.syncCandidates })
    (marked : question.syncer.store = { before with resyncPending := true })
    (ascending : ∀ {events event findings},
      ((question.wait.round.after events).step event).outcome = some (.completed findings) →
        Ascending findings)
    (taken : ending ∈ (question.wait.meetAll incidents).endings later) :
    let conclusion := question.close host ((question.wait.meetAll incidents).meetAll more) ending later
    conclusion.result = .ok (.completed tally) → tally.ioExceptions = 0 →
      ∃ findings, ending = .outcome (.completed findings) ∧
        (question.wait.meetAll incidents).outcome = some (.completed findings) ∧
          Replaces host server findings before conclusion.syncer.store tally := by
  intro conclusion completed clean
  obtain ⟨findings, rfl, last⟩ := Syncer.took_findings later completed clean
  have outcome := Wait.outcome_of_mem_endings taken
  obtain ⟨events, event, told⟩ := Wait.told_of_outcome_meetAll fresh outcome
  let wait := (question.wait.meetAll incidents).meetAll more
  let run : Run := { store := question.syncer.store, tally := question.wait.tally }
  let work := Work.replace (.ofEntries server before.syncCandidates) findings
  obtain ⟨done, replaces⟩ :=
    replaces_of_replace server faultless (ascending told) run marked counted
  have finished : question.syncer.finish host wait (.outcome (.completed findings)) later =
      question.syncer.conclude (.ok ()) (work.run host run).2 later := by
    refine Syncer.finish_of_run ?_
    rw [last, Wait.meetAll_candidates, Wait.meetAll_candidates, Wait.meetAll_tally,
      Wait.meetAll_tally, asked]
    exact Prod.ext done rfl
  have result : conclusion.result = .ok (.completed (work.run host run).2.tally) :=
    congrArg Conclusion.result finished
  have store : conclusion.syncer.store = (work.run host run).2.store :=
    congrArg (·.syncer.store) finished
  cases result.symm.trans completed
  rw [store]
  exact ⟨findings, rfl, outcome, replaces⟩

namespace Syncer.Ends

variable {syncer : Syncer} {host : Host} {forced cancelled stopped : Bool} {now : Nat}
  {first : RequestId} {conclusion : Conclusion} {server : String} {tally : Tally}

/-- A sync with somebody to ask about that completes without an exception has asked its question, and
has put what its round has found in place of the contacts of the sync before. -/
theorem replaces_contacts (faultless : host.Faultless)
    (ends : syncer.Ends host forced cancelled now first stopped conclusion)
    (named : host.settings.endpointServer = some server)
    (someone : ∃ entry ∈ syncer.store.syncCandidates, isLookedUp entry)
    (completed : conclusion.result = .ok (.completed tally)) (clean : tally.ioExceptions = 0) :
    ∃ question incidents more later findings,
      syncer.begin host forced cancelled now first = .waiting question ∧
      (question.wait.meetAll incidents).outcome = some (.completed findings) ∧
      conclusion = question.close host ((question.wait.meetAll incidents).meetAll more)
        (.outcome (.completed findings)) later ∧
      Replaces host server findings syncer.store conclusion.syncer.store tally := by
  have passes : syncer.Passes host forced cancelled now := by
    by_contra blocked
    obtain ⟨-, -, failed | ⟨⟨obstacle, skipped⟩, -⟩⟩ := ends.of_not_passes blocked
    · cases failed.symm.trans completed
    · cases skipped.symm.trans completed
  obtain ⟨entry, mem, long⟩ := someone
  have rows : (Candidates.ofEntries server syncer.store.syncCandidates).rows.isEmpty = false := by
    simpa using Candidates.rows_ne_nil server mem long
  have waiting := begin_of_server first named passes
  rw [work_of_faultless faultless, if_neg (by simpa using rows)] at waiting
  cases ends with
  | atOnce ended => cases ended.symm.trans waiting
  | @waited question ending later incidents more waits taken =>
    refine ⟨question, incidents, more, later, ?_⟩
    cases waits.symm.trans waiting
    obtain ⟨findings, rfl, outcome, replaces⟩ := Question.replaces faultless rfl rfl rfl rfl
      Discovery.findings_ascending taken completed clean
    exact ⟨findings, waits, outcome, rfl, replaces⟩

/-- Of the two people whom the roster holds, we ourselves become a contact and our profile, and the
other, who has no server, is refused; the contact of the sync before is gone. -/
theorem replaces_contacts_own :
    let entry : AddressBookEntry := { lookupKey := "k", number := "1234", displayName := none }
    let old : Contact := { identity := ⟨"old@x"⟩, number := "5", displayName := "old" }
    let syncer : Syncer := { store := {
      addressBook := (∅ : Table _ _).put "k" entry
      contacts := (∅ : Table _ _).put old.identity old } }
    let host : Host := { settings := {
      endpointServer := some "x", selfIdentity := some ⟨"me@x"⟩ } }
    let tally : Tally := { deletes := 1, inserts := 2, entries := 2, skippedEntries := 1 }
    ∃ conclusion, syncer.Ends host true false 0 ⟨0⟩ false conclusion ∧
      conclusion.result = .ok (.completed tally) ∧
      conclusion.syncer.store.contacts.keys = [⟨"me@x"⟩] ∧
      ∃ question incidents more later findings,
        syncer.begin host true false 0 ⟨0⟩ = .waiting question ∧
        (question.wait.meetAll incidents).outcome = some (.completed findings) ∧
        conclusion = question.close host ((question.wait.meetAll incidents).meetAll more)
          (.outcome (.completed findings)) later ∧
        Replaces host "x" findings syncer.store conclusion.syncer.store tally := by
  intro entry old syncer host tally
  let incidents : List Incident := [.heard .connected, .heard (.blocklist ⟨2⟩ []),
    .heard (.rosterMatch ⟨3⟩ [⟨"me@x"⟩, ⟨"nobody"⟩])]
  let findings : List Finding := [
    { identity := ⟨"me@x"⟩, matched := true }, { identity := ⟨"nobody"⟩, matched := true }]
  let ending : Ending := .outcome (.completed findings)
  have faultless : host.Faultless := fun _ => rfl
  obtain ⟨question, waits, outcome, uncancelled, result, written⟩ : ∃ question : Question,
      let wait := question.wait.meetAll incidents
      let conclusion := question.close host wait ending 0
      syncer.begin host true false 0 ⟨0⟩ = .waiting question ∧
        wait.outcome = some (.completed findings) ∧ wait.cancelled = false ∧
        conclusion.result = .ok (.completed tally) ∧
        conclusion.syncer.store.contacts.keys = [⟨"me@x"⟩] := by
    refine ⟨_, (work_of_faultless faultless "x").trans (if_neg ?_), ?_, rfl, ?_, ?_⟩
    all_goals decide +kernel
  have taken : ending ∈ (question.wait.meetAll incidents).endings 0 := by
    simp [ending, Wait.endings, Wait.ending?, outcome]
  have ends := waited incidents [] waits taken
  have unstopped : ((question.wait.meetAll incidents).meetAll []).cancelled = false := uncancelled
  rw [unstopped] at ends
  have someone : ∃ entry ∈ syncer.store.syncCandidates, isLookedUp entry :=
    ⟨entry, List.mem_cons_self, by decide⟩
  exact ⟨_, ends, result, written, ends.replaces_contacts faultless rfl someone result rfl⟩

end Syncer.Ends

end Messenger.Sync

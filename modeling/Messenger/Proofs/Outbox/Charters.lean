/-
# Groups in order

The row of a group is written by five requests of ours and by whatever arrives, in pieces: people are
added and kicked, and the thread is looked up and noted before, between and after.  Four things are so
of every row all the same (`Chartered`):

    its own name     the row stands under the identity that it says    (`own`)
    the list         nobody twice                                      (`Group.Fair`)
    ourselves        never in the list, but a membership               (`Group.Fair`)
    its thread       the one of the identity of the group              (`home`)

Whoever makes the list longer has left us out before (`Fair.addMembers`) or on the way (`Fair.enroll`).
The thread of a row is one that was asked for with the identity of the row, and the outbox removes no
thread.
-/
import Messenger.Proofs.Outbox.Faults
import Messenger.Proofs.Store.Peers

namespace Messenger

/-! ## The list of members -/

namespace Group

/-- Nobody is listed twice, and we are not listed. -/
structure Fair (me : Option Identity) (group : Group) : Prop where
  distinct : group.Distinct
  apart : ∀ self ∈ me, self ∉ group.members.map (·.identity)

namespace Fair

variable {me : Option Identity} {group next : Group}

theorem of_empty (empty : group.members = []) : group.Fair me :=
  ⟨distinct_of_empty empty, fun _ _ => by simp [empty]⟩

theorem of_sublist (fair : group.Fair me)
    (sublist : (next.members.map (·.identity)).Sublist (group.members.map (·.identity))) :
    next.Fair me :=
  ⟨fair.distinct.sublist sublist, fun self mine listed => fair.apart self mine (sublist.subset listed)⟩

theorem of_members (fair : group.Fair me) (same : next.members = group.members) : next.Fair me :=
  fair.of_sublist (same ▸ .refl _)

theorem addMember (fair : group.Fair me) {person : Identity} (other : me ≠ some person) :
    (group.addMember person).Fair me := by
  refine ⟨fair.distinct.addMember person, fun self mine => ?_⟩
  show self ∉ (group.addMember person).people
  rw [people_addMember]
  split
  · exact fair.apart self mine
  · have differ : self ≠ person := fun same => other (same ▸ mine)
    rw [List.mem_append, List.mem_singleton, not_or]
    exact ⟨fair.apart self mine, differ⟩

theorem kickMember (fair : group.Fair me) (person : Identity) : (group.kickMember person).Fair me := by
  have same : (group.kickMember person).members.map (·.identity) = group.members.map (·.identity) :=
    group.people_kickMember person
  exact fair.of_sublist (same ▸ .refl _)

theorem removeMember (fair : group.Fair me) (person : Identity) : (group.removeMember person).Fair me :=
  fair.of_sublist (List.filter_sublist.map _)

theorem foldl (fair : group.Fair me) {edit : Group → Identity → Group} {people : List Identity}
    (keeps : ∀ person ∈ people, ∀ group : Group, group.Fair me → (edit group person).Fair me) :
    (people.foldl edit group).Fair me := by
  induction people generalizing group with
  | nil => exact fair
  | cons person rest ih =>
    refine ih (keeps person List.mem_cons_self group fair) fun other mem => ?_
    exact keeps other (List.mem_cons_of_mem _ mem)

theorem addMembers {self : Identity} (fair : group.Fair (some self)) (people : List Identity) :
    (group.addMembers (people.filter (· ≠ self))).Fair (some self) := by
  refine fair.foldl fun person mem group fair => fair.addMember fun same => ?_
  have differ := (List.mem_filter.1 mem).2
  exact of_decide_eq_true differ (Option.some.inj same).symm

theorem kickMembers (fair : group.Fair me) (people : List Identity) :
    (group.kickMembers people).Fair me :=
  fair.foldl fun person _ _ fair => fair.kickMember person

theorem enroll (fair : group.Fair me) (person : Identity) : (group.enroll me person).Fair me := by
  unfold Group.enroll
  split
  case isTrue => exact fair.of_members rfl
  case isFalse other => exact fair.addMember other

theorem expel (fair : group.Fair me) (person : Identity) : (group.expel me person).Fair me := by
  unfold Group.expel
  split
  · exact fair.of_members rfl
  · exact fair.kickMember person

theorem depart (fair : group.Fair me) (person : Identity) : (group.depart me person).Fair me := by
  unfold Group.depart
  split
  · exact fair.of_members rfl
  · exact fair.removeMember person

/-- Whatever a message does to a group, whoever sent it. -/
theorem applied (fair : group.Fair me) (sender : Identity) (command : Option GroupCommand) :
    (group.applied me sender command).Fair me := by
  have enrolled (people : List Identity) : (people.foldl (Group.enroll me) group).Fair me :=
    fair.foldl fun person _ _ fair => fair.enroll person
  unfold Group.applied
  split
  case h_1 =>
    split
    · exact fair
    · exact fair.enroll sender
  case h_2 people subject => exact (enrolled (people ++ [group.owner])).of_members rfl
  case h_3 added removed existing =>
    exact (enrolled (added ++ existing ++ [group.owner])).foldl fun person _ _ fair => fair.expel person
  case h_4 => exact fair.of_members rfl
  case h_5 => exact fair.depart sender

end Fair

end Group

/-! ## The rows of groups -/

namespace Store

/-- What is so of every row of a group. -/
structure Chartered (me : Option Identity) (store : Store) : Prop extends store.Indexed where
  own : store.groups.KeyedBy (·.id)
  fair : ∀ {id : Identity} {group : Group}, store.group? id = some group → group.Fair me
  home : ∀ {id : Identity} {group : Group}, store.group? id = some group →
    store.threadOf.get? group.id = some group.thread

namespace Chartered

variable {me : Option Identity} {store : Store}

theorem empty : Chartered me ∅ where
  toIndexed := .empty
  own := .empty
  fair found := nomatch found
  home found := nomatch found

theorem saved (chartered : store.Chartered me) {group : Group} (saved : group.Saved me store) :
    group.Fair me ∧ store.threadOf.get? group.place.1 = some group.place.2 := by
  cases saved with
  | founded id owner people subject thread own home =>
    subst own
    refine ⟨(Group.Fair.of_empty rfl).addMembers people, ?_⟩
    rw [Group.addMembers_eq]
    exact home
  | enlarged stored own people =>
    subst own
    refine ⟨(chartered.fair stored).addMembers people, ?_⟩
    rw [Group.addMembers_eq]
    exact chartered.home stored
  | reduced stored people =>
    refine ⟨(chartered.fair stored).kickMembers people, ?_⟩
    rw [Group.kickMembers_eq]
    exact chartered.home stored
  | renamed stored subject => exact ⟨(chartered.fair stored).of_members rfl, chartered.home stored⟩
  | parted stored => exact ⟨(chartered.fair stored).of_members rfl, chartered.home stored⟩
  | moved stored thread home => exact ⟨(chartered.fair stored).of_members rfl, home⟩
  | received id owner sender command thread home =>
    have fair : (Group.received (store.group? id) id owner thread).Fair me := by
      cases known : store.group? id with
      | none => exact .of_empty rfl
      | some copy => exact (chartered.fair known).of_members rfl
    have named : (Group.received (store.group? id) id owner thread).id = id :=
      Group.received_id fun copy known => chartered.own.key_eq known
    refine ⟨fair.applied sender command, ?_⟩
    rw [Group.applied_place, Group.place, named]
    exact home

theorem make (chartered : store.Chartered me) {host : Host} {free : Prop}
    (configured : host.settings.selfIdentity = me) {edit : Edit}
    (allowed : edit.Allowed host free store) (fits : edit.Fits store) :
    (edit.make store).Chartered me := by
  subst configured
  have indexed := chartered.toIndexed.make fits
  cases edit with
  | close row => cases allowed
  | found peer isGroup =>
    refine ⟨indexed, chartered.own, chartered.fair, fun {id group} found => ?_⟩
    -- The person of a new thread had none, so it is not that of a group.
    have home : store.threadOf.get? group.id = some group.thread := chartered.home found
    have differ : group.id ≠ peer := by
      rintro rfl
      rw [chartered.unknown fits] at home
      cases home
    exact (Table.get?_put ..).trans ((if_neg differ).trans home)
  | group row =>
    obtain ⟨fair, home⟩ := chartered.saved allowed
    refine ⟨indexed, chartered.own.put rfl, fun {id group} found => ?_, fun {id group} found => ?_⟩
    all_goals
      rw [group?, Edit.make, saveGroup, Table.get?_put] at found
      split at found
    · exact Option.some.inj found ▸ fair
    · exact chartered.fair found
    · exact Option.some.inj found ▸ home
    · exact chartered.home found
  | aside | message | strike | revise | answer | people =>
    exact ⟨indexed, chartered.own, chartered.fair, chartered.home⟩

end Chartered

end Store

namespace Outbox

/-- In every life of the outbox, whatever it is asked, whatever arrives and whatever fails, as long as
it is configured for the same person: every stored group stands under its own identity, lists nobody
twice and never ourselves, and its thread is there and is the one of its identity. -/
theorem groups_in_order {me : Option Identity} {stimuli : List Stimulus}
    (configured : ∀ stimulus ∈ stimuli, stimulus.host.settings.selfIdentity = me)
    (id : Identity) (group : Group) (found : (play {} stimuli).1.store.group? id = some group) :
    group.id = id ∧ (group.members.map (·.identity)).Nodup ∧
      (∀ self ∈ me, self ∉ group.members.map (·.identity)) ∧
      ∃ thread, (play {} stimuli).1.store.threads.get? group.thread = some thread ∧
        thread.id = group.thread ∧ thread.peer = group.id ∧
        (play {} stimuli).1.store.threadForPeer? group.id = some thread := by
  have chartered : (play {} stimuli).1.store.Chartered me :=
    holds_play .empty .empty fun stimulus mem _ _ chartered allowed fits =>
      chartered.make (configured stimulus mem) allowed fits
  obtain ⟨thread, stands, peer⟩ :=
    Store.peerOf?_eq_some_iff.1 (chartered.index.1 (chartered.home found))
  have named : thread.id = group.thread := chartered.threads.key_eq stands
  refine ⟨chartered.own.key_eq found, (chartered.fair found).distinct, (chartered.fair found).apart,
    thread, stands, named, peer, ?_⟩
  exact chartered.threadForPeer?_iff.2 ⟨named ▸ stands, peer⟩

/-- We found a group and name ourselves and somebody else twice; the command cannot be stored. -/
theorem groups_in_order_founded :
    let host : Host := {
      settings := { selfIdentity := some ⟨"me@x"⟩ }, serverId := toString
      fault := fun call => if call = .insertMessage then some (.storage "disk full") else none }
    let people : List Identity := [⟨"me@x"⟩, ⟨"a@x"⟩, ⟨"a@x"⟩]
    let stimuli := [Stimulus.mk host (.request (.createGroup ⟨"g@x"⟩ people none))]
    let group : Group :=
      { id := ⟨"g@x"⟩, owner := ⟨"me@x"⟩, thread := ⟨1⟩, members := [⟨⟨"a@x"⟩, .member⟩] }
    (∀ stimulus ∈ stimuli, stimulus.host.settings.selfIdentity = some ⟨"me@x"⟩) ∧
      (play {} stimuli).1.store.group? ⟨"g@x"⟩ = some group ∧
      ∃ thread, (play {} stimuli).1.store.threadForPeer? ⟨"g@x"⟩ = some thread ∧ thread.id = ⟨1⟩ := by
  intro host people stimuli group
  have configured : ∀ stimulus ∈ stimuli, stimulus.host.settings.selfIdentity = some ⟨"me@x"⟩ := by
    simp [stimuli, host]
  have found : (play {} stimuli).1.store.group? ⟨"g@x"⟩ = some group := by decide +kernel
  obtain ⟨-, -, -, thread, -, number, -, known⟩ := groups_in_order configured ⟨"g@x"⟩ group found
  exact ⟨configured, found, thread, known, number⟩

end Outbox

end Messenger

/-
# Who belongs to a group

A person is in the member list of a group at most once (`Distinct`), so what matters of the list is
how everybody stands in it:

    a member        some .member      (`mem_liveMembers`)
    kicked          some .kicked
    not in the list none

Edits are last-writer-wins for the person they name (`standing_addMember`), and leave the entries of
everybody else (`filter_addMember`); the same for the other two.  When we apply a command of somebody
else we do not keep ourselves in the list: taking people in or putting them out is then the same edit
without us, and a change of our membership (`enroll_all`, `expel_all`).
-/
import Messenger.Outbox.Grouping

namespace Messenger

/-! ## The list -/

theorem map_identity_setState (person : Identity) (state : MemberState)
    (entries : List GroupMember) :
    (setState person state entries).map (·.identity) = entries.map (·.identity) := by
  induction entries with
  | nil => rfl
  | cons entry rest ih =>
    unfold setState
    split
    · rfl
    · exact congrArg (entry.identity :: ·) ih

theorem filter_setState {person : Identity} {chosen : GroupMember → Bool}
    (others : ∀ entry, chosen entry = true → entry.identity ≠ person) (state : MemberState)
    (entries : List GroupMember) :
    (setState person state entries).filter chosen = entries.filter chosen := by
  induction entries with
  | nil => rfl
  | cons entry rest ih =>
    unfold setState
    split
    case isTrue here =>
      have marked : ¬chosen { entry with state } = true := fun picked => others _ picked here
      rw [List.filter_cons_of_neg marked,
        List.filter_cons_of_neg fun picked => others entry picked here]
    case isFalse => rw [List.filter_cons, List.filter_cons, ih]

namespace Group

def people (group : Group) : List Identity := group.members.map (·.identity)

def standing (group : Group) (person : Identity) : Option MemberState :=
  (group.members.find? fun entry => entry.identity = person).map (·.state)

/-- Nobody is in the list twice. -/
def Distinct (group : Group) : Prop := (group.members.map (·.identity)).Nodup

end Group

theorem find?_setState (person other : Identity) (state : MemberState) (entries : List GroupMember) :
    ((setState person state entries).find? fun entry => entry.identity = other).map (·.state) =
      if other = person then
        ((entries.find? fun entry => entry.identity = other).map (·.state)).map fun _ => state
      else (entries.find? fun entry => entry.identity = other).map (·.state) := by
  induction entries with
  | nil => split <;> rfl
  | cons entry rest ih =>
    unfold setState
    by_cases here : entry.identity = person
    · subst here
      rw [if_pos rfl, List.find?_cons, List.find?_cons]
      by_cases same : other = entry.identity
      · subst same
        simp
      · have differ : ¬entry.identity = other := fun eq => same eq.symm
        simp [same, differ]
    · rw [if_neg here, List.find?_cons, List.find?_cons]
      by_cases same : entry.identity = other
      · subst same
        simp [here]
      · simp only [same, decide_false]
        exact ih

theorem find?_eq_some_iff {entries : List GroupMember} (distinct : (entries.map (·.identity)).Nodup)
    {entry : GroupMember} :
    (entries.find? fun other => other.identity = entry.identity) = some entry ↔ entry ∈ entries := by
  induction entries with
  | nil => simp
  | cons first rest ih =>
    rw [List.map_cons, List.nodup_cons] at distinct
    rw [List.find?_cons, List.mem_cons]
    by_cases same : first.identity = entry.identity
    · have other : entry ∉ rest := fun mem => distinct.1 (same ▸ List.mem_map_of_mem mem)
      simp [same, other, eq_comm]
    · have differ : entry ≠ first := fun eq => same (congrArg _ eq.symm)
      simp only [same, decide_false, differ, false_or]
      exact ih distinct.2

namespace Group

variable {group : Group}

theorem mem_liveMembers (distinct : group.Distinct) (person : Identity) :
    person ∈ group.liveMembers ↔ group.standing person = some .member := by
  unfold liveMembers standing
  constructor
  · intro mem
    obtain ⟨entry, chosen, rfl⟩ := List.mem_map.1 mem
    obtain ⟨listed, live⟩ := List.mem_filter.1 chosen
    rw [(find?_eq_some_iff distinct).2 listed]
    exact congrArg some (of_decide_eq_true live)
  · intro stands
    obtain ⟨entry, found, state⟩ := Option.map_eq_some_iff.1 stands
    have own : entry.identity = person := by simpa using List.find?_some found
    refine List.mem_map.2 ⟨entry, List.mem_filter.2 ⟨List.mem_of_find?_eq_some found, ?_⟩, own⟩
    exact decide_eq_true state

theorem names_iff (group : Group) (person : Identity) :
    group.names person = true ↔ (group.standing person).isSome = true := by
  rw [names, standing, Option.isSome_map, List.find?_isSome, List.any_eq_true]

theorem isMember_iff_mem (group : Group) (person : Identity) :
    group.isMember person = true ↔ person ∈ group.liveMembers := by
  rw [isMember, liveMembers, List.any_eq_true, List.mem_map]
  constructor
  · rintro ⟨entry, mem, counts⟩
    obtain ⟨own, live⟩ := Bool.and_eq_true_iff.1 counts
    exact ⟨entry, List.mem_filter.2 ⟨mem, live⟩, of_decide_eq_true own⟩
  · rintro ⟨entry, mem, own⟩
    obtain ⟨listed, live⟩ := List.mem_filter.1 mem
    exact ⟨entry, listed, Bool.and_eq_true_iff.2 ⟨decide_eq_true own, live⟩⟩

/-! ## Edits -/

theorem people_addMember (group : Group) (person : Identity) :
    (group.addMember person).people =
      if person ∈ group.people then group.people else group.people ++ [person] := by
  have named : group.names person = true ↔ person ∈ group.people := by simp [people, names]
  simp only [addMember, named]
  split
  · exact map_identity_setState person .member group.members
  · exact List.map_append

theorem people_kickMember (group : Group) (person : Identity) :
    (group.kickMember person).people = group.people :=
  map_identity_setState person .kicked group.members

theorem people_removeMember (group : Group) (person : Identity) :
    (group.removeMember person).people = group.people.filter (· ≠ person) := by
  show _ = (group.members.map (·.identity)).filter (· ≠ person)
  rw [List.filter_map]
  rfl

section Others

variable {person : Identity} {chosen : GroupMember → Bool}
  (others : ∀ entry, chosen entry = true → entry.identity ≠ person) (group : Group)
include others

theorem filter_addMember :
    (group.addMember person).members.filter chosen = group.members.filter chosen := by
  unfold addMember
  split
  case isTrue => exact filter_setState others .member group.members
  case isFalse =>
    have new : ¬chosen ⟨person, .member⟩ = true := fun picked => others _ picked rfl
    rw [List.filter_append, List.filter_cons_of_neg new, List.filter_nil, List.append_nil]

theorem filter_kickMember :
    (group.kickMember person).members.filter chosen = group.members.filter chosen :=
  filter_setState others .kicked group.members

theorem filter_removeMember :
    (group.removeMember person).members.filter chosen = group.members.filter chosen := by
  show (group.members.filter (·.identity ≠ person)).filter chosen = _
  rw [List.filter_filter]
  refine List.filter_congr fun entry _ => ?_
  exact Bool.and_eq_left_iff_imp.2 fun picked => decide_eq_true (others entry picked)

end Others

theorem standing_addMember (group : Group) (person other : Identity) :
    (group.addMember person).standing other =
      if other = person then some .member else group.standing other := by
  unfold addMember
  split
  case isTrue named =>
    refine (find?_setState person other .member group.members).trans ?_
    split
    case isTrue same =>
      obtain ⟨state, stands⟩ := Option.isSome_iff_exists.1 ((group.names_iff person).1 named)
      have stands : (group.members.find? fun entry => entry.identity = other).map (·.state) =
          some state := same ▸ stands
      rw [stands, Option.map_some]
    case isFalse => rfl
  case isFalse new =>
    have unknown : group.standing person = none := by
      rw [← Option.not_isSome_iff_eq_none, ← names_iff]
      exact new
    have added : ({ group with members := group.members ++ [⟨person, .member⟩] } : Group).standing other =
        (group.standing other).or (if person = other then some .member else none) := by
      unfold standing
      rw [List.find?_append, Option.map_or, List.find?_singleton]
      split <;> simp_all
    rw [added]
    by_cases same : other = person
    · subst same
      simp [unknown]
    · have differ : ¬person = other := fun eq => same eq.symm
      simp [same, differ]

theorem standing_kickMember (group : Group) (person other : Identity) :
    (group.kickMember person).standing other =
      if other = person then (group.standing other).map fun _ => .kicked
      else group.standing other :=
  find?_setState person other .kicked group.members

theorem standing_removeMember (group : Group) (person other : Identity) :
    (group.removeMember person).standing other =
      if other = person then none else group.standing other := by
  unfold standing removeMember
  rw [List.find?_filter]
  by_cases same : other = person
  · subst same
    simp
  · have own : ∀ entry : GroupMember,
        (entry.identity ≠ person ∧ entry.identity = other) ↔ entry.identity = other := by
      intro entry
      exact and_iff_right_of_imp fun own here => same (own ▸ here)
    simp [same, own]

theorem Distinct.addMember (distinct : group.Distinct) (person : Identity) :
    (group.addMember person).Distinct := by
  show (group.addMember person).people.Nodup
  rw [people_addMember]
  split
  case isTrue => exact distinct
  case isFalse new =>
    refine List.nodup_append.2 ⟨distinct, List.pairwise_singleton _ _, ?_⟩
    rintro other listed _ last rfl
    exact new (List.mem_singleton.1 last ▸ listed)

theorem Distinct.kickMember (distinct : group.Distinct) (person : Identity) :
    (group.kickMember person).Distinct := by
  show (group.kickMember person).people.Nodup
  rw [people_kickMember]
  exact distinct

theorem Distinct.removeMember (distinct : group.Distinct) (person : Identity) :
    (group.removeMember person).Distinct :=
  distinct.sublist (List.filter_sublist.map _)

/-! ## Several people -/

theorem standing_addMembers (group : Group) (people : List Identity) (other : Identity) :
    (group.addMembers people).standing other =
      if other ∈ people then some .member else group.standing other := by
  unfold addMembers
  induction people generalizing group with
  | nil => rfl
  | cons person rest ih =>
    rw [List.foldl_cons, ih, standing_addMember]
    by_cases later : other ∈ rest <;> by_cases same : other = person <;> simp [later, same]

theorem standing_kickMembers (group : Group) (people : List Identity) (other : Identity) :
    (group.kickMembers people).standing other =
      if other ∈ people then (group.standing other).map fun _ => .kicked
      else group.standing other := by
  unfold kickMembers
  induction people generalizing group with
  | nil => rfl
  | cons person rest ih =>
    rw [List.foldl_cons, ih, standing_kickMember]
    by_cases later : other ∈ rest <;> by_cases same : other = person <;>
      simp [later, same, Option.map_map, Function.comp_def]

theorem Distinct.addMembers (distinct : group.Distinct) (people : List Identity) :
    (group.addMembers people).Distinct := by
  unfold Group.addMembers
  induction people generalizing group with
  | nil => exact distinct
  | cons person rest ih => exact ih (distinct.addMember person)

theorem Distinct.kickMembers (distinct : group.Distinct) (people : List Identity) :
    (group.kickMembers people).Distinct := by
  unfold Group.kickMembers
  induction people generalizing group with
  | nil => exact distinct
  | cons person rest ih => exact ih (distinct.kickMember person)

theorem mem_liveMembers_addMembers (distinct : group.Distinct) (people : List Identity)
    (person : Identity) :
    person ∈ (group.addMembers people).liveMembers ↔ person ∈ people ∨ person ∈ group.liveMembers := by
  rw [mem_liveMembers (distinct.addMembers people), mem_liveMembers distinct, standing_addMembers]
  by_cases listed : person ∈ people <;> simp [listed]

theorem mem_liveMembers_kickMembers (distinct : group.Distinct) (people : List Identity)
    (person : Identity) :
    person ∈ (group.kickMembers people).liveMembers ↔
      person ∈ group.liveMembers ∧ person ∉ people := by
  rw [mem_liveMembers (distinct.kickMembers people), mem_liveMembers distinct, standing_kickMembers]
  by_cases listed : person ∈ people <;> simp [listed]

/-! ## Only the list -/

/-- An edit of the list: it looks at nothing else, and changes nothing else. -/
def EditsList (edit : Group → Identity → Group) : Prop :=
  ∃ change : List GroupMember → Identity → List GroupMember,
    ∀ group person, edit group person = { group with members := change group.members person }

theorem editsList_addMember : EditsList addMember := by
  refine ⟨fun members person => if members.any fun entry => entry.identity = person then
    setState person .member members else members ++ [⟨person, .member⟩], fun group person => ?_⟩
  exact (apply_ite (fun members => { group with members : Group }) _ _ _).symm

theorem editsList_kickMember : EditsList kickMember :=
  ⟨fun members person => setState person .kicked members, fun _ _ => rfl⟩

namespace EditsList

variable {edit : Group → Identity → Group} (edits : EditsList edit)
include edits

theorem foldl_eq (group : Group) (people : List Identity) :
    people.foldl edit group = { group with members := (people.foldl edit group).members } := by
  obtain ⟨change, same⟩ := edits
  induction people generalizing group with
  | nil => rfl
  | cons person rest ih =>
    rw [List.foldl_cons, ih, same]

theorem foldl_membership (group : Group) (membership : Membership) (people : List Identity) :
    people.foldl edit { group with membership } = { people.foldl edit group with membership } := by
  obtain ⟨change, same⟩ := edits
  induction people generalizing group with
  | nil => rfl
  | cons person rest ih =>
    rw [List.foldl_cons, List.foldl_cons, same, same]
    exact ih { group with members := change group.members person }

/-- With ourselves apart, an edit for several people is the edit for the others, and a change of our
membership if we are among them. -/
theorem foldl_apart (me : Identity) (put : Membership) (group : Group) (people : List Identity) :
    people.foldl (fun group person =>
        if some me = some person then { group with membership := put } else edit group person) group =
      { (people.filter (· ≠ me)).foldl edit group with
        membership := if me ∈ people then put else group.membership } := by
  induction people generalizing group with
  | nil => rfl
  | cons person rest ih =>
    rw [List.foldl_cons, ih]
    by_cases same : me = person
    · subst same
      rw [if_pos rfl, edits.foldl_membership, List.filter_cons_of_neg (by simp)]
      simp
    · have differ : person ≠ me := fun eq => same eq.symm
      have kept : (edit group person).membership = group.membership := by
        obtain ⟨change, eq⟩ := edits
        rw [eq]
      rw [if_neg (fun eq => same (Option.some.inj eq)), kept, List.filter_cons_of_pos (by simpa)]
      simp [same]

end EditsList

/-- Taking people in is adding the others, and being a member ourselves if we are among them. -/
theorem enroll_all (me : Identity) (group : Group) (people : List Identity) :
    people.foldl (enroll (some me)) group =
      { group.addMembers (people.filter (· ≠ me)) with
        membership := if me ∈ people then .member else group.membership } :=
  editsList_addMember.foldl_apart me .member group people

/-- Putting people out is kicking the others, and being kicked ourselves if we are among them. -/
theorem expel_all (me : Identity) (group : Group) (people : List Identity) :
    people.foldl (expel (some me)) group =
      { group.kickMembers (people.filter (· ≠ me)) with
        membership := if me ∈ people then .kicked else group.membership } :=
  editsList_kickMember.foldl_apart me .kicked group people

theorem addMembers_eq (group : Group) (people : List Identity) :
    group.addMembers people = { group with members := (group.addMembers people).members } :=
  editsList_addMember.foldl_eq group people

theorem kickMembers_eq (group : Group) (people : List Identity) :
    group.kickMembers people = { group with members := (group.kickMembers people).members } :=
  editsList_kickMember.foldl_eq group people

/-- These people were taken in: the others are members from then on, and so are we if we are among
them; everything else is as it was. -/
structure Enrolled (me : Identity) (people : List Identity) (group next : Group) : Prop where
  distinct : next.Distinct
  live : ∀ person, person ∈ next.liveMembers ↔
    person ∈ people ∧ person ≠ me ∨ person ∈ group.liveMembers
  membership : next.membership = if me ∈ people then .member else group.membership
  subject : next.subject = group.subject

/-- These people were put out: the others are members no longer, and we are kicked if we are among
them; everything else is as it was. -/
structure Expelled (me : Identity) (people : List Identity) (group next : Group) : Prop where
  distinct : next.Distinct
  live : ∀ person, person ∈ next.liveMembers ↔
    person ∈ group.liveMembers ∧ ¬(person ∈ people ∧ person ≠ me)
  membership : next.membership = if me ∈ people then .kicked else group.membership
  subject : next.subject = group.subject

theorem Distinct.enrolled (distinct : group.Distinct) (me : Identity) (people : List Identity) :
    Enrolled me people group (people.foldl (enroll (some me)) group) := by
  rw [enroll_all]
  refine ⟨distinct.addMembers _, fun person => ?_, rfl, ?_⟩
  · refine (mem_liveMembers_addMembers distinct _ person).trans (or_congr_left ?_)
    rw [List.mem_filter, decide_eq_true_eq]
  · rw [addMembers_eq]

theorem Distinct.expelled (distinct : group.Distinct) (me : Identity) (people : List Identity) :
    Expelled me people group (people.foldl (expel (some me)) group) := by
  rw [expel_all]
  refine ⟨distinct.kickMembers _, fun person => ?_, rfl, ?_⟩
  · refine (mem_liveMembers_kickMembers distinct _ person).trans (and_congr_right fun _ => ?_)
    rw [List.mem_filter, decide_eq_true_eq]
  · rw [kickMembers_eq]

/-! ## Commands -/

/-- Which group it is, and the thread in which it is kept. -/
def place (group : Group) : Identity × ThreadId := (group.id, group.thread)

theorem foldl_place {edit : Group → Identity → Group}
    (keeps : ∀ group person, (edit group person).place = group.place) (people : List Identity)
    (group : Group) : (people.foldl edit group).place = group.place := by
  induction people generalizing group with
  | nil => rfl
  | cons person rest ih => exact (ih _).trans (keeps group person)

theorem addMember_place (group : Group) (person : Identity) :
    (group.addMember person).place = group.place := by
  unfold addMember
  split <;> rfl

theorem enroll_place (me : Option Identity) (group : Group) (person : Identity) :
    (group.enroll me person).place = group.place := by
  unfold enroll
  split
  · rfl
  · exact group.addMember_place person

theorem expel_place (me : Option Identity) (group : Group) (person : Identity) :
    (group.expel me person).place = group.place := by
  unfold expel
  split <;> rfl

/-- Whatever a message does to a group, it stays that group, and where it is. -/
theorem applied_place (me : Option Identity) (sender : Identity) (command : Option GroupCommand)
    (group : Group) : (group.applied me sender command).place = group.place := by
  unfold applied
  split
  case h_1 =>
    split
    · rfl
    · exact group.enroll_place me sender
  case h_2 => exact foldl_place (enroll_place me) _ group
  case h_3 => exact (foldl_place (expel_place me) _ _).trans (foldl_place (enroll_place me) _ group)
  case h_4 => rfl
  case h_5 =>
    unfold depart
    split <;> rfl

theorem applied_id (me : Option Identity) (sender : Identity) (command : Option GroupCommand)
    (group : Group) : (group.applied me sender command).id = group.id :=
  congrArg Prod.fst (group.applied_place me sender command)

/-! ## Rows -/

/-- The row to which a command of the owner is applied: the copy that is known, or a new one. -/
def received (known : Option Group) (id owner : Identity) (thread : ThreadId) : Group :=
  { known.getD { id, owner, thread } with owner, thread }

theorem received_id {known : Option Group} {id owner : Identity} {thread : ThreadId}
    (own : ∀ copy ∈ known, copy.id = id) : (received known id owner thread).id = id := by
  cases known with
  | none => rfl
  | some copy => exact own copy rfl

theorem distinct_of_empty {group : Group} (empty : group.members = []) : group.Distinct := by
  rw [Distinct, empty]
  exact List.nodup_nil

end Group

end Messenger

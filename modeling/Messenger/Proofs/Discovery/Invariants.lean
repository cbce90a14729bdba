/-
# What holds as long as a round runs

A round takes notice of an event or ignores it; a disconnection and the end of the round apart, there
is nothing else.  What both of these preserve (`Preserved`), said of the round together with all that
has happened to it, holds whenever the round is not over, and it holds of what the round tells when
it is done:

    not over      of the history and the round                        (`Preserved.of_unfinished`)
    done          of the history and a round that is complete and
                  has the findings that are told                      (`Preserved.of_completed`)
    any time      of the first part of the history and a round
                  that differs at most in its phase; the events
                  after that part made no difference                  (`Preserved.lived`)
-/
import Messenger.Proofs.Discovery.Completion

namespace Messenger.Discovery

/-- The event makes no difference to what is noted or asked: the round is over, or it is over now
because the connection is lost. -/
def Handled.Idle (handled : Handled) : Prop :=
  handled.before.phase.isFinished = true ∨ handled.event = .disconnected

theorem Handled.Idle.published_eq_nil {handled : Handled} (idle : handled.Idle) :
    handled.progress.published = [] := by
  unfold Handled.progress
  cases finished : handled.before.phase.isFinished with
  | true => rw [step_of_finished finished]
  | false =>
    have lost : handled.event = .disconnected := idle.resolve_left (Bool.eq_false_iff.1 finished)
    simp [Round.step, finished, lost, Round.abandon]

theorem published_of_idle {lived late : List Handled} (idle : ∀ handled ∈ late, handled.Idle) :
    published (lived ++ late) = published lived := by
  have silent : late.flatMap (·.progress.published) = [] :=
    List.flatMap_eq_nil_iff.2 fun handled mem => (idle handled mem).published_eq_nil
  rw [published, List.flatMap_append, silent, List.append_nil, ← published]

/-- Preserved by every event that comes to a round that is not over and does not end it. -/
structure Preserved (Holds : List Handled → Round → Prop) : Prop where
  react : ∀ {history : List Handled} {round : Round} {event : Event} {reaction : Round × List Event},
    Holds history round → round.phase.isFinished = false → event ≠ .disconnected →
      round.react event = some reaction → Holds (history ++ [⟨round, event⟩]) reaction.1
  ignore : ∀ {history : List Handled} {round : Round} {event : Event},
    Holds history round → round.phase.isFinished = false → event ≠ .disconnected →
      round.react event = none → Holds (history ++ [⟨round, event⟩]) round

namespace Preserved

variable {Holds : List Handled → Round → Prop} {history : List Handled} {round start : Round}

/-- One event, whether the round goes on after it or is done. -/
theorem step (preserved : Preserved Holds) (holds : Holds history round)
    (unfinished : round.phase.isFinished = false) (event : Event) :
    ((round.step event).round.phase.isFinished = false →
      Holds (history ++ [⟨round, event⟩]) (round.step event).round) ∧
    ∀ findings, (round.step event).outcome = some (.completed findings) →
      ∃ last, Holds (history ++ [⟨round, event⟩]) last ∧ last.isComplete = true ∧
        findings = last.allFindings := by
  by_cases connected : event = .disconnected
  case pos =>
    have abandoned : round.step event = round.abandon := by
      simp [Round.step, unfinished, connected]
    rw [abandoned]
    refine ⟨fun running => ?_, fun findings told => ?_⟩
    · cases running
    · cases told
  case neg =>
    cases reacts : round.react event with
    | none =>
      have step := Round.step_of_ignored unfinished connected reacts
      rw [step]
      refine ⟨fun _ => preserved.ignore holds unfinished connected reacts, fun findings told => ?_⟩
      cases told
    | some reaction =>
      have next := preserved.react holds unfinished connected reacts
      rw [Round.step_of_react unfinished connected reacts, Round.settle]
      split
      case isTrue complete =>
        refine ⟨fun running => ?_, fun findings told => ⟨reaction.1, next, complete, ?_⟩⟩
        · cases running
        · cases told
          rfl
      case isFalse =>
        refine ⟨fun _ => next, fun findings told => ?_⟩
        cases told

theorem of_unfinished (preserved : Preserved Holds) (begins : Holds [] start) (events : List Event)
    (unfinished : (start.after events).phase.isFinished = false) :
    Holds (start.history events) (start.after events) := by
  induction events using List.reverseRecOn with
  | nil => exact begins
  | append_singleton earlier event ih =>
    rw [start.after_append] at unfinished ⊢
    rw [start.history_snoc]
    cases state : (start.after earlier).phase.isFinished with
    | true =>
      change ((start.after earlier).step event).round.phase.isFinished = false at unfinished
      rw [step_of_finished state, state] at unfinished
      cases unfinished
    | false => exact (preserved.step (ih state) state event).1 unfinished

theorem of_completed (preserved : Preserved Holds) (begins : Holds [] start) {events : List Event}
    {event : Event} {findings : List Finding}
    (ends : ((start.after events).step event).outcome = some (.completed findings)) :
    ∃ last, Holds (start.history (events ++ [event])) last ∧ last.isComplete = true ∧
      findings = last.allFindings := by
  rw [start.history_snoc]
  cases state : (start.after events).phase.isFinished with
  | true =>
    rw [step_of_finished state] at ends
    cases ends
  | false =>
    have holds := preserved.of_unfinished begins events state
    exact (preserved.step holds state event).2 findings ends

/-- At any time: the events since it last held found the round over, or ended the connection. -/
theorem lived (preserved : Preserved Holds) (begins : Holds [] start) (events : List Event) :
    ∃ lived late last phase, start.history events = lived ++ late ∧
      (∀ handled ∈ late, handled.Idle) ∧ Holds lived last ∧
      start.after events = { last with phase } := by
  induction events using List.reverseRecOn with
  | nil => exact ⟨[], [], start, start.phase, rfl, List.forall_mem_nil _, begins, rfl⟩
  | append_singleton earlier event ih =>
    rw [start.history_snoc, start.after_snoc]
    cases state : (start.after earlier).phase.isFinished with
    | true =>
      obtain ⟨lived, late, last, phase, eq, idle, holds, same⟩ := ih
      rw [step_of_finished state]
      refine ⟨lived, late ++ [_], last, phase, by rw [eq, List.append_assoc], ?_, holds, same⟩
      exact List.forall_mem_append.2 ⟨idle, List.forall_mem_singleton.2 (Or.inl state)⟩
    | false =>
      have holds := preserved.of_unfinished begins earlier state
      by_cases connected : event = .disconnected
      case pos =>
        have abandoned : (start.after earlier).step event = (start.after earlier).abandon := by
          simp [Round.step, state, connected]
        rw [abandoned]
        exact ⟨_, [_], _, _, rfl, List.forall_mem_singleton.2 (Or.inr connected), holds, rfl⟩
      case neg =>
        cases reacts : (start.after earlier).react event with
        | none =>
          have still := preserved.ignore holds state connected reacts
          rw [Round.step_of_ignored state connected reacts]
          exact ⟨_, [], _, _, (List.append_nil _).symm, List.forall_mem_nil _, still, rfl⟩
        | some reaction =>
          have next := preserved.react holds state connected reacts
          refine ⟨_, [], reaction.1, ((start.after earlier).step event).round.phase,
            (List.append_nil _).symm, List.forall_mem_nil _, next, ?_⟩
          rw [Round.step_of_react state connected reacts, Round.settle]
          split <;> rfl

/-- At any time: a round that is over has published and noted nothing since it held. -/
theorem reached (preserved : Preserved Holds) (begins : Holds [] start) (events : List Event) :
    ∃ history last phase, Holds history last ∧
      published (start.history events) = published history ∧
      start.after events = { last with phase } := by
  obtain ⟨lived, late, last, phase, eq, idle, holds, same⟩ := preserved.lived begins events
  exact ⟨lived, last, phase, holds, eq ▸ published_of_idle idle, same⟩

theorem and {Also : List Handled → Round → Prop} (preserved : Preserved Holds)
    (also : Preserved Also) :
    Preserved fun history round => Holds history round ∧ Also history round where
  react := fun holds unfinished connected reacts =>
    ⟨preserved.react holds.1 unfinished connected reacts,
      also.react holds.2 unfinished connected reacts⟩
  ignore := fun holds unfinished connected ignores =>
    ⟨preserved.ignore holds.1 unfinished connected ignores,
      also.ignore holds.2 unfinished connected ignores⟩

theorem awake : Preserved fun history _ => ∀ handled ∈ history, ¬handled.Idle := by
  have snoc {history : List Handled} {round : Round} {event : Event}
      (awake : ∀ handled ∈ history, ¬handled.Idle) (unfinished : round.phase.isFinished = false)
      (connected : event ≠ .disconnected) :
      ∀ handled ∈ history ++ [⟨round, event⟩], ¬handled.Idle := by
    refine List.forall_mem_append.2 ⟨awake, List.forall_mem_singleton.2 ?_⟩
    rintro (finished | lost)
    · exact Bool.eq_false_iff.1 unfinished finished
    · exact connected lost
  exact ⟨fun holds unfinished connected _ => snoc holds unfinished connected,
    fun holds unfinished connected _ => snoc holds unfinished connected⟩

end Preserved

/-- What a round tells that it has found is about different people, in the order of their identities. -/
theorem findings_ascending {candidates : List Identity} {batchSize : Nat} {first : RequestId}
    {events : List Event} {event : Event} {findings : List Finding}
    (ends : (((Round.start candidates batchSize first).after events).step event).outcome =
      some (.completed findings)) :
    findings.Pairwise fun a b => compare a.identity b.identity = .lt := by
  have preserved : Preserved fun _ round => round.WellFormed :=
    { react := fun formed unfinished _ reacts => (advance_of_react formed unfinished reacts).formed
      ignore := fun formed _ _ _ => formed }
  obtain ⟨last, formed, -, rfl⟩ := preserved.of_completed (.start candidates batchSize first) ends
  exact formed.findings.values_ascending

end Messenger.Discovery

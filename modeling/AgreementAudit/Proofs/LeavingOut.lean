import AgreementAudit.Proofs.CompleteReport
import AgreementAudit.Proofs.FirstWitness

/-! Audits of fewer processes. The comparisons of the processes that stay are made as before, except that fewer values
are possible: a decision that nobody had proposed is no better for it, and one that had been proposed may become
foreign if its proposer has left. -/
namespace AgreementAudit

/-- A process of an audit, and whether it stays when some are left out. -/
structure Participant where
  run : Run
  stays : Bool

namespace Participant

def missing? (participant : Participant) : Option Violation :=
  checkValidity participant.run.config participant.run.output

def foreign? (possible : ValueSet) (participant : Participant) : Option Violation :=
  checkUniverse participant.run.output possible

def unordered? (pair : Participant × Participant) : Option Violation :=
  checkComparable pair.1.run.output pair.2.run.output

def bothStay (pair : Participant × Participant) : Bool := pair.1.stays && pair.2.stays

def Proposes (participant : Participant) (value : Value) : Prop :=
  ∃ proposed ∈ participant.run.config.proposals, value ∈ proposed

end Participant

open Participant (missing? foreign? unordered? bothStay)

theorem exists_participants {kept whole : List Run} (part : kept.Sublist whole) :
    ∃ all : List Participant,
      all.map Participant.run = whole ∧ (all.filter Participant.stays).map Participant.run = kept := by
  induction part with
  | slnil => exact ⟨[], rfl, rfl⟩
  | cons run part ih =>
    obtain ⟨all, rfl, rfl⟩ := ih
    exact ⟨⟨run, false⟩ :: all, rfl, rfl⟩
  | cons_cons run part ih =>
    obtain ⟨all, rfl, rfl⟩ := ih
    exact ⟨⟨run, true⟩ :: all, rfl, rfl⟩

theorem pairs_filter {Member : Type} (stays : Member → Bool) (list : List Member) :
    pairs (list.filter stays) = (pairs list).filter fun pair => stays pair.1 && stays pair.2 := by
  induction list with
  | nil => rfl
  | cons first rest ih =>
    rw [pairs, List.filter_append, List.filter_map, List.filter_cons]
    cases kept : stays first with
    | false => simp [ih, Function.comp_def, kept]
    | true => simp [ih, Function.comp_def, kept, pairs]

theorem proposed_map_run_iff {all : List Participant} {value : Value} :
    Proposed (all.map Participant.run) value ↔ ∃ participant ∈ all, participant.Proposes value := by
  simp [Proposed, Participant.Proposes]

theorem violations_map_run (all : List Participant) :
    (runChecks (all.map Participant.run) true).report.violations =
      all.filterMap missing? ++
      all.filterMap (foreign? (proposedValues ((all.map Participant.run).map Run.config))) ++
      (pairs all).filterMap unordered? := runChecks_violations_map Participant.run all

section FewerValues

variable {output : DecisionLog} {possible fewer : ValueSet} {found other : Violation}

theorem checkUniverse_of_subset (narrower : fewer ⊆ possible) (finds : checkUniverse output possible = some found) :
    ∃ other, checkUniverse output fewer = some other ∧ other.round ≤ found.round := by
  obtain ⟨place, decided, first, rfl⟩ := checkUniverse_eq_some_iff_firstBroken.1 finds
  have stillBroken : ¬decided ⊆ fewer := fun inside =>
    first.broken fun value member => narrower value (inside value member)
  cases search : checkUniverse output fewer with
  | none => exact absurd (checkUniverse_eq_none_iff.1 search decided (List.mem_of_getElem? first.atPlace)) stillBroken
  | some other =>
    refine ⟨other, rfl, ?_⟩
    obtain ⟨otherPlace, otherDecided, second, rfl⟩ := checkUniverse_eq_some_iff_firstBroken.1 search
    have notLater : ¬place < otherPlace := fun later =>
      stillBroken (second.before place decided later first.atPlace)
    exact Nat.succ_le_succ (Nat.not_lt.1 notLater)

theorem mem_of_newly_foreign (silent : checkUniverse output possible = none)
    (finds : checkUniverse output fewer = some other) {value : Value} (listed : value ∈ other.values) :
    value ∈ possible ∧ value ∉ fewer := by
  obtain ⟨place, decided, first, rfl⟩ := checkUniverse_eq_some_iff_firstBroken.1 finds
  obtain ⟨member, foreign⟩ := ValueSet.mem_sdiff.1 (ValueSet.mem_values.1 listed)
  have inside := checkUniverse_eq_none_iff.1 silent decided (List.mem_of_getElem? first.atPlace)
  exact ⟨inside value member, foreign⟩

end FewerValues

/-- An audit in which some processes are left out finds the missing and the unordered values that the comparisons of
the others found in the whole audit, in the same order. A process that decided foreign values still does, in that
round or before; one that did not may be found to, over values that only processes left out have proposed. -/
theorem leaving_out_processes :
    (∀ kept whole : List Run, kept.Sublist whole → ∃ all : List Participant,
      all.map Participant.run = whole ∧ (all.filter Participant.stays).map Participant.run = kept) ∧
    ∀ all : List Participant,
      let staying := all.filter Participant.stays
      let whole := all.map Participant.run
      let kept := staying.map Participant.run
      let possible := proposedValues (whole.map Run.config)
      let fewer := proposedValues (kept.map Run.config)
      (∀ value, value ∈ possible ↔ ∃ participant ∈ all, participant.Proposes value) ∧
      (∀ value, value ∈ fewer ↔ ∃ participant ∈ staying, participant.Proposes value) ∧
      (runChecks whole true).report.violations =
        all.filterMap missing? ++ all.filterMap (foreign? possible) ++ (pairs all).filterMap unordered? ∧
      (runChecks kept true).report.violations =
        staying.filterMap missing? ++ staying.filterMap (foreign? fewer) ++
          ((pairs all).filter bothStay).filterMap unordered? ∧
      ∀ participant ∈ staying,
        (∀ found, participant.foreign? possible = some found →
          ∃ other, participant.foreign? fewer = some other ∧ other.round ≤ found.round) ∧
        (participant.foreign? possible = none → ∀ other, participant.foreign? fewer = some other →
          ∀ value ∈ other.values, (∃ left ∈ all, left.stays = false ∧ left.Proposes value) ∧
            ∀ stayer ∈ staying, ¬stayer.Proposes value) := by
  refine ⟨fun kept whole part => exists_participants part, ?_⟩
  intro all staying whole kept possible fewer
  have isPossible (value : Value) : value ∈ possible ↔ ∃ participant ∈ all, participant.Proposes value :=
    mem_proposedValues.trans proposed_map_run_iff
  have stillPossible (value : Value) : value ∈ fewer ↔ ∃ participant ∈ staying, participant.Proposes value :=
    mem_proposedValues.trans proposed_map_run_iff
  have narrower : fewer ⊆ possible := by
    intro value member
    obtain ⟨proposer, stays, proposes⟩ := (stillPossible value).1 member
    exact (isPossible value).2 ⟨proposer, List.mem_of_mem_filter stays, proposes⟩
  refine ⟨isPossible, stillPossible, violations_map_run all, ?_, ?_⟩
  · rw [violations_map_run staying, pairs_filter]
    rfl
  · intro participant member
    refine ⟨fun found finds => checkUniverse_of_subset narrower finds, ?_⟩
    intro silent other finds value listed
    obtain ⟨proposed, foreign⟩ := mem_of_newly_foreign silent finds listed
    obtain ⟨proposer, inside, proposes⟩ := (isPossible value).1 proposed
    have nobodyLeft : ∀ stayer ∈ staying, ¬stayer.Proposes value := fun stayer stays proposesToo =>
      foreign ((stillPossible value).2 ⟨stayer, stays, proposesToo⟩)
    have hasLeft : proposer.stays = false := by
      rw [← Bool.not_eq_true]
      exact fun stays => nobodyLeft proposer (List.mem_filter.2 ⟨inside, stays⟩) proposes
    exact ⟨⟨proposer, inside, hasLeft, proposes⟩, nobodyLeft⟩

def firstStayer : Participant := ⟨.ofValues 1 [[0], [1]] [[0, 1], [0, 1, 3]], true⟩

def secondStayer : Participant := ⟨.ofValues 2 [[1], [2]] [[1, 3], [2, 7]], true⟩

def smallerAudit : List Participant := [firstStayer, secondStayer, ⟨.ofValues 3 [[3]] [[0, 1, 3]], false⟩]

theorem leaving_out_processes_third :
    let fromNowhere := Violation.foreign "logs/proc02.output" 2 (.ofList [2, 7]) (.ofList [0, 1, 2, 3])
    let fromThird := Violation.foreign "logs/proc01.output" 2 (.ofList [0, 1, 3]) (.ofList [0, 1, 2])
    [firstStayer.run, secondStayer.run].Sublist (smallerAudit.map Participant.run) ∧
      (∃ all : List Participant, all.map Participant.run = smallerAudit.map Participant.run ∧
        (all.filter Participant.stays).map Participant.run = [firstStayer.run, secondStayer.run]) ∧
      secondStayer.foreign? (.ofList [0, 1, 2, 3]) = some fromNowhere ∧
      (∃ other, secondStayer.foreign? (.ofList [0, 1, 2]) = some other ∧ other.round ≤ fromNowhere.round) ∧
      firstStayer.foreign? (.ofList [0, 1, 2, 3]) = none ∧
      firstStayer.foreign? (.ofList [0, 1, 2]) = some fromThird ∧
      3 ∈ fromThird.values ∧ ∃ left ∈ smallerAudit, left.stays = false ∧ left.Proposes 3 := by
  intro fromNowhere fromThird
  have part : [firstStayer.run, secondStayer.run].Sublist (smallerAudit.map Participant.run) := by decide +kernel
  have possible : proposedValues ((smallerAudit.map Participant.run).map Run.config) = .ofList [0, 1, 2, 3] := by
    decide +kernel
  have fewer : proposedValues (((smallerAudit.filter Participant.stays).map Participant.run).map Run.config) =
      .ofList [0, 1, 2] := by decide +kernel
  have findsNowhere : secondStayer.foreign? (.ofList [0, 1, 2, 3]) = some fromNowhere := by decide +kernel
  have silent : firstStayer.foreign? (.ofList [0, 1, 2, 3]) = none := by decide +kernel
  have findsThird : firstStayer.foreign? (.ofList [0, 1, 2]) = some fromThird := by decide +kernel
  have listed : 3 ∈ fromThird.values := by decide +kernel
  obtain ⟨sublists, audits⟩ := leaving_out_processes
  obtain ⟨-, -, -, -, each⟩ := audits smallerAudit
  rw [possible, fewer] at each
  have firstStays : firstStayer ∈ smallerAudit.filter Participant.stays := List.mem_cons_self
  have secondStays : secondStayer ∈ smallerAudit.filter Participant.stays :=
    List.mem_cons_of_mem _ List.mem_cons_self
  refine ⟨part, sublists _ _ part, findsNowhere, (each secondStayer secondStays).1 _ findsNowhere, silent,
    findsThird, listed, ?_⟩
  exact ((each firstStayer firstStays).2 silent _ findsThird 3 listed).1

end AgreementAudit

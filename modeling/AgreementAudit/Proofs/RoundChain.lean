import AgreementAudit.Proofs.BrokenRounds
import AgreementAudit.Proofs.Verdict

/-! What a passed audit means for a round as a whole. Comparisons look at two processes at a time and stop at the
shorter log, but all decisions of a round form one chain, and its last set stands above all that was proposed and
decided in the round. -/
namespace AgreementAudit

namespace ValueSet

theorem exists_largest {sets : List ValueSet} (inhabited : sets ≠ []) :
    ∃ top ∈ sets, ∀ set ∈ sets, set.size ≤ top.size := by
  induction sets with
  | nil => exact absurd rfl inhabited
  | cons first rest ih =>
    by_cases alone : rest = []
    · exact ⟨first, List.mem_cons_self, by simp [alone]⟩
    obtain ⟨top, member, largest⟩ := ih alone
    rcases Nat.le_total first.size top.size with below | above
    · exact ⟨top, List.mem_cons_of_mem _ member, List.forall_mem_cons.2 ⟨below, largest⟩⟩
    · refine ⟨first, List.mem_cons_self, List.forall_mem_cons.2 ⟨Nat.le_refl _, ?_⟩⟩
      exact fun set inside => Nat.le_trans (largest set inside) above

theorem exists_top {sets : List ValueSet} (inhabited : sets ≠ [])
    (ordered : ∀ first ∈ sets, ∀ second ∈ sets, Ordered first second) :
    ∃ top ∈ sets, ∀ set ∈ sets, set ⊆ top := by
  obtain ⟨top, member, largest⟩ := exists_largest inhabited
  refine ⟨top, member, ?_⟩
  exact fun set inside => (ordered set inside top member).subset_of_size_le (largest set inside)

end ValueSet

def decisionsAt (runs : List Run) (round : Nat) : List ValueSet :=
  runs.filterMap fun run => run.output.decisions[round]?

theorem mem_decisionsAt {runs : List Run} {round : Nat} {decided : ValueSet} :
    decided ∈ decisionsAt runs round ↔ ∃ run ∈ runs, run.output.decisions[round]? = some decided :=
  List.mem_filterMap

theorem Agreement.ordered_decisions {runs : List Run} (agreement : Agreement runs) {round : Nat}
    {first second : ValueSet} (isFirst : first ∈ decisionsAt runs round)
    (isSecond : second ∈ decisionsAt runs round) : ValueSet.Ordered first second := by
  obtain ⟨left, leftListed, atLeft⟩ := mem_decisionsAt.1 isFirst
  obtain ⟨right, rightListed, atRight⟩ := mem_decisionsAt.1 isSecond
  obtain ⟨i, leftPlaced⟩ := List.mem_iff_getElem?.1 leftListed
  obtain ⟨j, rightPlaced⟩ := List.mem_iff_getElem?.1 rightListed
  by_cases same : i = j
  · rw [same, rightPlaced] at leftPlaced
    rw [Option.some.inj leftPlaced, atLeft] at atRight
    rw [Option.some.inj atRight]
    exact Or.inl (ValueSet.subset_refl second)
  · exact agreement.ordered i j left right same leftPlaced rightPlaced round first second atLeft atRight

/-- The decisions of a round that passes the audit, arranged by size, lie in each other from the first to the last, and
those of one size are one set. So some process decides a set that holds the decisions of all, the proposals of all
that decide, and nothing that nobody proposed. -/
theorem passed_round_chain {runs : List Run} {keepGoing : Bool} {round : Nat}
    (passed : (runChecks runs keepGoing).report.verdict = .passed)
    (decides : ∃ run ∈ runs, round < run.output.decisions.length) :
    (∀ sorted : List ValueSet, sorted.Perm (decisionsAt runs round) →
        sorted.Pairwise (fun small large => small.size ≤ large.size) →
        sorted.Pairwise fun small large => small ⊆ large) ∧
      (∀ first ∈ decisionsAt runs round, ∀ second ∈ decisionsAt runs round, first.size = second.size →
        first = second) ∧
      ∃ leader ∈ runs, ∃ top, leader.output.decisions[round]? = some top ∧
        (∀ run ∈ runs, ∀ decided, run.output.decisions[round]? = some decided → decided ⊆ top) ∧
        (∀ run ∈ runs, ∀ proposed, run.config.proposals[round]? = some proposed →
          round < run.output.decisions.length → proposed ⊆ top) ∧
        ∀ value ∈ top, Proposed runs value := by
  have agreement := runChecks_passed_iff_agreement.1 passed
  refine ⟨?_, ?_, ?_⟩
  · intro sorted arranged sizes
    refine sizes.imp_of_mem ?_
    intro small large isSmall isLarge noLarger
    exact (agreement.ordered_decisions (arranged.mem_iff.1 isSmall) (arranged.mem_iff.1 isLarge)).subset_of_size_le
      noLarger
  · intro first isFirst second isSecond sizes
    exact (agreement.ordered_decisions isFirst isSecond).eq_of_size_eq sizes
  · obtain ⟨decider, listed, inside⟩ := decides
    have inhabited : decisionsAt runs round ≠ [] :=
      List.ne_nil_of_mem (mem_decisionsAt.2 ⟨decider, listed, List.getElem?_eq_getElem inside⟩)
    obtain ⟨top, isDecision, above⟩ := ValueSet.exists_top inhabited fun first isFirst second isSecond =>
      agreement.ordered_decisions isFirst isSecond
    obtain ⟨leader, isProcess, atLeader⟩ := mem_decisionsAt.1 isDecision
    refine ⟨leader, isProcess, top, atLeader, ?_, ?_, ?_⟩
    · intro run member decided atRun
      exact above decided (mem_decisionsAt.2 ⟨run, member, atRun⟩)
    · intro run member proposed atConfig has value proposes
      have atOutput := List.getElem?_eq_getElem has
      have decidedThere := agreement.valid run member round _ _ atConfig atOutput value proposes
      exact above _ (mem_decisionsAt.2 ⟨run, member, atOutput⟩) value decidedThere
    · exact agreement.possible leader isProcess top (List.mem_of_getElem? atLeader)

def agreedRuns : List Run :=
  [.ofValues 1 [[0], [1]] [[0, 1], [0, 1, 2]], .ofValues 2 [[1], [2], [0]] [[1], [1, 2]],
    .ofValues 3 [[2], [0]] [[0, 1, 2]]]

theorem passed_round_chain_agreed :
    (runChecks agreedRuns false).report.verdict = .passed ∧
      (∃ run ∈ agreedRuns, 0 < run.output.decisions.length) ∧
      [ValueSet.ofList [1], .ofList [0, 1], .ofList [0, 1, 2]].Perm (decisionsAt agreedRuns 0) ∧
      [ValueSet.ofList [1], .ofList [0, 1], .ofList [0, 1, 2]].Pairwise
        (fun small large : ValueSet => small ⊆ large) ∧
      ∃ leader ∈ agreedRuns, ∃ top : ValueSet, leader.output.decisions[0]? = some top ∧
        ∀ run ∈ agreedRuns, ∀ decided : ValueSet, run.output.decisions[0]? = some decided → decided ⊆ top := by
  have passed : (runChecks agreedRuns false).report.verdict = .passed := by decide +kernel
  have decides : ∃ run ∈ agreedRuns, 0 < run.output.decisions.length := ⟨_, List.mem_cons_self, by decide⟩
  have arranged : [ValueSet.ofList [1], .ofList [0, 1], .ofList [0, 1, 2]].Perm (decisionsAt agreedRuns 0) := by
    decide +kernel
  obtain ⟨chain, -, leader, member, top, atLeader, above, -⟩ := passed_round_chain passed decides
  exact ⟨passed, decides, arranged, chain _ arranged (by decide +kernel), leader, member, top, atLeader, above⟩

end AgreementAudit

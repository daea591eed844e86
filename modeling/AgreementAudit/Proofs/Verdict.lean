import AgreementAudit.Proofs.Agreement
import AgreementAudit.Proofs.Walk

/-! The verdict of an audit, whether or not it keeps going, tells whether the runs agree. -/
namespace AgreementAudit

theorem Comparison.fails_eq_false_iff {comparison : Comparison} :
    comparison.fails = false ↔ comparison.violation? = none := by
  rw [fails, Option.isSome_eq_false_iff, Option.isNone_iff_eq_none]

theorem runChecks_violations_eq_nil_iff {runs : List Run} {keepGoing : Bool} :
    (runChecks runs keepGoing).report.violations = [] ↔
      ∀ comparison ∈ planned runs, comparison.violation? = none := by
  have reachedSilent : (∀ step ∈ made keepGoing runs, step.1.violation? = none) ↔
      ∀ comparison ∈ reached keepGoing Comparison.fails (planned runs), comparison.fails = false := by
    rw [← map_fst_made, List.forall_mem_map]
    simp only [Comparison.fails_eq_false_iff]
  rw [runChecks_violations, List.filterMap_eq_nil_iff, reachedSilent, forall_reached_iff]
  simp only [Comparison.fails_eq_false_iff]

theorem planned_silent_iff_agreement {runs : List Run} :
    (∀ comparison ∈ planned runs, comparison.violation? = none) ↔ Agreement runs := by
  simp only [planned_eq, List.forall_mem_append, List.forall_mem_map, Comparison.violation?,
    checkValidity_eq_none_iff, checkUniverse_eq_none_iff, checkComparable_eq_none_iff, possible_iff_proposed]
  apply Iff.intro
  · intro silent
    obtain ⟨⟨valid, possible⟩, ordered⟩ := silent
    refine ⟨valid, possible, fun i j left right different atLeft atRight => ?_⟩
    rcases Nat.lt_or_gt_of_ne different with before | after
    · exact ordered (left, right) (mem_pairs_iff.2 ⟨i, j, before, atLeft, atRight⟩)
    · exact (ordered (right, left) (mem_pairs_iff.2 ⟨j, i, after, atRight, atLeft⟩)).symm
  · intro agreement
    refine ⟨⟨agreement.valid, agreement.possible⟩, ?_⟩
    intro pair member
    obtain ⟨left, right⟩ := pair
    obtain ⟨i, j, before, atLeft, atRight⟩ := mem_pairs_iff.1 member
    exact agreement.ordered i j left right (Nat.ne_of_lt before) atLeft atRight

theorem runChecks_verdict (runs : List Run) (keepGoing : Bool) :
    (runChecks runs keepGoing).report.verdict =
      if (runChecks runs keepGoing).report.violations = [] then .passed else .failed := rfl

theorem runChecks_verdict_passed_iff {runs : List Run} {keepGoing : Bool} :
    (runChecks runs keepGoing).report.verdict = .passed ↔
      (runChecks runs keepGoing).report.violations = [] := by
  rw [runChecks_verdict]
  split
  next found => simp [found]
  next found => simp [found]

theorem runChecks_verdict_failed_iff {runs : List Run} {keepGoing : Bool} :
    (runChecks runs keepGoing).report.verdict = .failed ↔
      (runChecks runs keepGoing).report.violations ≠ [] := by
  rw [runChecks_verdict]
  split
  next found => simp [found]
  next found => simp [found]

theorem runChecks_passed_iff_agreement {runs : List Run} {keepGoing : Bool} :
    (runChecks runs keepGoing).report.verdict = .passed ↔ Agreement runs := by
  rw [runChecks_verdict_passed_iff, runChecks_violations_eq_nil_iff, planned_silent_iff_agreement]

/-- An audit passes exactly the runs that agree, and it fails exactly when it has a violation to show. -/
theorem verdict_iff_agreement (runs : List Run) (keepGoing : Bool) :
    let report := (runChecks runs keepGoing).report
    (report.verdict = .passed ↔ Agreement runs) ∧ (report.verdict = .failed ↔ report.violations ≠ []) := by
  refine ⟨runChecks_passed_iff_agreement, ?_⟩
  rw [ne_eq, ← runChecks_verdict_passed_iff]
  cases (runChecks runs keepGoing).report.verdict with
  | passed => decide
  | failed => decide

end AgreementAudit

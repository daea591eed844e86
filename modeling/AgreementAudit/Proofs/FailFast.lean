import AgreementAudit.Proofs.Verdict

/-! An audit that stops at the first violation is a keep-going audit cut off behind its first failing
comparison. If nothing fails the two are the same audit, down to the events. -/
namespace AgreementAudit

theorem runChecks_violations_eq_filterMap (keepGoing : Bool) (runs : List Run) :
    (runChecks runs keepGoing).report.violations =
      (reached keepGoing Comparison.fails (planned runs)).filterMap Comparison.violation? := by
  rw [runChecks_violations, ← map_fst_made, List.filterMap_map]
  rfl

theorem filterMap_violation_of_silent {comparisons : List Comparison}
    (silent : ∀ comparison ∈ comparisons, comparison.fails = false) :
    comparisons.filterMap Comparison.violation? = [] := by
  rw [List.filterMap_eq_nil_iff]
  intro comparison member
  exact Comparison.fails_eq_false_iff.1 (silent comparison member)

theorem moves_silent {runs : List Run} (silent : ∀ comparison ∈ planned runs, comparison.fails = false) :
    ∀ move ∈ (plan runs).flatMap Pass.moves, move.fails = false := by
  intro move member
  cases move with
  | close event => rfl
  | compare step =>
    have placed : step ∈ stepsOf runs := by
      rw [stepsOf, ← filterMap_step_moves, List.mem_filterMap]
      exact ⟨.compare step, member, rfl⟩
    have listed : step.1 ∈ planned runs := by
      rw [← map_fst_steps]
      exact List.mem_map_of_mem placed
    exact silent step.1 listed

theorem runChecks_violations_eq_take (runs : List Run) :
    (runChecks runs false).report.violations = (runChecks runs true).report.violations.take 1 := by
  have shown (comparison : Comparison) : comparison.fails = comparison.violation?.any fun _ => true := by
    unfold Comparison.fails
    cases comparison.violation? with
    | none => rfl
    | some found => rfl
  rw [runChecks_violations_eq_filterMap, runChecks_violations_eq_filterMap,
    reached_filterMap false Comparison.violation? _ shown, reached_true]
  cases (planned runs).filterMap Comparison.violation? with
  | nil => rfl
  | cons first rest => exact upToFirst_cons first rest

theorem exists_violation_of_failed {runs : List Run} (failed : (runChecks runs false).report.verdict = .failed) :
    ∃ found, (runChecks runs false).report.violations = [found] := by
  rw [runChecks_violations_eq_take]
  cases whole : (runChecks runs true).report.violations with
  | nil =>
    have nothing : (runChecks runs false).report.violations = [] := by
      rw [runChecks_violations_eq_take, whole, List.take_nil]
    rw [runChecks_verdict_passed_iff.2 nothing] at failed
    cases failed
  | cons first rest => exact ⟨first, rfl⟩

theorem runChecks_eq_of_silent {runs : List Run}
    (silent : ∀ comparison ∈ planned runs, comparison.fails = false) :
    runChecks runs false = runChecks runs true := by
  have quiet := moves_silent silent
  have whole : reached false Move.fails ((plan runs).flatMap Pass.moves) =
      (plan runs).flatMap Pass.moves := upToFirst_of_silent quiet
  have calm : ((plan runs).flatMap Pass.moves).any Move.fails = false := by
    rw [List.any_eq_false]
    intro move member
    rw [quiet move member]
    exact Bool.false_ne_true
  unfold runChecks
  rw [walk_eq, walk_eq, walkMoves_eq, walkMoves_eq, whole, calm]
  rfl

theorem runChecks_progress_eq_take (runs : List Run) :
    (runChecks runs false).progress =
      (runChecks runs true).progress.take (runChecks runs false).report.comparisons := by
  rw [runChecks_progress, runChecks_progress, made_eq_take, ← List.map_take]
  rfl

theorem runChecks_comparisons_eq (keepGoing : Bool) (runs : List Run) :
    (runChecks runs keepGoing).report.comparisons =
      (reached keepGoing Comparison.fails (planned runs)).length := by
  rw [runChecks_comparisons, ← map_fst_made, List.length_map]

/-- The audit that stops early shows the first violation of the full one. It has made the comparisons up to
the first one that fails, and its progress is that of the full audit up to there. -/
theorem failFast_refines_keepGoing (runs : List Run) :
    let fast := runChecks runs false
    let full := runChecks runs true
    fast.report.verdict = full.report.verdict ∧ fast.report.processes = full.report.processes ∧
      full.report.comparisons = (planned runs).length ∧ full.progress = (stepsOf runs).map Prod.snd ∧
      (full.report.violations = [] ∧ fast = full ∨
        ∃ before failing after first rest, planned runs = before ++ failing :: after ∧
          (∀ comparison ∈ before, comparison.violation? = none) ∧ failing.violation? = some first ∧
          full.report.violations = first :: rest ∧ fast.report.violations = [first] ∧
          fast.report.comparisons = before.length + 1 ∧
          fast.progress = full.progress.take fast.report.comparisons) := by
  refine ⟨?_, rfl, runChecks_comparisons_eq true runs, runChecks_progress true runs, ?_⟩
  · rw [runChecks_verdict, runChecks_verdict]
    simp only [runChecks_violations_eq_nil_iff]
  rcases silent_or_split Comparison.fails (planned runs) with silent | ⟨before, failing, after, split, silent, fault⟩
  · refine Or.inl ⟨?_, runChecks_eq_of_silent silent⟩
    rw [runChecks_violations_eq_filterMap, reached_true]
    exact filterMap_violation_of_silent silent
  · obtain ⟨first, found⟩ := Option.isSome_iff_exists.1 fault
    have stopped : reached false Comparison.fails (planned runs) = before ++ [failing] := by
      rw [split]
      exact upToFirst_of_split silent fault
    refine Or.inr ⟨before, failing, after, first, after.filterMap Comparison.violation?, split, ?_, found,
      ?_, ?_, ?_, runChecks_progress_eq_take runs⟩
    · intro comparison member
      exact Comparison.fails_eq_false_iff.1 (silent comparison member)
    · rw [runChecks_violations_eq_filterMap, reached_true, split, List.filterMap_append,
        filterMap_violation_of_silent silent, List.nil_append, List.filterMap_cons_some found]
    · rw [runChecks_violations_eq_filterMap, stopped, List.filterMap_append,
        filterMap_violation_of_silent silent, List.nil_append, List.filterMap_cons_some found, List.filterMap_nil]
    · rw [runChecks_comparisons_eq, stopped, List.length_append, List.length_singleton]

end AgreementAudit

import Mathlib.Algebra.Group.Nat.Defs
import Mathlib.Data.List.FinRange
import Mathlib.Data.List.ProdSigma
import Mathlib.Data.Nat.Choose.Basic
import AgreementAudit.Proofs.BrokenRounds
import AgreementAudit.Proofs.FailFast

/-! The report of an audit that keeps going. It lists the violations of all comparisons in the order of the plan, and
the plan compares every two processes once, by their places and not by the way the walk comes upon them. -/
namespace AgreementAudit

/-- Every two places of a list, an earlier one before a later one, ordered by the first and then by the second. -/
def placePairs (count : Nat) : List (Fin count × Fin count) :=
  (List.finRange count ×ˢ List.finRange count).filter fun (i, j) => i < j

theorem placePairs_succ (count : Nat) :
    placePairs (count + 1) =
      (List.finRange count).map (fun j => (0, j.succ)) ++
        (placePairs count).map fun (i, j) => (i.succ, j.succ) := by
  unfold placePairs
  rw [List.finRange_succ, List.product_cons, List.filter_append]
  congr 1
  · simp [List.filter_map, Function.comp_def]
  · simp only [SProd.sprod, List.product, List.filter_flatMap, List.flatMap_map, List.map_flatMap,
      List.filter_map, List.map_cons, List.map_map, List.filter_cons, Function.comp_def]
    simp

theorem pairs_eq_map_placePairs {Member : Type} (list : List Member) :
    pairs list = (placePairs list.length).map fun (i, j) => (list[i], list[j]) := by
  induction list with
  | nil => rfl
  | cons first rest ih =>
    have fromFirst : rest.map (first, ·) =
        (List.finRange rest.length).map fun j => (first, rest[j.val]) := by
      conv_lhs => rw [← List.map_getElem_finRange rest, List.map_map]
      rfl
    have places : placePairs (first :: rest).length = _ := placePairs_succ rest.length
    rw [pairs, places, List.map_append, List.map_map, List.map_map, ih, fromFirst]
    rfl

theorem length_pairs {Member : Type} (list : List Member) : (pairs list).length = list.length.choose 2 := by
  induction list with
  | nil => rfl
  | cons first rest ih =>
    rw [pairs, List.length_append, List.length_map, ih, List.length_cons, Nat.choose_succ_succ',
      Nat.choose_one_right]

theorem pairs_map {Member Image : Type} (image : Member → Image) (list : List Member) :
    pairs (list.map image) = (pairs list).map fun pair => (image pair.1, image pair.2) := by
  induction list with
  | nil => rfl
  | cons first rest ih =>
    rw [List.map_cons, pairs, pairs, ih, List.map_append, List.map_map, List.map_map]
    rfl

theorem length_planned (runs : List Run) :
    (planned runs).length = 2 * runs.length + runs.length * (runs.length - 1) / 2 := by
  rw [planned_eq, List.length_append, List.length_append, List.length_map, List.length_map, List.length_map,
    length_pairs, Nat.choose_two_right]
  omega

theorem runChecks_comparisons_true (runs : List Run) :
    (runChecks runs true).report.comparisons = 2 * runs.length + runs.length * (runs.length - 1) / 2 := by
  rw [runChecks_comparisons_eq, reached_true, length_planned]

theorem runChecks_violations_true (runs : List Run) :
    (runChecks runs true).report.violations =
      runs.filterMap (fun run => checkValidity run.config run.output) ++
      runs.filterMap (fun run => checkUniverse run.output (proposedValues (runs.map Run.config))) ++
      (pairs runs).filterMap fun (left, right) => checkComparable left.output right.output := by
  rw [runChecks_violations_eq_filterMap, reached_true, planned_eq, List.filterMap_append, List.filterMap_append,
    List.filterMap_map, List.filterMap_map, List.filterMap_map]
  rfl

theorem runChecks_violations_map {Member : Type} (run : Member → Run) (members : List Member) :
    (runChecks (members.map run) true).report.violations =
      members.filterMap (fun member => checkValidity (run member).config (run member).output) ++
      members.filterMap (fun member =>
        checkUniverse (run member).output (proposedValues ((members.map run).map Run.config))) ++
      (pairs members).filterMap fun pair => checkComparable (run pair.1).output (run pair.2).output := by
  rw [runChecks_violations_true, pairs_map, List.filterMap_map, List.filterMap_map, List.filterMap_map]
  rfl

theorem runChecks_passed_iff_found_nothing {runs : List Run} {keepGoing : Bool} :
    (runChecks runs keepGoing).report.verdict = .passed ↔ (runChecks runs true).report.violations = [] := by
  rw [runChecks_verdict_passed_iff, runChecks_violations_eq_nil_iff, runChecks_violations_eq_nil_iff]

theorem comparisons_lt_of_le {count : Nat} (bound : count ≤ 2 ^ 32) :
    count * (count - 1) < 2 ^ 64 ∧ 2 * count + count * (count - 1) / 2 < 2 ^ 64 := by
  have most : count * (count - 1) ≤ 2 ^ 32 * (2 ^ 32 - 1) := Nat.mul_le_mul bound (Nat.sub_le_sub_right bound 1)
  omega

/-- An audit that keeps going makes each comparison once and lists what each of them finds, in order: first how
proposals are missing from decisions, then which decisions nobody proposed, then which two processes disagree. A
comparison finds the violation of its first broken round and no other. With up to `2 ^ 32` processes no number on the
way to the count is too large for a machine word. -/
theorem keepGoing_report_complete (runs : List Run) :
    let report := (runChecks runs true).report
    report.comparisons = 2 * runs.length + runs.length * (runs.length - 1) / 2 ∧
      (runs.length ≤ 2 ^ 32 → runs.length * (runs.length - 1) < 2 ^ 64 ∧ report.comparisons < 2 ^ 64) ∧
      (∃ possible : ValueSet, (∀ value, value ∈ possible ↔ Proposed runs value) ∧
        report.violations =
          runs.filterMap (fun run => checkValidity run.config run.output) ++
          runs.filterMap (fun run => checkUniverse run.output possible) ++
          (placePairs runs.length).filterMap fun (i, j) => checkComparable runs[i].output runs[j].output) ∧
      ∀ (comparison : Comparison) (found : Violation),
        comparison.violation? = some found ↔
          comparison.Shows found ∧ ∀ other, comparison.Shows other → found.round ≤ other.round := by
  refine ⟨runChecks_comparisons_true runs, ?_, ?_, fun _ _ => Comparison.violation?_eq_some_iff⟩
  · intro bound
    rw [runChecks_comparisons_true]
    exact comparisons_lt_of_le bound
  · refine ⟨proposedValues (runs.map Run.config), fun _ => mem_proposedValues, ?_⟩
    rw [runChecks_violations_true, pairs_eq_map_placePairs, List.filterMap_map]
    rfl

def tornRuns : List Run :=
  [.ofValues 1 [[0], [1]] [[0, 1], [0, 1, 2]], .ofValues 2 [[1], [2]] [[0, 1], [2, 7]],
    .ofValues 3 [[3], [2]] [[0, 1, 2]]]

theorem keepGoing_report_complete_torn :
    tornRuns.length ≤ 2 ^ 32 ∧ (runChecks tornRuns true).report.comparisons < 2 ^ 64 ∧
      (runChecks tornRuns true).report.comparisons = 9 ∧
      (runChecks tornRuns true).report.violations =
        [.missing "logs/proc03.config" "logs/proc03.output" 1 (.ofList [3]) (.ofList [0, 1, 2]),
          .foreign "logs/proc02.output" 2 (.ofList [2, 7]) (.ofList [0, 1, 2, 3]),
          .unordered "logs/proc01.output" "logs/proc02.output" 2 (.ofList [0, 1, 2]) (.ofList [2, 7])] := by
  have few : tornRuns.length ≤ 2 ^ 32 := by decide
  obtain ⟨counted, fits, ⟨possible, proposed, violations⟩, -⟩ := keepGoing_report_complete tornRuns
  refine ⟨few, (fits few).2, counted, ?_⟩
  have known : possible = .ofList [0, 1, 2, 3] := by
    ext value
    rw [proposed, ← mem_proposedValues]
    have same : proposedValues (tornRuns.map Run.config) = .ofList [0, 1, 2, 3] := by decide +kernel
    rw [same]
  rw [violations, known]
  decide +kernel

end AgreementAudit

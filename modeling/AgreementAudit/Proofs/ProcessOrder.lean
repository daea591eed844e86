import Mathlib.Data.Multiset.Filter
import Mathlib.Data.Multiset.MapFold
import Mathlib.Data.Sym.Sym2
import AgreementAudit.Proofs.CompleteReport

/-! The order in which processes are listed. It decides which violation comes first and which of two logs is named
first, and nothing else. -/
namespace AgreementAudit

/-- Two violations tell of one fault. They are one record, except that the two logs of a disagreement, and with them
the two decisions in the message, may be named in either order. -/
structure Violation.SameFault (found other : Violation) : Prop where
  property : found.property = other.property
  round : found.round = other.round
  values : found.values = other.values
  record : found = other ∨ ∃ left right first second,
    found = .unordered left right found.round first second ∧ other = .unordered right left found.round second first

namespace Violation.SameFault

theorem refl (found : Violation) : SameFault found found := ⟨rfl, rfl, rfl, Or.inl rfl⟩

theorem mirrored (left right : Path) (round : Nat) (first second : ValueSet) :
    SameFault (.unordered left right round first second) (.unordered right left round second first) :=
  ⟨rfl, rfl, congrArg ValueSet.values (ValueSet.symmetricDifference_comm first second),
    Or.inr ⟨left, right, first, second, rfl, rfl⟩⟩

end Violation.SameFault

namespace Comparison

theorem ShowsFirst.mirrored {left right : Run} {found : Violation} (first : (chain left right).ShowsFirst found) :
    ∃ other, (chain right left).ShowsFirst other ∧ found.SameFault other := by
  obtain ⟨shows, least⟩ := first
  cases shows with
  | unordered atLeft atRight broken =>
    refine ⟨_, ⟨.unordered atRight atLeft fun ordered => broken ordered.symm, ?_⟩, .mirrored _ _ _ _ _⟩
    intro other showsOther
    cases showsOther with
    | unordered atRight' atLeft' broken' =>
      have noLater := least _ (.unordered atLeft' atRight' fun ordered => broken' ordered.symm)
      exact noLater

theorem checkComparable_swap (left right : Run) :
    Option.Rel Violation.SameFault (checkComparable left.output right.output)
      (checkComparable right.output left.output) := by
  cases search : checkComparable left.output right.output with
  | none =>
    have inOrder := (checkComparable_eq_none_iff.1 search).symm
    rw [checkComparable_eq_none_iff.2 inOrder]
    exact .none
  | some found =>
    obtain ⟨other, first, same⟩ := (checkComparable_eq_some_iff.1 search).mirrored
    rw [checkComparable_eq_some_iff.2 first]
    exact .some same

end Comparison

theorem perm_unordered_pairs {Member : Type} {list others : List Member} (arranged : list.Perm others) :
    ((pairs list).map fun pair => s(pair.1, pair.2)).Perm ((pairs others).map fun pair => s(pair.1, pair.2)) := by
  induction arranged with
  | nil => exact .refl _
  | cons first arranged ih =>
    rw [pairs, pairs, List.map_append, List.map_append]
    exact ((arranged.map _).map _).append ih
  | swap first second rest =>
    simp only [pairs, List.map_cons, List.map_append, List.cons_append]
    -- The two meet each other, and then each of them meets the rest; only the order of these parts changes.
    rw [Sym2.eq_swap]
    exact (List.perm_append_comm_assoc _ _ _).cons _
  | trans _ _ before after => exact before.trans after

theorem rel_pairs_of_perm {Member : Type} {list others : List Member} (arranged : list.Perm others) :
    Multiset.Rel (fun pair other : Member × Member => other = pair ∨ other = pair.swap) (pairs list)
      (pairs others) := by
  have same := Multiset.rel_eq.2 (Multiset.coe_eq_coe.2 (perm_unordered_pairs arranged))
  rw [← Multiset.map_coe, ← Multiset.map_coe, Multiset.rel_map] at same
  refine same.mono fun pair _ other _ equal => ?_
  rcases Sym2.eq_iff.1 equal with ⟨firsts, seconds⟩ | ⟨crossed, back⟩
  · exact Or.inl (Prod.ext firsts.symm seconds.symm)
  · exact Or.inr (Prod.ext back.symm crossed.symm)

theorem rel_filterMap {Member Image : Type} {related : Member → Member → Prop} {matching : Image → Image → Prop}
    {image : Member → Option Image}
    (each : ∀ member other, related member other → Option.Rel matching (image member) (image other))
    {members others : Multiset Member} (all : Multiset.Rel related members others) :
    Multiset.Rel matching (members.filterMap image) (others.filterMap image) := by
  induction all with
  | zero => exact .zero
  | @cons member other members others first rest ih =>
    have matched := each member other first
    cases found : image member with
    | none =>
      cases foundThere : image other with
      | none => rwa [Multiset.filterMap_cons_none _ _ found, Multiset.filterMap_cons_none _ _ foundThere]
      | some there =>
        rw [found, foundThere] at matched
        cases matched
    | some here =>
      cases foundThere : image other with
      | none =>
        rw [found, foundThere] at matched
        cases matched
      | some there =>
        rw [found, foundThere] at matched
        cases matched with
        | some same =>
          rw [Multiset.filterMap_cons_some _ _ _ found, Multiset.filterMap_cons_some _ _ _ foundThere]
          exact .cons same ih

theorem Proposed.perm {runs others : List Run} (arranged : runs.Perm others) {value : Value}
    (proposes : Proposed runs value) : Proposed others value := by
  obtain ⟨run, listed, set⟩ := proposes
  exact ⟨run, arranged.mem_iff.1 listed, set⟩

theorem proposedValues_perm {runs others : List Run} (arranged : runs.Perm others) :
    proposedValues (runs.map Run.config) = proposedValues (others.map Run.config) := by
  ext value
  rw [mem_proposedValues, mem_proposedValues]
  exact ⟨Proposed.perm arranged, Proposed.perm arranged.symm⟩

theorem rel_of_perm {found others : List Violation} (arranged : found.Perm others) :
    Multiset.Rel Violation.SameFault found others := by
  rw [Multiset.coe_eq_coe.2 arranged]
  exact Multiset.rel_refl_of_refl_on fun violation _ => .refl violation

theorem rel_disagreements {runs others : List Run} (arranged : runs.Perm others) :
    Multiset.Rel Violation.SameFault
      ((pairs runs).filterMap fun (left, right) => checkComparable left.output right.output)
      ((pairs others).filterMap fun (left, right) => checkComparable left.output right.output) := by
  refine rel_filterMap ?_ (rel_pairs_of_perm arranged)
  intro ⟨left, right⟩ other related
  rcases related with rfl | rfl
  · change Option.Rel _ (checkComparable left.output right.output) (checkComparable left.output right.output)
    cases checkComparable left.output right.output with
    | none => exact .none
    | some found => exact .some (.refl found)
  · exact Comparison.checkComparable_swap left right

theorem rel_violations {runs others : List Run} (arranged : runs.Perm others) :
    Multiset.Rel Violation.SameFault (runChecks runs true).report.violations
      (runChecks others true).report.violations := by
  rw [runChecks_violations_true, runChecks_violations_true, proposedValues_perm arranged]
  simp only [← Multiset.coe_add]
  refine .add (.add (rel_of_perm (arranged.filterMap _)) (rel_of_perm (arranged.filterMap _))) ?_
  exact rel_disagreements arranged

theorem map_eq_replicate {Member : Type} {image : Member → Option Violation} {property : Property}
    (each : ∀ member found, image member = some found → found.property = property) (list : List Member) :
    (list.filterMap image).map Violation.property = List.replicate (list.filterMap image).length property := by
  rw [List.map_eq_replicate_iff]
  intro found member
  obtain ⟨origin, -, answer⟩ := List.mem_filterMap.1 member
  exact each origin found answer

theorem Comparison.Shows.property_eq {comparison : Comparison} {found : Violation} (shows : comparison.Shows found) :
    found.property = comparison.property := by
  cases shows with
  | missing => rfl
  | foreign => rfl
  | unordered => rfl

theorem map_property_violations (runs : List Run) :
    (runChecks runs true).report.violations.map Violation.property =
      List.replicate (runs.filterMap fun run => checkValidity run.config run.output).length .validity ++
      List.replicate (runs.filterMap fun run =>
        checkUniverse run.output (proposedValues (runs.map Run.config))).length .universeContainment ++
      List.replicate ((pairs runs).filterMap fun (left, right) =>
        checkComparable left.output right.output).length .chainConsistency := by
  rw [runChecks_violations_true, List.map_append, List.map_append, map_eq_replicate, map_eq_replicate,
    map_eq_replicate]
  · intro pair found answer
    exact (Comparison.checkComparable_eq_some_iff.1 answer).1.property_eq
  · intro run found answer
    exact (Comparison.checkUniverse_eq_some_iff.1 answer).1.property_eq
  · intro run found answer
    exact (Comparison.checkValidity_eq_some_iff.1 answer).1.property_eq

theorem map_property_perm {runs others : List Run} (arranged : runs.Perm others) (keepGoing : Bool) :
    (runChecks runs keepGoing).report.violations.map Violation.property =
      (runChecks others keepGoing).report.violations.map Violation.property := by
  have whole : (runChecks runs true).report.violations.map Violation.property =
      (runChecks others true).report.violations.map Violation.property := by
    rw [map_property_violations, map_property_violations, proposedValues_perm arranged,
      (arranged.filterMap _).length_eq, (arranged.filterMap _).length_eq]
    have same := Multiset.card_eq_card_of_rel (rel_disagreements arranged)
    rw [Multiset.coe_card, Multiset.coe_card] at same
    rw [same]
  cases keepGoing with
  | true => exact whole
  | false => rw [runChecks_violations_eq_take, runChecks_violations_eq_take, List.map_take, List.map_take, whole]

theorem verdict_perm {runs others : List Run} (arranged : runs.Perm others) (keepGoing : Bool) :
    (runChecks runs keepGoing).report.verdict = (runChecks others keepGoing).report.verdict := by
  have same := congrArg List.length (map_property_perm arranged keepGoing)
  rw [List.length_map, List.length_map] at same
  rw [runChecks_verdict, runChecks_verdict]
  simp only [← List.length_eq_zero_iff, same]

/-- Processes may be listed in any order. The verdict is the same, an audit that stops early stops at a violation of
the same property, and one that keeps going makes as many comparisons and finds the same faults. -/
theorem runChecks_perm {runs others : List Run} (arranged : runs.Perm others) :
    (∀ keepGoing, (runChecks runs keepGoing).report.verdict = (runChecks others keepGoing).report.verdict) ∧
      ((runChecks runs false).report.verdict = .failed →
        ∃ found other, (runChecks runs false).report.violations = [found] ∧
          (runChecks others false).report.violations = [other] ∧ found.property = other.property) ∧
      (runChecks runs true).report.comparisons = (runChecks others true).report.comparisons ∧
      Multiset.Rel Violation.SameFault (runChecks runs true).report.violations
        (runChecks others true).report.violations := by
  refine ⟨verdict_perm arranged, ?_, ?_, rel_violations arranged⟩
  · intro failed
    obtain ⟨found, only⟩ := exists_violation_of_failed failed
    obtain ⟨other, onlyThere⟩ := exists_violation_of_failed (verdict_perm arranged false ▸ failed)
    have same := map_property_perm arranged false
    rw [only, onlyThere] at same
    exact ⟨found, other, only, onlyThere, List.head_eq_of_cons_eq same⟩
  · rw [runChecks_comparisons_true, runChecks_comparisons_true, arranged.length_eq]

theorem runChecks_perm_reversed :
    tornRuns.Perm tornRuns.reverse ∧ (runChecks tornRuns false).report.verdict = .failed ∧
      (∃ found other, (runChecks tornRuns false).report.violations = [found] ∧
        (runChecks tornRuns.reverse false).report.violations = [other] ∧ found.property = other.property) ∧
      Multiset.Rel Violation.SameFault (runChecks tornRuns true).report.violations
        (runChecks tornRuns.reverse true).report.violations := by
  have arranged : tornRuns.Perm tornRuns.reverse := (List.reverse_perm tornRuns).symm
  have failed : (runChecks tornRuns false).report.verdict = .failed := by decide +kernel
  obtain ⟨-, first, -, same⟩ := runChecks_perm arranged
  exact ⟨arranged, failed, first failed, same⟩

end AgreementAudit

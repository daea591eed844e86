import Mathlib.Data.Prod.Lex
import Mathlib.Data.Sym.Sym2
import AgreementAudit.Proofs.Passes

/-! The trace that the progress of an audit leaves. It begins like a schedule that can be told from the places of the
processes alone, and goes through it without a repeated or a missing step until the audit ends. -/
namespace AgreementAudit

/-- The comparisons of an audit by the places of the processes, each with what is told about it. -/
def schedule (runs : List Run) : List (Comparison × Progress) :=
  let count := runs.length
  let possible := proposedValues (runs.map Run.config)
  (List.finRange count).map (fun i => (.validity runs[i],
    ⟨.validity, runs[i].config.path, runs[i].output.path, i + 1, count⟩)) ++
  (List.finRange count).map (fun i => (.possible runs[i] possible,
    ⟨.universeContainment, runs[i].output.path, "possible values", i + 1, count⟩)) ++
  ((placePairs count).zipIdx 1).map fun ((i, j), step) => (.chain runs[i] runs[j],
    ⟨.chainConsistency, runs[i].output.path, runs[j].output.path, step, count * (count - 1) / 2⟩)

/-- The number of pairs as a machine word counts it. From an empty list nothing is subtracted. -/
def pairTotal (count : UInt64) : UInt64 := count * (if count = 0 then 0 else count - 1) / 2

/-- An entry is in turn behind a trace if it tells of the next step of its pass, the passes before that one have come
to their totals, and those behind it have not begun. -/
structure InTurn (count : Nat) (before : List Progress) (entry : Progress) : Prop where
  next : entry.step = stepsTaken before entry.property + 1
  within : entry.step ≤ entry.total
  total : entry.total = entry.property.total count
  finished : ∀ earlier : Property, earlier.rank < entry.property.rank → stepsTaken before earlier = earlier.total count
  unbegun : ∀ later : Property, entry.property.rank < later.rank → stepsTaken before later = 0

section Places

variable {count : Nat}

theorem mem_placePairs {i j : Fin count} : (i, j) ∈ placePairs count ↔ i < j := by
  simp [placePairs]

theorem placePairs_ascending (count : Nat) : (placePairs count).Pairwise (Prod.Lex (· < ·) (· < ·)) := by
  have ascending : (List.finRange count).Pairwise (· < ·) := List.pairwise_lt_finRange count
  refine List.Pairwise.filter _ (List.pairwise_flatMap.2 ⟨?_, ?_⟩)
  · intro i _
    exact List.pairwise_map.2 (ascending.imp fun earlier => .right i earlier)
  · refine ascending.imp fun earlier => ?_
    intro first inFirst second inSecond
    obtain ⟨_, -, rfl⟩ := List.mem_map.1 inFirst
    obtain ⟨_, -, rfl⟩ := List.mem_map.1 inSecond
    exact .left _ _ earlier

theorem countP_placePairs {i j : Fin count} (different : i ≠ j) :
    (placePairs count).countP (fun pair => s(pair.1, pair.2) = s(i, j)) = 1 := by
  have once : (placePairs count).Nodup :=
    ((List.nodup_finRange count).product (List.nodup_finRange count)).filter _
  have ordered {i j : Fin count} (earlier : i < j) :
      (placePairs count).countP (fun pair => s(pair.1, pair.2) = s(i, j)) = 1 := by
    rw [← List.count_eq_one_of_mem once (mem_placePairs.2 earlier), List.count]
    apply List.countP_congr
    intro pair listed
    obtain ⟨first, second⟩ := pair
    have ascending := mem_placePairs.1 listed
    simp only [decide_eq_true_eq, beq_iff_eq, Sym2.eq_iff, Prod.mk.injEq]
    omega
  rcases Fin.lt_or_lt_of_ne different with earlier | later
  · exact ordered earlier
  · rw [Sym2.eq_swap]
    exact ordered later

theorem toNat_pairTotal (few : count ≤ 2 ^ 32) : (pairTotal (.ofNat count)).toNat = count * (count - 1) / 2 := by
  have size : (UInt64.ofNat count).toNat = count := UInt64.toNat_ofNat_of_lt' (Nat.lt_of_le_of_lt few (by decide))
  have less : (if UInt64.ofNat count = 0 then 0 else UInt64.ofNat count - 1).toNat = count - 1 := by
    split
    next none =>
      rw [none] at size
      rw [← size]
      rfl
    next some =>
      have positive : 1 ≤ UInt64.ofNat count := by
        rw [UInt64.le_iff_toNat_le, size]
        refine Nat.one_le_iff_ne_zero.2 fun zero => some ?_
        rw [zero]
        rfl
      rw [UInt64.toNat_sub_of_le _ _ positive, size]
      rfl
  rw [pairTotal, UInt64.toNat_div, UInt64.toNat_mul, size, less, Nat.mod_eq_of_lt (comparisons_lt_of_le few).1]
  rfl

end Places

theorem zipIdx_eq_map_finRange {Member : Type} (list : List Member) :
    list.zipIdx 1 = (List.finRange list.length).map fun i => (list.get i, i.val + 1) := by
  apply List.ext_getElem
  · rw [List.length_zipIdx, List.length_map, List.length_finRange]
  · intro i _ _
    simp [Nat.add_comm]

theorem stepsOf_eq_schedule (runs : List Run) : stepsOf runs = schedule runs := by
  have each {Place : Type} (places : List Place) (comparison : Place → Comparison) (closing : Event) :
      (Pass.mk (places.map comparison) closing).steps =
        (places.zipIdx 1).map fun placed =>
          (comparison placed.1, (comparison placed.1).progress placed.2 places.length) := by
    simp only [Pass.steps, List.zipIdx_map, List.map_map, List.length_map]
    rfl
  have total : (pairs runs).length = runs.length * (runs.length - 1) / 2 := by
    rw [length_pairs, Nat.choose_two_right]
  simp only [stepsOf, plan, List.flatMap_cons, List.flatMap_nil, List.append_nil, each, total]
  rw [zipIdx_eq_map_finRange, pairs_eq_map_placePairs, List.zipIdx_map, List.map_map, List.map_map, List.map_map,
    ← List.append_assoc]
  rfl

theorem inTurn_of_stepsOf_eq {runs : List Run} {before after : List (Comparison × Progress)}
    {step : Comparison × Progress} (split : stepsOf runs = before ++ step :: after) :
    InTurn runs.length (before.map Prod.snd) step.2 := by
  obtain ⟨earlier, pass, later, inner, rest, passes, within, rfl, -⟩ := exists_block_of_flatMap_eq split
  obtain ⟨property, stands⟩ := exists_standsFor passes
  obtain ⟨listed, few, told⟩ := Pass.steps_eq_append within
  have same : step.2.property = property := by
    rw [told]
    exact stands.isFor.comparisons _ listed
  have innerSame : ∀ entry ∈ inner.map Prod.snd, entry.property = property := by
    intro entry member
    apply stands.isFor.property_of_mem
    rw [Pass.entries, within, List.map_append]
    exact List.mem_append_left _ member
  have taken (other : Property) : stepsTaken ((earlier.flatMap Pass.steps ++ inner).map Prod.snd) other =
      (if other.rank < property.rank then other.total runs.length else 0) +
        if property = other then inner.length else 0 := by
    rw [List.map_append, List.map_flatMap, stepsTaken_append, stepsTaken_of_forall innerSame, List.length_map]
    exact congrArg (· + _) (stands.before other)
  have total : step.2.total = property.total runs.length := by
    rw [told]
    exact stands.isFor.length
  refine ⟨?_, ?_, by rw [same, total], ?_, ?_⟩
  · rw [same, taken, if_neg (Nat.lt_irrefl _), if_pos rfl, Nat.zero_add, told]
    rfl
  · rw [told]
    exact few
  · intro other earlier
    rw [same] at earlier
    rw [taken, if_pos earlier, if_neg fun equal => Nat.lt_irrefl _ (equal ▸ earlier), Nat.add_zero]
  · intro other later
    rw [same] at later
    rw [taken, if_neg (Nat.lt_asymm later), if_neg fun equal => Nat.lt_irrefl _ (equal ▸ later)]

section Trace

variable {runs : List Run} {keepGoing : Bool}

theorem inTurn_of_progress_eq {before after : List Progress} {entry : Progress}
    (split : (runChecks runs keepGoing).progress = before ++ entry :: after) :
    InTurn runs.length before entry := by
  rw [runChecks_progress] at split
  obtain ⟨steps, others, made, rfl, behind⟩ := List.map_eq_append_iff.1 split
  obtain ⟨step, rest, rfl, rfl, -⟩ := List.map_eq_cons_iff.1 behind
  obtain ⟨unmade, planned⟩ := begins_made keepGoing runs
  rw [made, List.append_assoc, List.cons_append] at planned
  exact inTurn_of_stepsOf_eq planned.symm

theorem made_of_unstopped (unstopped : keepGoing = true ∨ (runChecks runs keepGoing).report.violations = []) :
    made keepGoing runs = stepsOf runs := by
  rcases unstopped with rfl | nothing
  · rfl
  · cases keepGoing with
    | true => rfl
    | false =>
      apply upToFirst_of_silent
      intro step member
      apply Comparison.fails_eq_false_iff.2
      apply runChecks_violations_eq_nil_iff.1 nothing
      rw [← map_fst_steps]
      exact List.mem_map_of_mem member

theorem made_of_stopped (found : (runChecks runs false).report.violations ≠ []) :
    ∃ before failing after, stepsOf runs = before ++ failing :: after ∧
      (∀ earlier ∈ before, earlier.1.violation? = none) ∧ failing.1.violation? ≠ none ∧
      made false runs = before ++ [failing] := by
  rcases silent_or_split (fun step => step.1.fails) (stepsOf runs) with
    silent | ⟨before, failing, after, split, silent, fault⟩
  · refine absurd ?_ found
    rw [runChecks_violations, List.filterMap_eq_nil_iff]
    intro step member
    exact Comparison.fails_eq_false_iff.1 (silent step (mem_of_mem_reached member))
  · refine ⟨before, failing, after, split, ?_, ?_, ?_⟩
    · intro earlier member
      exact Comparison.fails_eq_false_iff.1 (silent earlier member)
    · exact Option.isSome_iff_ne_none.1 fault
    · rw [made, split]
      exact upToFirst_of_split silent fault

/-- The total that chain consistency is told with is the one that a machine word counts. -/
theorem total_eq_pairTotal (few : runs.length ≤ 2 ^ 32) {entry : Progress}
    (told : entry ∈ (runChecks runs keepGoing).progress) (chain : entry.property = .chainConsistency) :
    entry.total = (pairTotal (.ofNat runs.length)).toNat := by
  obtain ⟨before, after, split⟩ := List.append_of_mem told
  rw [(inTurn_of_progress_eq split).total, chain, toNat_pairTotal few]
  rfl

end Trace

/-- The progress of an audit goes forward through its schedule, one entry for each comparison made. It comes to the
end, or else to the first comparison that fails, at which the audit stops. Each entry is in turn, and every two places
have one entry, in order of the first and then of the second place. With up to `2 ^ 32` processes all its numbers fit
into machine words. -/
theorem progress_goes_forward (runs : List Run) (keepGoing : Bool) :
    let audit := runChecks runs keepGoing
    let count := runs.length
    audit.progress.length = audit.report.comparisons ∧
      audit.progress <+: (schedule runs).map Prod.snd ∧
      (keepGoing = true ∨ audit.report.violations = [] → audit.progress = (schedule runs).map Prod.snd) ∧
      (keepGoing = false → audit.report.violations ≠ [] →
        ∃ before comparison entry after, schedule runs = before ++ (comparison, entry) :: after ∧
          (∀ earlier ∈ before, earlier.1.violation? = none) ∧ comparison.violation? ≠ none ∧
          audit.progress = before.map Prod.snd ++ [entry]) ∧
      (∀ before entry after, audit.progress = before ++ entry :: after → InTurn count before entry) ∧
      (placePairs count).Pairwise (Prod.Lex (· < ·) (· < ·)) ∧
      (∀ i j, i ≠ j → (placePairs count).countP (fun pair => s(pair.1, pair.2) = s(i, j)) = 1) ∧
      (count ≤ 2 ^ 32 → count * (count - 1) < 2 ^ 64 ∧
        (pairTotal (.ofNat count)).toNat = count * (count - 1) / 2 ∧
        (∀ entry ∈ audit.progress, entry.property = .chainConsistency →
          entry.total = (pairTotal (.ofNat count)).toNat) ∧
        audit.report.comparisons < 2 ^ 64) := by
  intro audit count
  refine ⟨?_, ?_, ?_, ?_, fun _ _ _ => inTurn_of_progress_eq, placePairs_ascending count,
    fun _ _ => countP_placePairs, ?_⟩
  · rw [runChecks_progress, List.length_map, ← runChecks_comparisons]
  · rw [runChecks_progress, ← stepsOf_eq_schedule]
    exact (begins_made keepGoing runs).map Prod.snd
  · intro unstopped
    rw [runChecks_progress, made_of_unstopped unstopped, stepsOf_eq_schedule]
  · rintro rfl found
    obtain ⟨before, failing, after, split, silent, fault, stopped⟩ := made_of_stopped found
    refine ⟨before, failing.1, failing.2, after, by rw [← stepsOf_eq_schedule, split], silent, fault, ?_⟩
    rw [runChecks_progress, stopped, List.map_append]
    rfl
  · intro few
    obtain ⟨product, all⟩ := comparisons_lt_of_le few
    refine ⟨product, toNat_pairTotal few, fun _ told chain => total_eq_pairTotal few told chain,
      Nat.lt_of_le_of_lt ?_ all⟩
    rw [runChecks_comparisons, ← length_planned, ← map_fst_steps, List.length_map]
    exact (begins_made keepGoing runs).length_le

theorem progress_goes_forward_torn :
    tornRuns.length ≤ 2 ^ 32 ∧ (pairTotal 3).toNat = 3 ∧ (runChecks tornRuns false).report.violations ≠ [] ∧
      (∃ before, (runChecks tornRuns false).progress =
        before ++ [⟨.validity, "logs/proc03.config", "logs/proc03.output", 3, 3⟩]) ∧
      (runChecks tornRuns true).progress = (schedule tornRuns).map Prod.snd ∧
      InTurn 3 ((runChecks tornRuns true).progress.take 7)
        ⟨.chainConsistency, "logs/proc01.output", "logs/proc03.output", 2, 3⟩ := by
  have few : tornRuns.length ≤ 2 ^ 32 := by decide
  have found : (runChecks tornRuns false).report.violations ≠ [] := by decide +kernel
  obtain ⟨-, -, -, stops, -⟩ := progress_goes_forward tornRuns false
  obtain ⟨-, -, whole, -, inTurn, -, -, fits⟩ := progress_goes_forward tornRuns true
  have later : (runChecks tornRuns true).progress = (runChecks tornRuns true).progress.take 7 ++
      ⟨.chainConsistency, "logs/proc01.output", "logs/proc03.output", 2, 3⟩ ::
        (runChecks tornRuns true).progress.drop 8 := by
    decide +kernel
  have last : (runChecks tornRuns false).progress.getLast? =
      some ⟨.validity, "logs/proc03.config", "logs/proc03.output", 3, 3⟩ := by decide +kernel
  refine ⟨few, (fits few).2.1, found, ?_, whole (Or.inl rfl), inTurn _ _ _ later⟩
  obtain ⟨before, _, entry, _, -, -, -, stopped⟩ := stops rfl found
  rw [stopped, List.getLast?_concat] at last
  exact ⟨before.map Prod.snd, by rw [stopped, Option.some.inj last]⟩

end AgreementAudit

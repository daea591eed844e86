import AgreementAudit.Proofs.CompleteReport

/-! Processes that stop in the middle of a run. Their proposals are known and their decision logs end early. An audit
of what they left finds what an audit of the whole logs finds in the rounds that are left, and nothing else. -/
namespace AgreementAudit

/-- A process that stops after it has written some of its decisions. -/
structure Crash where
  run : Run
  written : Nat

/-- What a process leaves: all its proposals and the first ones of its decisions. -/
def Crash.left (crash : Crash) : Run :=
  { crash.run with
    output := { crash.run.output with decisions := crash.run.output.decisions.take crash.written } }

theorem Crash.getElem?_left {crash : Crash} {round : Nat} {decided : ValueSet} :
    crash.left.output.decisions[round]? = some decided ↔
      crash.run.output.decisions[round]? = some decided ∧ round + 1 ≤ crash.left.output.decisions.length := by
  change (crash.run.output.decisions.take crash.written)[round]? = _ ↔
    _ ∧ round + 1 ≤ (crash.run.output.decisions.take crash.written).length
  rw [List.getElem?_take, Option.ite_none_right_eq_some, List.length_take]
  apply Iff.intro
  · intro kept
    obtain ⟨inside, _⟩ := List.getElem?_eq_some_iff.1 kept.2
    exact ⟨kept.2, by omega⟩
  · intro kept
    exact ⟨by omega, kept.1⟩

/-- A violation remains if its round is in all of the logs beside it. -/
def remains (found : Violation × List DecisionLog) : Bool :=
  found.2.all fun log => found.1.round ≤ log.decisions.length

theorem remains_iff {found : Violation} {logs : List DecisionLog} :
    remains (found, logs) = true ↔ ∀ log ∈ logs, found.round ≤ log.decisions.length := by
  simp [remains]

theorem remains_of_round_le {found other : Violation} {logs : List DecisionLog}
    (notLater : other.round ≤ found.round) (kept : remains (found, logs) = true) : remains (other, logs) = true :=
  remains_iff.2 fun log member => Nat.le_trans notLater (remains_iff.1 kept log member)

namespace Comparison

theorem violation?_eq_filter {whole cut : Comparison} {logs : List DecisionLog}
    (shows : ∀ found, cut.Shows found ↔ whole.Shows found ∧ remains (found, logs) = true) :
    cut.violation? = whole.violation?.filter fun found => remains (found, logs) := by
  ext found
  rw [Option.filter_eq_some_iff, violation?_eq_some_iff, violation?_eq_some_iff]
  apply Iff.intro
  · intro first
    obtain ⟨showsWhole, kept⟩ := (shows found).1 first.1
    refine ⟨⟨showsWhole, ?_⟩, kept⟩
    intro other showsOther
    -- A violation that is lost is later than every one that remains, so it does not come first.
    rcases Nat.le_total found.round other.round with notLater | notEarlier
    · exact notLater
    · exact first.2 other ((shows other).2 ⟨showsOther, remains_of_round_le notEarlier kept⟩)
  · intro first
    obtain ⟨⟨showsWhole, least⟩, kept⟩ := first
    refine ⟨(shows found).2 ⟨showsWhole, kept⟩, ?_⟩
    exact fun other showsOther => least other ((shows other).1 showsOther).1

theorem shows_validity_left {crash : Crash} {found : Violation} :
    (validity crash.left).Shows found ↔
      (validity crash.run).Shows found ∧ remains (found, [crash.left.output]) = true := by
  rw [remains_iff, List.forall_mem_singleton]
  apply Iff.intro
  · intro shows
    cases shows with
    | missing atConfig atOutput broken =>
      obtain ⟨atWhole, inside⟩ := Crash.getElem?_left.1 atOutput
      exact ⟨.missing atConfig atWhole broken, inside⟩
  · intro shows
    obtain ⟨showsWhole, inside⟩ := shows
    cases showsWhole with
    | missing atConfig atOutput broken =>
      exact .missing atConfig (Crash.getElem?_left.2 ⟨atOutput, inside⟩) broken

theorem shows_possible_left {crash : Crash} {values : ValueSet} {found : Violation} :
    (possible crash.left values).Shows found ↔
      (possible crash.run values).Shows found ∧ remains (found, [crash.left.output]) = true := by
  rw [remains_iff, List.forall_mem_singleton]
  apply Iff.intro
  · intro shows
    cases shows with
    | foreign atOutput broken =>
      obtain ⟨atWhole, inside⟩ := Crash.getElem?_left.1 atOutput
      exact ⟨.foreign atWhole broken, inside⟩
  · intro shows
    obtain ⟨showsWhole, inside⟩ := shows
    cases showsWhole with
    | foreign atOutput broken => exact .foreign (Crash.getElem?_left.2 ⟨atOutput, inside⟩) broken

theorem shows_chain_left {one other : Crash} {found : Violation} :
    (chain one.left other.left).Shows found ↔
      (chain one.run other.run).Shows found ∧ remains (found, [one.left.output, other.left.output]) = true := by
  rw [remains_iff, List.forall_mem_cons, List.forall_mem_singleton]
  apply Iff.intro
  · intro shows
    cases shows with
    | unordered atOne atOther broken =>
      obtain ⟨atWhole, inside⟩ := Crash.getElem?_left.1 atOne
      obtain ⟨atOtherWhole, insideOther⟩ := Crash.getElem?_left.1 atOther
      exact ⟨.unordered atWhole atOtherWhole broken, inside, insideOther⟩
  · intro shows
    obtain ⟨showsWhole, inside, insideOther⟩ := shows
    cases showsWhole with
    | unordered atOne atOther broken =>
      have atLeft := Crash.getElem?_left.2 ⟨atOne, inside⟩
      have atRight := Crash.getElem?_left.2 ⟨atOther, insideOther⟩
      exact .unordered atLeft atRight broken

end Comparison

namespace Crash

theorem checkValidity_left (crash : Crash) :
    checkValidity crash.left.config crash.left.output =
      (checkValidity crash.run.config crash.run.output).filter fun found => remains (found, [crash.left.output]) :=
  Comparison.violation?_eq_filter fun _ => Comparison.shows_validity_left

theorem checkUniverse_left (values : ValueSet) (crash : Crash) :
    checkUniverse crash.left.output values =
      (checkUniverse crash.run.output values).filter fun found => remains (found, [crash.left.output]) :=
  Comparison.violation?_eq_filter fun _ => Comparison.shows_possible_left

theorem checkComparable_left (pair : Crash × Crash) :
    checkComparable pair.1.left.output pair.2.left.output =
      (checkComparable pair.1.run.output pair.2.run.output).filter fun found =>
        remains (found, [pair.1.left.output, pair.2.left.output]) :=
  Comparison.violation?_eq_filter fun _ => Comparison.shows_chain_left

end Crash

/-- What an audit of the whole logs finds, each violation beside what is left of the logs that its comparison reads. -/
def foundBeside (crashes : List Crash) : List (Violation × List DecisionLog) :=
  let possible := proposedValues (crashes.map fun crash => crash.run.config)
  crashes.filterMap (fun crash =>
      (checkValidity crash.run.config crash.run.output).map (·, [crash.left.output])) ++
    crashes.filterMap (fun crash =>
      (checkUniverse crash.run.output possible).map (·, [crash.left.output])) ++
    (pairs crashes).filterMap fun pair =>
      (checkComparable pair.1.run.output pair.2.run.output).map (·, [pair.1.left.output, pair.2.left.output])

section Passes

variable {Member : Type} {whole cut : Member → Option Violation} {logs : Member → List DecisionLog}

theorem map_fst_beside (list : List Member) :
    (list.filterMap fun member => (whole member).map (·, logs member)).map Prod.fst = list.filterMap whole := by
  rw [List.map_filterMap]
  congr 1
  funext member
  cases whole member with
  | none => rfl
  | some found => rfl

theorem map_fst_filter_beside (each : ∀ member, cut member = (whole member).filter fun found =>
      remains (found, logs member)) (list : List Member) :
    ((list.filterMap fun member => (whole member).map (·, logs member)).filter remains).map Prod.fst =
      list.filterMap cut := by
  rw [List.filter_filterMap, List.map_filterMap]
  congr 1
  funext member
  rw [each]
  cases whole member with
  | none => rfl
  | some found =>
    simp only [Option.map_some, Option.filter_some]
    split
    · rfl
    · rfl

end Passes

theorem violations_whole (crashes : List Crash) :
    (runChecks (crashes.map Crash.run) true).report.violations = (foundBeside crashes).map Prod.fst := by
  rw [runChecks_violations_map, foundBeside, List.map_append, List.map_append, map_fst_beside, map_fst_beside,
    map_fst_beside, List.map_map]
  rfl

theorem violations_left (crashes : List Crash) :
    (runChecks (crashes.map Crash.left) true).report.violations =
      ((foundBeside crashes).filter remains).map Prod.fst := by
  rw [foundBeside, List.filter_append, List.filter_append, List.map_append, List.map_append,
    map_fst_filter_beside Crash.checkValidity_left, map_fst_filter_beside (Crash.checkUniverse_left _),
    map_fst_filter_beside Crash.checkComparable_left, runChecks_violations_map, List.map_map]
  rfl

/-- Wherever processes stop, an audit of what they leave finds the violations of the whole logs whose rounds are left
in each log that is compared, in the same order, and it finds no others. So runs that pass still pass. -/
theorem crashes_keep_violations (crashes : List Crash) :
    let whole := crashes.map Crash.run
    let left := crashes.map Crash.left
    (runChecks whole true).report.violations = (foundBeside crashes).map Prod.fst ∧
      (runChecks left true).report.violations = ((foundBeside crashes).filter remains).map Prod.fst ∧
      ∀ keepGoing, (runChecks whole keepGoing).report.verdict = .passed →
        (runChecks left keepGoing).report.verdict = .passed := by
  refine ⟨violations_whole crashes, violations_left crashes, ?_⟩
  intro keepGoing passed
  rw [runChecks_passed_iff_found_nothing, violations_whole, List.map_eq_nil_iff] at passed
  rw [runChecks_passed_iff_found_nothing, violations_left, passed]
  rfl

def tornCrashes : List Crash :=
  [⟨.ofValues 1 [[0], [1]] [[0, 1], [0, 1, 2]], 1⟩, ⟨.ofValues 2 [[1], [2]] [[0, 1], [2, 7]], 2⟩,
    ⟨.ofValues 3 [[3], [2]] [[0, 1, 2]], 0⟩]

def agreedCrashes : List Crash :=
  [⟨.ofValues 1 [[0], [1]] [[0, 1], [0, 1, 2]], 1⟩, ⟨.ofValues 2 [[1], [2]] [[1], [1, 2]], 2⟩,
    ⟨.ofValues 3 [[2], [0]] [[0, 1, 2], [0, 1, 2]], 0⟩]

theorem crashes_keep_violations_torn :
    (runChecks (tornCrashes.map Crash.left) true).report.violations =
        [.foreign "logs/proc02.output" 2 (.ofList [2, 7]) (.ofList [0, 1, 2, 3])] ∧
      (runChecks (agreedCrashes.map Crash.run) false).report.verdict = .passed ∧
      (runChecks (agreedCrashes.map Crash.left) false).report.verdict = .passed := by
  obtain ⟨-, left, -⟩ := crashes_keep_violations tornCrashes
  obtain ⟨-, -, passes⟩ := crashes_keep_violations agreedCrashes
  have passed : (runChecks (agreedCrashes.map Crash.run) false).report.verdict = .passed := by decide +kernel
  refine ⟨?_, passed, passes false passed⟩
  rw [left]
  decide +kernel

end AgreementAudit

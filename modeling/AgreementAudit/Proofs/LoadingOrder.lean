import AgreementAudit.Proofs.Tolerance

/-! The order in which loading reads. For each record there are three steps: the proposals, the decisions and whether
their numbers agree. The first step of all that fails is what loading answers, and no file that would be read behind
it has a part in the answer. -/
namespace AgreementAudit

def Failure.of? {Answer : Type} : Except Failure Answer → Option Failure
  | .error failure => some failure
  | .ok _ => none

inductive LoadStep
  | config (record : Record)
  | output (record : Record)
  | alignment (record : Record)

namespace LoadStep

def ofRecord (record : Record) : List LoadStep := [.config record, .output record, .alignment record]

def file? : LoadStep → Option Path
  | .config record => some record.config
  | .output record => some record.output
  | .alignment _ => none

/-- What is wrong at a step. About the numbers there is nothing to say unless both files can be read. -/
def fault? (fs : FileSystem) (allowIncomplete : Bool) : LoadStep → Option Failure
  | .config record => Failure.of? (ProposalFile.read fs record.config).result
  | .output record => Failure.of? (DecisionLog.read fs record.output)
  | .alignment record =>
    match (ProposalFile.read fs record.config).result, DecisionLog.read fs record.output with
    | .ok file, .ok log =>
      let run : Run := ⟨record, file, log⟩
      if run.IsEven ∨ allowIncomplete = true then none else some run.mismatch
    | _, _ => none

def inOrder (records : List Record) : List LoadStep := records.flatMap ofRecord

theorem inOrder_cons (record : Record) (rest : List Record) :
    inOrder (record :: rest) = ofRecord record ++ inOrder rest := List.flatMap_cons

/-- The steps that are made: all of them, or those up to the first one that fails. -/
def made (fs : FileSystem) (allowIncomplete : Bool) (records : List Record) : List LoadStep :=
  upToFirst (fun step => (step.fault? fs allowIncomplete).isSome) (inOrder records)

end LoadStep

namespace Failure

variable {Answer Item : Type}

theorem of?_eq_some_iff {result : Except Failure Answer} {failure : Failure} :
    of? result = some failure ↔ result = .error failure := by
  cases result with
  | error other => simp [of?]
  | ok answer => simp [of?]

theorem of?_eq_none_iff {result : Except Failure Answer} : of? result = none ↔ ∃ answer, result = .ok answer := by
  cases result with
  | error other => simp [of?]
  | ok answer => simp [of?]

theorem of?_mapM (step : Item → Except Failure Answer) (items : List Item) :
    of? (items.mapM step) = items.findSome? fun item => of? (step item) := by
  induction items with
  | nil => rfl
  | cons item rest ih =>
    rw [List.mapM_cons, List.findSome?_cons, ← ih]
    cases step item with
    | error failure => rfl
    | ok answer =>
      cases rest.mapM step with
      | error failure => rfl
      | ok answers => rfl

end Failure

section Loading

variable {fs other : FileSystem} {allowIncomplete : Bool} {record : Record} {records : List Record}

theorem Run.failure_load (fs : FileSystem) (allowIncomplete : Bool) (record : Record) :
    Failure.of? (load fs allowIncomplete record).result =
      (LoadStep.ofRecord record).findSome? (·.fault? fs allowIncomplete) := by
  rw [result_load]
  cases config : (ProposalFile.read fs record.config).result with
  | error failure => simp [LoadStep.ofRecord, LoadStep.fault?, config, Failure.of?, bind, Except.bind]
  | ok file =>
    cases output : DecisionLog.read fs record.output with
    | error failure => simp [LoadStep.ofRecord, LoadStep.fault?, config, output, Failure.of?, bind, Except.bind]
    | ok log =>
      have aligns := result_align ⟨record, file, log⟩ allowIncomplete
      by_cases tolerated : (Run.mk record file log).IsEven ∨ allowIncomplete = true
      · rw [if_pos tolerated] at aligns
        simp [LoadStep.ofRecord, LoadStep.fault?, config, output, Failure.of?, bind, Except.bind, aligns, tolerated]
      · rw [if_neg tolerated] at aligns
        simp [LoadStep.ofRecord, LoadStep.fault?, config, output, Failure.of?, bind, Except.bind, aligns, tolerated]

theorem Run.failure_loadAll (fs : FileSystem) (allowIncomplete : Bool) (records : List Record) :
    Failure.of? (loadAll fs allowIncomplete records).result =
      (LoadStep.inOrder records).findSome? (·.fault? fs allowIncomplete) := by
  rw [result_loadAll, Failure.of?_mapM]
  simp only [failure_load]
  induction records with
  | nil => rfl
  | cons record rest ih =>
    rw [List.findSome?_cons, ih, LoadStep.inOrder_cons, List.findSome?_append]
    cases (LoadStep.ofRecord record).findSome? (·.fault? fs allowIncomplete) with
    | none => rfl
    | some failure => rfl

theorem ProposalFile.read_congr {path : Path} (same : other.contentOf path = fs.contentOf path) :
    read other path = read fs path := by
  unfold read
  rw [same]

theorem DecisionLog.read_congr {path : Path} (same : other.contentOf path = fs.contentOf path) :
    read other path = read fs path := by
  unfold read
  rw [same]

theorem Run.load_congr (config : other.contentOf record.config = fs.contentOf record.config)
    (output : (LoadStep.config record).fault? fs allowIncomplete = none →
      other.contentOf record.output = fs.contentOf record.output) :
    load other allowIncomplete record = load fs allowIncomplete record := by
  unfold load
  rw [ProposalFile.read_congr config]
  refine Traced.bind_congr_of_ok fun file reads => ?_
  rw [DecisionLog.read_congr (output (Failure.of?_eq_none_iff.2 ⟨file, reads⟩))]

theorem Run.loadAll_congr
    (agree : ∀ path ∈ (LoadStep.made fs allowIncomplete records).filterMap LoadStep.file?,
      other.contentOf path = fs.contentOf path) :
    loadAll other allowIncomplete records = loadAll fs allowIncomplete records := by
  -- A record that fails ends both loadings alike. One that loads hands the agreement on the later files to the rest.
  induction records with
  | nil => rfl
  | cons record rest ih =>
    have reads_config :
        record.config ∈ (LoadStep.made fs allowIncomplete (record :: rest)).filterMap LoadStep.file? := by
      refine List.mem_filterMap.2 ⟨.config record, ?_, rfl⟩
      exact mem_upToFirst_append_cons (List.forall_mem_nil _) _ _
    have reads_output (reads : (LoadStep.config record).fault? fs allowIncomplete = none) :
        record.output ∈ (LoadStep.made fs allowIncomplete (record :: rest)).filterMap LoadStep.file? := by
      refine List.mem_filterMap.2 ⟨.output record, ?_, rfl⟩
      have passes : ∀ step ∈ [LoadStep.config record], (step.fault? fs allowIncomplete).isSome = false := by
        simpa using reads
      exact mem_upToFirst_append_cons passes _ _
    rw [loadAll_cons, loadAll_cons, load_congr (agree _ reads_config) fun reads => agree _ (reads_output reads)]
    refine Traced.bind_congr_of_ok fun run loads => ?_
    have silent : ∀ step ∈ LoadStep.ofRecord record, (step.fault? fs allowIncomplete).isSome = false := by
      have faultless := (failure_load fs allowIncomplete record).symm.trans (Failure.of?_eq_none_iff.2 ⟨run, loads⟩)
      simpa using List.findSome?_eq_none_iff.1 faultless
    rw [ih fun path member => agree path ?_]
    rw [LoadStep.made, LoadStep.inOrder_cons, upToFirst_append_of_silent silent, List.filterMap_append]
    exact List.mem_append_right _ member

end Loading

/-- All records have to load, and then each run is what the two files of its record hold. Otherwise the first step that
fails decides: what loading answers and reports is settled by the files read up to there, whatever the others hold. -/
theorem first_failing_step_decides (fs : FileSystem) (allowIncomplete : Bool) (records : List Record) :
    let loading := Run.loadAll fs allowIncomplete records
    ((∃ runs, loading.result = .ok runs) ↔
      ∀ record ∈ records, ∃ run, (Run.load fs allowIncomplete record).result = .ok run) ∧
    (∀ runs, loading.result = .ok runs ↔ List.Forall₂ (fun record run => run.record = record ∧
      (ProposalFile.read fs record.config).result = .ok run.config ∧
      DecisionLog.read fs record.output = .ok run.output ∧ (run.IsEven ∨ allowIncomplete = true)) records runs) ∧
    (∀ failure, loading.result = .error failure ↔ ∃ before failing after,
      LoadStep.inOrder records = before ++ failing :: after ∧
      (∀ earlier ∈ before, earlier.fault? fs allowIncomplete = none) ∧
      failing.fault? fs allowIncomplete = some failure) ∧
    (∀ before failing after, LoadStep.inOrder records = before ++ failing :: after →
      (∀ earlier ∈ before, earlier.fault? fs allowIncomplete = none) → failing.fault? fs allowIncomplete ≠ none →
      ∀ other : FileSystem,
        (∀ path ∈ (before ++ [failing]).filterMap LoadStep.file?, other.contentOf path = fs.contentOf path) →
        Run.loadAll other allowIncomplete records = loading) := by
  intro loading
  have each : loading.result = records.mapM fun record => (Run.load fs allowIncomplete record).result :=
    Run.result_loadAll fs allowIncomplete records
  refine ⟨?_, ?_, ?_, ?_⟩
  · rw [each, ← Failure.of?_eq_none_iff, Failure.of?_mapM, List.findSome?_eq_none_iff]
    simp only [Failure.of?_eq_none_iff]
  · intro runs
    rw [each, mapM_eq_ok_iff]
    simp only [Run.result_load_eq_ok_iff]
  · intro failure
    rw [← Failure.of?_eq_some_iff, Run.failure_loadAll, List.findSome?_eq_some_iff]
    apply Iff.intro
    · intro found
      obtain ⟨before, failing, after, steps, fails, silent⟩ := found
      exact ⟨before, failing, after, steps, silent, fails⟩
    · intro found
      obtain ⟨before, failing, after, steps, silent, fails⟩ := found
      exact ⟨before, failing, after, steps, fails, silent⟩
  · intro before failing after steps silent fails other agree
    apply Run.loadAll_congr
    rwa [LoadStep.made, steps, upToFirst_of_split]
    · simpa using silent
    · exact Option.isSome_iff_ne_none.2 fails

theorem first_failing_step_decides_uneven :
    let records := [Record.named 1 "1", .named 2 "2", .named 3 "3"]
    let other := unevenFiles.put (Location.root.enter "3.config") (.file (Text.encode "1 1\n"))
    (Run.loadAll unevenFiles false records).result = .error unevenRun.mismatch ∧
      other.contentOf "3.config" ≠ unevenFiles.contentOf "3.config" ∧
      Run.loadAll other false records = Run.loadAll unevenFiles false records ∧
      (Run.loadAll other true records).result = .error (.input (.malformedHeader "3.config" "1 1")) := by
  intro records other
  have inRow (allowIncomplete : Bool) (files : FileSystem) :=
    first_failing_step_decides files allowIncomplete records
  have strictly : LoadStep.inOrder records = (LoadStep.inOrder [.named 1 "1"] ++ [.config (.named 2 "2"),
      .output (.named 2 "2")]) ++ .alignment (.named 2 "2") :: LoadStep.ofRecord (.named 3 "3") := rfl
  have tolerantly : LoadStep.inOrder records = LoadStep.inOrder [.named 1 "1", .named 2 "2"] ++
      .config (.named 3 "3") :: [.output (.named 3 "3"), .alignment (.named 3 "3")] := rfl
  have uneven : (LoadStep.alignment (.named 2 "2")).fault? unevenFiles false = some unevenRun.mismatch := by
    decide +kernel
  obtain ⟨-, -, strict, settled⟩ := inRow false unevenFiles
  obtain ⟨-, -, tolerant, -⟩ := inRow true other
  refine ⟨(strict _).2 ⟨_, _, _, strictly, by decide +kernel, uneven⟩, by decide +kernel,
    settled _ _ _ strictly (by decide +kernel) (by decide +kernel) other (by decide +kernel),
    (tolerant _).2 ⟨_, _, _, tolerantly, by decide +kernel, by decide +kernel⟩⟩

end AgreementAudit

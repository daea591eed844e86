import AgreementAudit.Proofs.OutputModes

/-! Strict and tolerant loading. To tolerate uneven lengths changes no data: it turns one input error into a run and
leaves every other answer as it is. So a check that ends well without tolerance is the same check with it. -/
namespace AgreementAudit

open CommandLine (CheckOptions Invocation)

theorem Traced.bind_congr_of_ok {Answer Next : Type} {first : Traced Answer} {next other : Answer → Traced Next}
    (alike : ∀ answer, first.result = .ok answer → next answer = other answer) : first >>= next = first >>= other := by
  cases found : first.result with
  | error failure => rw [bind_of_error found, bind_of_error found]
  | ok answer => rw [bind_of_ok found, bind_of_ok found, alike answer found]

namespace Run

/-- A process that decided as often as it proposed. -/
def IsEven (run : Run) : Prop := run.config.proposals.length = run.output.decisions.length

instance (run : Run) : Decidable run.IsEven := inferInstanceAs (Decidable (_ = _))

/-- Where lengths are not tolerated, an uneven process fails with both files and both lengths. -/
def mismatch (run : Run) : Failure :=
  .input (.lengthMismatch run.config.path run.output.path run.config.proposals.length run.output.decisions.length)

variable {fs : FileSystem} {records : List Record} {record : Record} {allowIncomplete : Bool}

theorem align_eq (run : Run) (allowIncomplete : Bool) :
    align run.config run.output allowIncomplete =
      if run.IsEven then pure ()
      else if allowIncomplete then .report (.lengthsTolerated run.config.path run.output.path
        run.config.proposals.length run.output.decisions.length)
      else .fail run.mismatch := rfl

theorem result_align (run : Run) (allowIncomplete : Bool) :
    (align run.config run.output allowIncomplete).result =
      if run.IsEven ∨ allowIncomplete = true then .ok () else .error run.mismatch := by
  rw [align_eq]
  by_cases even : run.IsEven
  · rw [if_pos even, if_pos (Or.inl even)]
    rfl
  · rw [if_neg even]
    cases allowIncomplete with
    | true => rw [if_pos rfl, if_pos (Or.inr rfl), Traced.report]
    | false => simp [even, Traced.fail]

theorem result_load (fs : FileSystem) (allowIncomplete : Bool) (record : Record) :
    (load fs allowIncomplete record).result =
      (ProposalFile.read fs record.config).result >>= fun config =>
        DecisionLog.read fs record.output >>= fun output =>
          (align config output allowIncomplete).result >>= fun _ => .ok ⟨record, config, output⟩ := by
  unfold load
  rw [Traced.result_bind]
  congr 1
  funext config
  rw [Traced.result_bind, Traced.result_ofExcept]
  congr 1
  funext output
  rw [Traced.result_bind]
  rfl

theorem result_load_eq_ok_iff {run : Run} :
    (load fs allowIncomplete record).result = .ok run ↔
      run.record = record ∧ (ProposalFile.read fs record.config).result = .ok run.config ∧
        DecisionLog.read fs record.output = .ok run.output ∧ (run.IsEven ∨ allowIncomplete = true) := by
  rw [result_load]
  simp only [bind_eq_ok_iff]
  apply Iff.intro
  · intro loads
    obtain ⟨config, readsConfig, output, readsOutput, aligned, aligns, made⟩ := loads
    obtain rfl := Except.ok.inj made
    rw [result_align ⟨record, config, output⟩] at aligns
    split at aligns
    next tolerated => exact ⟨rfl, readsConfig, readsOutput, tolerated⟩
    next => cases aligns
  · intro reads
    obtain ⟨rfl, readsConfig, readsOutput, tolerated⟩ := reads
    refine ⟨run.config, readsConfig, run.output, readsOutput, (), ?_, rfl⟩
    rw [result_align, if_pos tolerated]

theorem load_cases (fs : FileSystem) (record : Record) :
    load fs true record = load fs false record ∨
      ∃ run, (load fs true record).result = .ok run ∧ ¬run.IsEven ∧
        (load fs false record).result = .error run.mismatch := by
  by_cases uneven : ∃ run, (load fs true record).result = .ok run ∧ ¬run.IsEven
  · obtain ⟨run, loads, uneven⟩ := uneven
    obtain ⟨rfl, readsConfig, readsOutput, -⟩ := result_load_eq_ok_iff.1 loads
    refine Or.inr ⟨run, loads, uneven, ?_⟩
    rw [result_load, readsConfig, readsOutput]
    change ((align run.config run.output false).result >>= fun _ => _) = _
    rw [result_align, if_neg (by simp [uneven])]
    rfl
  · refine Or.inl (Traced.bind_congr_of_ok fun config readsConfig => Traced.bind_congr_of_ok fun output readsOutput => ?_)
    have loads : (load fs true record).result = .ok ⟨record, config, output⟩ :=
      result_load_eq_ok_iff.2 ⟨rfl, readsConfig, readsOutput, Or.inr rfl⟩
    have even : (Run.mk record config output).IsEven := by
      by_cases even : (Run.mk record config output).IsEven
      · exact even
      · exact absurd ⟨_, loads, even⟩ uneven
    rw [align_eq ⟨record, config, output⟩, align_eq ⟨record, config, output⟩, if_pos even, if_pos even]

theorem isEven_of_load {run : Run} (loads : (load fs false record).result = .ok run) : run.IsEven := by
  obtain ⟨-, -, -, even | tolerant⟩ := result_load_eq_ok_iff.1 loads
  · exact even
  · cases tolerant

theorem loadAll_cons (fs : FileSystem) (allowIncomplete : Bool) (record : Record) (rest : List Record) :
    loadAll fs allowIncomplete (record :: rest) =
      load fs allowIncomplete record >>= fun run =>
        loadAll fs allowIncomplete rest >>= fun runs => pure (run :: runs) := List.mapM_cons

theorem result_loadAll (fs : FileSystem) (allowIncomplete : Bool) (records : List Record) :
    (loadAll fs allowIncomplete records).result = records.mapM fun record => (load fs allowIncomplete record).result :=
  Traced.result_mapM _ _

theorem result_loadAll_cons (fs : FileSystem) (allowIncomplete : Bool) (record : Record) (rest : List Record) :
    (loadAll fs allowIncomplete (record :: rest)).result =
      (load fs allowIncomplete record).result >>= fun run =>
        (loadAll fs allowIncomplete rest).result >>= fun runs => .ok (run :: runs) := by
  rw [result_loadAll, result_loadAll, List.mapM_cons]
  rfl

theorem result_loadAll_cons_eq_ok_iff {rest : List Record} {runs : List Run} :
    (loadAll fs allowIncomplete (record :: rest)).result = .ok runs ↔
      ∃ run others, (load fs allowIncomplete record).result = .ok run ∧
        (loadAll fs allowIncomplete rest).result = .ok others ∧ runs = run :: others := by
  rw [result_loadAll_cons]
  simp only [bind_eq_ok_iff, Except.ok.injEq, eq_comm (b := runs)]
  apply Iff.intro
  · intro loads
    obtain ⟨run, loadsFirst, others, loadsRest, same⟩ := loads
    exact ⟨run, others, loadsFirst, loadsRest, same⟩
  · intro loads
    obtain ⟨run, others, loadsFirst, loadsRest, same⟩ := loads
    exact ⟨run, loadsFirst, others, loadsRest, same⟩

/-- Tolerance has a part in the loading of many processes only from the first one on that is uneven. There strict
loading ends, and tolerant loading goes on. -/
theorem loadAll_cases (fs : FileSystem) (records : List Record) :
    (loadAll fs true records = loadAll fs false records ∧
      ∀ runs, (loadAll fs false records).result = .ok runs → ∀ run ∈ runs, run.IsEven) ∨
    ∃ before uneven, (∀ run ∈ before, run.IsEven) ∧ ¬uneven.IsEven ∧
      (loadAll fs false records).result = .error uneven.mismatch ∧
      ∀ runs, (loadAll fs true records).result = .ok runs → ∃ after, runs = before ++ uneven :: after := by
  induction records with
  | nil =>
    refine Or.inl ⟨rfl, fun runs loads => ?_⟩
    obtain rfl : [] = runs := Except.ok.inj loads
    exact List.forall_mem_nil _
  | cons record rest ih =>
    rcases load_cases fs record with same | ⟨uneven, tolerates, isUneven, refuses⟩
    · cases first : (load fs false record).result with
      | error failure =>
        have ends : (loadAll fs false (record :: rest)).result = .error failure := by
          rw [result_loadAll_cons, first]
          rfl
        refine Or.inl ⟨?_, fun runs loads => ?_⟩
        · rw [loadAll_cons, loadAll_cons, same, Traced.bind_of_error first, Traced.bind_of_error first]
        · rw [ends] at loads
          cases loads
      | ok run =>
        rcases ih with ⟨sameRest, evenRest⟩ | ⟨before, uneven, evenBefore, isUneven, refuses, later⟩
        · refine Or.inl ⟨by rw [loadAll_cons, loadAll_cons, same, sameRest], fun runs loads => ?_⟩
          obtain ⟨head, others, loadsFirst, loadsRest, rfl⟩ := result_loadAll_cons_eq_ok_iff.1 loads
          exact List.forall_mem_cons.2 ⟨isEven_of_load loadsFirst, evenRest others loadsRest⟩
        · have even := List.forall_mem_cons.2 ⟨isEven_of_load first, evenBefore⟩
          refine Or.inr ⟨run :: before, uneven, even, isUneven, ?_, ?_⟩
          · rw [result_loadAll_cons, first, refuses]
            rfl
          · intro runs loads
            obtain ⟨head, others, loadsFirst, loadsRest, rfl⟩ := result_loadAll_cons_eq_ok_iff.1 loads
            rw [same, first] at loadsFirst
            obtain rfl := Except.ok.inj loadsFirst
            obtain ⟨after, rfl⟩ := later others loadsRest
            exact ⟨after, rfl⟩
    · refine Or.inr ⟨[], uneven, List.forall_mem_nil _, isUneven, ?_, ?_⟩
      · rw [result_loadAll_cons, refuses]
        rfl
      · intro runs loads
        obtain ⟨head, others, loadsFirst, -, rfl⟩ := result_loadAll_cons_eq_ok_iff.1 loads
        rw [tolerates] at loadsFirst
        obtain rfl := Except.ok.inj loadsFirst
        exact ⟨others, rfl⟩

end Run

namespace CommandLine.CheckOptions

variable {fs : FileSystem} {runs : List Run}

/-- What a check does after loading depends on what it has loaded and on whether it keeps going. -/
theorem execute_congr {options others : CheckOptions} {json : Bool} (loading : options.load fs = others.load fs)
    (goingOn : options.keepGoing = others.keepGoing) : options.execute json fs = others.execute json fs := by
  unfold execute
  rw [loading, goingOn]

theorem load_tolerant_of_strict {options : CheckOptions}
    (loads : ({ options with allowIncomplete := false } : CheckOptions).Loads fs runs) :
    ({ options with allowIncomplete := true } : CheckOptions).load fs =
      ({ options with allowIncomplete := false } : CheckOptions).load fs := by
  obtain ⟨records, formed, loaded⟩ := loads
  refine Traced.bind_congr_of_ok fun others formedToo => ?_
  obtain rfl := Except.ok.inj (formed.symm.trans formedToo)
  rcases Run.loadAll_cases fs records with ⟨same, -⟩ | ⟨_, _, _, _, refuses, -⟩
  · rw [same]
  · exact nomatch loaded.symm.trans refuses

end CommandLine.CheckOptions

/-- The same files read with and without tolerance of uneven lengths. Runs that load without it are even and load with
it alike, down to the events. Runs that load with it load without it if they are even, and else the first uneven one
is the error. Any other failure is the same in both. So a check that ends well without tolerance does, prints and
reports the same with it. -/
theorem tolerance_changes_no_run {State : Type} (fs : FileSystem) (records : List Record) (options : CheckOptions)
    (json : Bool) (sampler : Sampler State) (start : Option UInt64 → State) :
    let strict := Run.loadAll fs false records
    let tolerant := Run.loadAll fs true records
    let outcome := fun allowIncomplete =>
      Invocation.execute ⟨json, .check { options with allowIncomplete }⟩ sampler start fs
    (∀ runs, strict.result = .ok runs → tolerant = strict ∧ ∀ run ∈ runs, run.IsEven) ∧
    (∀ runs, tolerant.result = .ok runs → strict.result =
      match runs.find? fun run => ¬run.IsEven with
      | none => .ok runs
      | some uneven => .error uneven.mismatch) ∧
    (∀ failure, strict.result = .error failure →
      (∀ config output proposals decisions, failure ≠ .input (.lengthMismatch config output proposals decisions)) →
      tolerant = strict) ∧
    ((outcome false).ending.exitCode = 0 → outcome true = outcome false) := by
  intro strict tolerant outcome
  have cases := Run.loadAll_cases fs records
  refine ⟨?_, ?_, ?_, ?_⟩
  · intro runs loads
    rcases cases with ⟨same, even⟩ | ⟨_, _, _, _, refuses, -⟩
    · exact ⟨same, even runs loads⟩
    · exact nomatch loads.symm.trans refuses
  · intro runs loads
    rcases cases with ⟨same, even⟩ | ⟨before, uneven, even, isUneven, refuses, later⟩
    · have strictly : strict.result = .ok runs := (congrArg Traced.result same).symm.trans loads
      have noneUneven : runs.find? (fun run => ¬run.IsEven) = none := by simpa using even runs strictly
      rw [noneUneven]
      exact strictly
    · obtain ⟨after, rfl⟩ := later runs loads
      have firstUneven : (before ++ uneven :: after).find? (fun run => ¬run.IsEven) = some uneven := by
        have silent : before.find? (fun run => ¬run.IsEven) = none := by simpa using even
        rw [List.find?_append, silent, List.find?_cons_of_pos (by simpa using isUneven)]
        rfl
      rw [firstUneven]
      exact refuses
  · intro failure fails other
    rcases cases with ⟨same, -⟩ | ⟨_, _, _, _, refuses, -⟩
    · exact same
    · exact absurd (Except.error.inj (fails.symm.trans refuses)) (other _ _ _ _)
  · intro succeeds
    obtain ⟨runs, loads, -⟩ := (CheckOptions.exitCode_eq_zero_iff json).1 succeeds
    exact CheckOptions.execute_congr (CheckOptions.load_tolerant_of_strict loads) rfl

def unevenFiles : FileSystem :=
  .ofNodes [
    (Location.root.enter "1.config", .file (Text.encode "1 1 3\n0\n")),
    (Location.root.enter "1.output", .file (Text.encode "0\n")),
    (Location.root.enter "2.config", .file (Text.encode "1 1 3\n0\n")),
    (Location.root.enter "2.output", .file (Text.encode "0\n0 1\n"))]

def Record.named (index : Nat) (name : String) : Record := ⟨index, name ++ ".config", name ++ ".output"⟩

def evenRun : Run := ⟨.named 1 "1", ⟨"1.config", ⟨1, 1, 3⟩, [.ofList [0]]⟩, ⟨"1.output", [.ofList [0]]⟩⟩

def unevenRun : Run :=
  ⟨.named 2 "2", ⟨"2.config", ⟨1, 1, 3⟩, [.ofList [0]]⟩, ⟨"2.output", [.ofList [0], .ofList [0, 1]]⟩⟩

def evenCheck : CheckOptions where
  configs := ["1.config"]
  outputs := ["1.output"]
  logDirectory := none
  processes := none
  allowIncomplete := false
  keepGoing := false

theorem tolerance_changes_no_run_uneven :
    let outcome := fun allowIncomplete =>
      Invocation.execute ⟨false, .check { evenCheck with allowIncomplete }⟩ Mixing.sampler (.start 0) unevenFiles
    (Run.loadAll unevenFiles false [.named 1 "1"]).result = .ok [evenRun] ∧
      Run.loadAll unevenFiles true [.named 1 "1"] = Run.loadAll unevenFiles false [.named 1 "1"] ∧
      (Run.loadAll unevenFiles true [.named 1 "1", .named 2 "2"]).result = .ok [evenRun, unevenRun] ∧
      (Run.loadAll unevenFiles false [.named 1 "1", .named 2 "2"]).result =
        .error (.input (.lengthMismatch "2.config" "2.output" 1 2)) ∧
      (Run.loadAll unevenFiles false [.named 3 "3", .named 2 "2"]).result =
        .error (.refused .opening "3.config" .notFound) ∧
      Run.loadAll unevenFiles true [.named 3 "3", .named 2 "2"] =
        Run.loadAll unevenFiles false [.named 3 "3", .named 2 "2"] ∧
      (outcome false).ending.exitCode = 0 ∧ outcome true = outcome false := by
  intro outcome
  have single := tolerance_changes_no_run unevenFiles [.named 1 "1"] evenCheck false Mixing.sampler (.start 0)
  have both :=
    tolerance_changes_no_run unevenFiles [.named 1 "1", .named 2 "2"] evenCheck false Mixing.sampler (.start 0)
  have absent :=
    tolerance_changes_no_run unevenFiles [.named 3 "3", .named 2 "2"] evenCheck false Mixing.sampler (.start 0)
  have loads : (Run.loadAll unevenFiles false [.named 1 "1"]).result = .ok [evenRun] := by decide +kernel
  have tolerates : (Run.loadAll unevenFiles true [.named 1 "1", .named 2 "2"]).result = .ok [evenRun, unevenRun] := by
    decide +kernel
  have fails : (Run.loadAll unevenFiles false [.named 3 "3", .named 2 "2"]).result =
      .error (.refused .opening "3.config" .notFound) := by decide +kernel
  have succeeds : (outcome false).ending.exitCode = 0 := by decide +kernel
  refine ⟨loads, (single.1 _ loads).1, tolerates, both.2.1 _ tolerates, fails, absent.2.2.1 _ fails ?_, succeeds,
    single.2.2.2 succeeds⟩
  intro config output proposals decisions same
  cases same

end AgreementAudit

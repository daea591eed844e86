import AgreementAudit.Proofs.CheckedDirectory
import AgreementAudit.Proofs.GenerationFrame
import AgreementAudit.Proofs.GenerationProgress
import AgreementAudit.Proofs.RoundAgreement
import Mathlib.Data.List.Nodup

/-! Generation and check put together. What a generation has drawn, and what processes have written down as their
decisions in the same directory, is what the check of the directory judges. -/
namespace AgreementAudit

open CommandLine (Accepted CheckOptions Invocation)
open FileSystem (Touches writeFiles)

/-- A check without warnings, whose exit code tells whether the processes agree. -/
structure Judges (outcome : Outcome) (processes rounds : Nat) (proposed decided : Nat → Nat → ValueSet) :
    Prop where
  calm : ∀ event ∈ outcome.events, event.level ≠ .warn
  accepts : outcome.ending.exitCode = 0 ↔ RoundAgreement processes rounds proposed decided
  rejects : outcome.ending.exitCode = 1 ↔ ¬RoundAgreement processes rounds proposed decided

theorem lt_iff_le_recordRoom {processes : Nat} : processes < 164703072086692426 ↔ processes ≤ recordRoom := by
  have room : recordRoom = 164703072086692425 := by decide
  omega

section Directory

variable {directory : Path} {header : Header} {fs : FileSystem} {draws values : Nat → Nat → List Value}
  {trailing : Nat → Nat → Bool}

def outputFiles (processes rounds : Nat) (values : Nat → Nat → List Value) (trailing : Nat → Nat → Bool) :
    List (String × Text.Bytes) :=
  (List.range' 1 processes).map fun process =>
    (outputName process, Text.encode (outputText (List.range' 1 rounds) (values process) (trailing process)))

theorem fst_outputFiles (processes rounds : Nat) :
    (outputFiles processes rounds values trailing).map Prod.fst = (List.range' 1 processes).map outputName :=
  List.map_map

theorem touches_of_writeFiles {processes rounds : Nat} {generated files : FileSystem}
    (wrote : writeFiles directory (outputFiles processes rounds values trailing) generated = .ok files) :
    Touches directory ((List.range' 1 processes).map outputName) generated files ∧
      (files.Apart directory (fileNames processes) → ∀ process ∈ List.range' 1 processes,
        files.contentOf (Path.join directory (outputName process)) =
          .ok (Text.encode (outputText (List.range' 1 rounds) (values process) (trailing process)))) := by
  have distinct : ((outputFiles processes rounds values trailing).map Prod.fst).Nodup := by
    rw [fst_outputFiles]
    exact List.Nodup.map (fun _ _ same => outputName_inj same) List.nodup_range'
  have written := FileSystem.writeFiles_eq_ok distinct wrote
  rw [fst_outputFiles] at written
  obtain ⟨touches, held⟩ := written
  refine ⟨touches, ?_⟩
  intro apart process member
  refine held (apart.mono ?_) _ (List.mem_map_of_mem member)
  intro name named
  obtain ⟨index, inRange, rfl⟩ := List.mem_map.1 named
  exact (mem_fileNames inRange).2

/-- With one name for each file before, the files of all processes are apart. -/
theorem apart_of_single {processes rounds : Nat} {generated files : FileSystem} (single : generated.Single)
    (wrote : writeFiles directory (outputFiles processes rounds values trailing) generated = .ok files) :
    files.Apart directory (fileNames processes) :=
  ((touches_of_writeFiles wrote).1.single single).apart fun _ named => isName_of_mem_fileNames named

theorem contentOf_of_apart {processes : Nat} {generated files : FileSystem} {content : Text.Bytes}
    (touches : Touches directory ((List.range' 1 processes).map outputName) generated files)
    (apart : files.Apart directory (fileNames processes)) {process : Nat} (member : process ∈ List.range' 1 processes)
    (held : generated.contentOf (Path.join directory (configName process)) = .ok content) :
    files.contentOf (Path.join directory (configName process)) = .ok content := by
  refine touches.contentOf held (List.forall_mem_map.2 ?_)
  intro other otherMember
  exact apart _ (mem_fileNames otherMember).2 _ (mem_fileNames member).1 (configName_ne_outputName process other).symm

theorem load_of_written {process : Nat}
    (drawn : fs.contentOf (Path.join directory (configName process)) =
      .ok (Text.encode (configText header ((List.range' 1 header.proposals.toNat).map (draws process)))))
    (decided : fs.contentOf (Path.join directory (outputName process)) =
      .ok (Text.encode (outputText (List.range' 1 header.proposals.toNat) (values process) (trailing process))))
    (fits : header.proposals.toNat ≤ listRoom) :
    Run.load fs false (.ofDirectory directory process) =
      ⟨[.processLoaded process header.proposals.toNat header.values.toNat],
        .ok (runOf directory header header.proposals.toNat (fun process round => .ofList (draws process round))
          (fun process round => .ofList (values process round)) process)⟩ := by
  have readConfig := ProposalFile.read_configText drawn (by rw [List.length_map, List.length_range']) fits
  have readOutput : DecisionLog.read fs (Path.join directory (outputName process)) =
      .ok ⟨Path.join directory (outputName process),
        (List.range' 1 header.proposals.toNat).map fun round => ValueSet.ofList (values process round)⟩ :=
    DecisionLog.read_outputText decided fun round _ value => ValueSet.mem_ofList
  rw [List.map_map] at readConfig
  have even : ((List.range' 1 header.proposals.toNat).map (ValueSet.ofList ∘ draws process)).length =
      ((List.range' 1 header.proposals.toNat).map fun round => ValueSet.ofList (values process round)).length := by
    rw [List.length_map, List.length_map]
  have loaded : Run.load fs false (.ofDirectory directory process) = _ :=
    Run.load_of_even false readConfig readOutput even
  rw [loaded, List.length_map, List.length_range']
  rfl

theorem judges_of_load {processes : UInt64} {rounds : Nat} {proposed decided : Nat → Nat → ValueSet}
    (fits : processes.toNat ≤ recordRoom)
    (each : ∀ process ∈ List.range' 1 processes.toNat, Run.load fs false (.ofDirectory directory process) =
      ⟨[.processLoaded process rounds header.values.toNat],
        .ok (runOf directory header rounds proposed decided process)⟩) :
    Judges ((CheckOptions.ofDirectory directory processes).execute false fs) processes.toNat rounds proposed
      decided := by
  have loaded := CheckOptions.load_ofDirectory fits each
  obtain ⟨zero, one⟩ := CheckOptions.exitCode_of_load false loaded
  rw [agreement_runs_iff] at zero one
  refine ⟨?_, zero, one⟩
  apply CheckOptions.level_ne_warn_of_load false loaded
  intro event member warned
  rcases List.mem_append.1 member with loading | last
  · obtain ⟨process, -, same⟩ := List.mem_map.1 loading
    rw [← same] at warned
    cases warned
  · rw [List.mem_singleton.1 last] at warned
    cases warned

end Directory

section Agreed

def plainParameters (processes : UInt64) : GeneratorParameters :=
  { processes, proposals := 1, values := 1, maxLength := 1 }

def plainGeneration (directory : Path) (before : FileSystem) (processes : UInt64) :
    FileSystem × Traced GenerateReport :=
  (plainParameters processes).writeConfigs Mixing.sampler directory before (.start 0 (some 7))

/-- A check ends with this code after all files of its processes have been written, all of which decide in their only
round what all of them propose. -/
def AgreedCheckEnds (directory : Path) (before : FileSystem) (processes : UInt64) (code : Nat) : Prop :=
  ∃ report draws final files invocation,
    (plainGeneration directory before processes).2.result = .ok report ∧
    drawFiles Mixing.sampler (plainParameters processes).header processes.toNat (.start 0 (some 7)) =
      .ok (table processes.toNat 1 draws, final) ∧
    writeFiles directory (outputFiles processes.toNat 1 (fun _ _ => [0]) fun _ _ => false)
      (plainGeneration directory before processes).1 = .ok files ∧
    Invocation.ofArguments ["check", "--log-dir", directory, "--processes", processes.toNat.repr] = .ok invocation ∧
    RoundAgreement processes.toNat 1 (fun process round => .ofList (draws process round)) (fun _ _ => .ofList [0]) ∧
    (invocation.execute Mixing.sampler (.start 0) files).ending.exitCode = code

theorem roundAgreement_of_drawn {processes rounds : Nat} {draws : Nat → Nat → List Value}
    (drawn : ∀ process ∈ List.range' 1 processes, ∀ round ∈ List.range' 1 rounds,
      Drawn Mixing.sampler 1 1 (draws process round)) :
    RoundAgreement processes rounds (fun process round => .ofList (draws process round)) fun _ _ => .ofList [0] := by
  have zero : ∀ value : Value, value < 1 → value = 0 := by
    intro value below
    rw [← UInt32.toNat_inj]
    have small := UInt32.lt_iff_toNat_lt.1 below
    change value.toNat < 1 at small
    exact Nat.lt_one_iff.1 small
  refine ⟨?_, ?_, fun _ _ _ _ _ _ => Or.inl fun _ inside => inside⟩
  · intro process member round inRound value inside
    have below := (drawn process member round inRound).below value (ValueSet.mem_ofList.1 inside)
    rw [zero value below]
    exact ValueSet.mem_ofList.2 (List.mem_singleton_self 0)
  · intro process member round inRound value inside
    have asDrawn := drawn process member round inRound
    obtain ⟨first, listed⟩ := List.exists_mem_of_length_pos asDrawn.nonempty
    have same : value = first := by
      rw [List.mem_singleton.1 (ValueSet.mem_ofList.1 inside), zero first (asDrawn.below first listed)]
    exact ⟨process, member, round, inRound, same ▸ ValueSet.mem_ofList.2 listed⟩

theorem agreedCheckEnds {before files : FileSystem} {processes : UInt64} {report : GenerateReport}
    (accepted : Accepted directory) (succeeded : (plainGeneration directory before processes).2.result = .ok report)
    (wrote : writeFiles directory (outputFiles processes.toNat 1 (fun _ _ => [0]) fun _ _ => false)
      (plainGeneration directory before processes).1 = .ok files) :
    AgreedCheckEnds directory before processes
      ((CheckOptions.ofDirectory directory processes).execute false files).ending.exitCode := by
  obtain ⟨draws, final, drawn, -, -⟩ := GeneratorParameters.writeConfigs_eq_ok
    (Prod.eta (plainGeneration directory before processes)).symm succeeded
  refine ⟨report, draws, final, files, _, succeeded, drawn, wrote, CommandLine.ofArguments_check accepted processes,
    roundAgreement_of_drawn ?_, rfl⟩
  intro process member round inRound
  have positive : 0 < (plainParameters processes).header.maxLength.toNat :=
    GeneratorParameters.effectiveMaxLength_pos rfl
  exact drawn_of_drawFiles Mixing.fair positive GeneratorParameters.effectiveMaxLength_le drawn member inRound

theorem exists_ready : ∃ made, (FileTree.rooted []).makeDirectories "d" = (made, .ok ()) ∧
    Ready "d" (Location.root.enter "d") made := by
  refine ⟨(FileSystem.rooted []).put (Location.root.enter "d") .directory, rfl, ?_, rfl, rfl, ?_⟩
  · exact fun _ member => absurd member List.not_mem_nil
  · intro name there
    have deeper : (Location.root.enter "d").enter name ≠ Location.root.enter "d" := by
      intro same
      cases congrArg Location.depth same
    have below : (Location.root.enter "d").enter name ≠ .root := by
      intro same
      cases congrArg Location.depth same
    have missing : (FileSystem.rooted []).entryAt ((Location.root.enter "d").enter name) = none := if_neg below
    rw [FileSystem.entryAt_put_other deeper, missing] at there
    cases there

theorem fits_plain {processes : UInt64} {index : Nat} (member : index ∈ List.range' 1 processes.toNat)
    {extension : String} (plain : extension = "config" ∨ extension = "output") :
    Fits "d" (fileName index extension) := by
  refine fits_fileName plain ?_ (by decide) (by decide)
  have few := processes.toNat_lt
  rw [List.mem_range'_1] at member
  omega

theorem agreedCheckEnds_of_crowded {processes : UInt64} (few : processes.toNat ≤ listRoom)
    (many : recordRoom < processes.toNat) :
    AgreedCheckEnds "d" (FileTree.rooted []).toFileSystem processes 101 := by
  obtain ⟨made, making, ready⟩ := exists_ready
  have valid : (plainParameters processes).validate = .ok () := rfl
  obtain ⟨report, succeeded, readyThere⟩ := GeneratorParameters.exists_writeConfigs Mixing.fair valid few making ready
    (fun index member => fits_plain member (Or.inl rfl)) (.start 0 (some 7))
  have fit : ∀ entry ∈ outputFiles processes.toNat 1 (fun _ _ => [0]) fun _ _ => false, Fits "d" entry.1 := by
    unfold outputFiles
    rw [List.forall_mem_map]
    exact fun index member => fits_plain member (Or.inr rfl)
  obtain ⟨files, wrote⟩ := readyThere.exists_writeFiles fit
  have accepted : Accepted "d" := ⟨by decide, by decide⟩
  have ends := agreedCheckEnds accepted succeeded wrote
  rwa [CheckOptions.execute_of_crowded many false] at ends

/-- Not every check of processes that agree succeeds: there may be too many of them, or the config file of one may be its
output file under another name. -/
theorem exists_agreed_check_that_fails :
    AgreedCheckEnds "d" (FileTree.rooted []).toFileSystem 164703072086692426 101 ∧
      AgreedCheckEnds "cfg" linkedFiles 1 1 := by
  refine ⟨agreedCheckEnds_of_crowded (by decide) (by decide), ?_⟩
  have accepted : Accepted "cfg" := ⟨by decide, by decide⟩
  have succeeded : (plainGeneration "cfg" linkedFiles 1).2.result =
      .ok ((plainParameters 1).report "cfg" ["cfg/proc01.config"]) := by
    decide +kernel
  have checked : (writeFiles "cfg" (outputFiles 1 1 (fun _ _ => [0]) fun _ _ => false)
      (plainGeneration "cfg" linkedFiles 1).1).map
        (fun files => ((CheckOptions.ofDirectory "cfg" 1).execute false files).ending.exitCode) = .ok 1 := by
    decide +kernel
  cases wrote : writeFiles "cfg" (outputFiles 1 1 (fun _ _ => [0]) fun _ _ => false)
      (plainGeneration "cfg" linkedFiles 1).1 with
  | error refusal =>
    rw [wrote] at checked
    cases checked
  | ok files =>
    rw [wrote] at checked
    have code : ((CheckOptions.ofDirectory "cfg" 1).execute false files).ending.exitCode = 1 := Except.ok.inj checked
    exact code ▸ agreedCheckEnds accepted succeeded wrote

end Agreed

section Main

variable {State : Type} {sampler : Sampler State} {parameters : GeneratorParameters} {directory : Path}
  {before generated : FileSystem} {state : State} {writing : Traced GenerateReport} {report : GenerateReport}

/-- The check of a generated directory judges the decisions by what was drawn, as long as there is room for a list of the
processes and no two of their files are one, and neither command warns. Without the room the check is halted. -/
theorem check_generated (accepted : Accepted directory) (few : parameters.proposals.toNat < 384307168202282326)
    (written : parameters.writeConfigs sampler directory before state = (generated, writing))
    (succeeded : writing.result = .ok report) :
    let processes := parameters.processes.toNat
    let rounds := parameters.proposals.toNat
    ∃ draws final,
      drawFiles sampler parameters.header processes state = .ok (table processes rounds draws, final) ∧
      (∀ event ∈ writing.events, event.level ≠ .warn) ∧
      ∀ (values : Nat → Nat → List Value) (trailing : Nat → Nat → Bool) (files : FileSystem)
        (start : Option UInt64 → State),
        writeFiles directory (outputFiles processes rounds values trailing) generated = .ok files →
        ∃ invocation,
          Invocation.ofArguments ["check", "--log-dir", directory, "--processes", processes.repr] =
            .ok invocation ∧
          let proposed := fun process round => ValueSet.ofList (draws process round)
          let decided := fun process round => ValueSet.ofList (values process round)
          let outcome := invocation.execute sampler start files
          (processes < 164703072086692426 → files.Apart directory (fileNames processes) →
            Judges outcome processes rounds proposed decided ∧
            ∀ chosen, DecidesUnions processes rounds proposed decided chosen → outcome.ending.exitCode = 0) ∧
          (164703072086692426 ≤ processes →
            outcome.ending.exitCode = 101 ∧ ∀ event ∈ outcome.events, event.level ≠ .warn) := by
  intro processes rounds
  obtain ⟨draws, final, drawn, held, told⟩ := GeneratorParameters.writeConfigs_eq_ok written succeeded
  refine ⟨draws, final, drawn, ?_, ?_⟩
  · intro event member warned
    rw [told] at member
    obtain ⟨index, -, same⟩ := List.mem_map.1 member
    rw [← same] at warned
    cases warned
  intro values trailing files start wrote
  refine ⟨_, CommandLine.ofArguments_check accepted parameters.processes, ?_⟩
  intro proposed decided outcome
  refine ⟨?_, ?_⟩
  · intro fits apart
    obtain ⟨touches, outputs⟩ := touches_of_writeFiles wrote
    have apartBefore := touches.apart apart
    have judges : Judges outcome processes rounds proposed decided := by
      have room : rounds ≤ listRoom := by
        have size : listRoom = 384307168202282325 := by decide
        omega
      apply judges_of_load (lt_iff_le_recordRoom.1 fits)
      intro process member
      have alone := alone_of_apart apartBefore (fun index inRange => (mem_fileNames inRange).1) member
      exact load_of_written (contentOf_of_apart touches apart member (held process member alone))
        (outputs apart process member) room
    exact ⟨judges, fun chosen unions => judges.accepts.2 unions.agreement⟩
  · intro crowded
    have many : recordRoom < processes := Nat.lt_of_not_le (mt lt_iff_le_recordRoom.2 (Nat.not_lt.2 crowded))
    have halted : outcome = .halted .tooManyEntries files := CheckOptions.execute_of_crowded many false
    rw [halted]
    exact ⟨rfl, fun _ member => absurd member List.not_mem_nil⟩

end Main

def pairParameters : GeneratorParameters := { processes := 2, proposals := 2, values := 3, maxLength := 2 }

def pairGeneration : FileSystem × Traced GenerateReport :=
  pairParameters.writeConfigs Mixing.sampler "logs" (FileTree.rooted ["work"]).toFileSystem (.start 0 (some 7))

theorem check_generated_pair :
    Accepted "logs" ∧ pairParameters.proposals.toNat < 384307168202282326 ∧
      pairGeneration.2.result = .ok (pairParameters.report "logs" ["logs/proc01.config", "logs/proc02.config"]) ∧
      ∃ files invocation,
        writeFiles "logs" (outputFiles 2 2 (fun _ _ => [1, 0]) fun _ _ => true) pairGeneration.1 = .ok files ∧
        Invocation.ofArguments ["check", "--log-dir", "logs", "--processes", "2"] = .ok invocation ∧
        (invocation.execute Mixing.sampler (.start 0) files).ending.exitCode = 0 := by
  have accepted : Accepted "logs" := ⟨by decide, by decide⟩
  have few : pairParameters.proposals.toNat < 384307168202282326 := by decide
  have succeeded : pairGeneration.2.result =
      .ok (pairParameters.report "logs" ["logs/proc01.config", "logs/proc02.config"]) := by
    decide +kernel
  have shown : (drawFiles Mixing.sampler pairParameters.header 2 (.start 0 (some 7))).map Prod.fst =
      .ok [[[1], [1]], [[0, 1], [1]]] := by
    decide +kernel
  have room : (writeFiles "logs" (outputFiles 2 2 (fun _ _ => [1, 0]) fun _ _ => true) pairGeneration.1).toBool =
      true := by
    decide +kernel
  refine ⟨accepted, few, succeeded, ?_⟩
  obtain ⟨draws, final, drawn, -, check⟩ := check_generated accepted few (Prod.eta pairGeneration).symm succeeded
  cases wrote : writeFiles "logs" (outputFiles 2 2 (fun _ _ => [1, 0]) fun _ _ => true) pairGeneration.1 with
  | error refusal =>
    rw [wrote] at room
    cases room
  | ok files =>
    obtain ⟨invocation, read, judged, -⟩ := check (fun _ _ => [1, 0]) (fun _ _ => true) files (.start 0) wrote
    have single := (pairParameters.keeps_of_writeConfigs Mixing.sampler "logs" (FileTree.rooted ["work"]).toFileSystem
      (.start 0 (some 7))).single (FileTree.rooted ["work"]).single
    refine ⟨files, invocation, rfl, read, (judged (by decide) (apart_of_single single wrote)).2 (fun _ => [1, 2]) ?_⟩
    have drawnSets : table 2 2 draws = [[[1], [1]], [[0, 1], [1]]] :=
      Except.ok.inj ((congrArg (Except.map Prod.fst) drawn).symm.trans shown)
    simp only [table, List.range', List.map_cons, List.map_nil, List.cons.injEq, and_true] at drawnSets
    obtain ⟨⟨first, second⟩, third, fourth⟩ := drawnSets
    refine ⟨by decide, by decide, ?_⟩
    intro process _ round _ value
    change value ∈ ValueSet.ofList [1, 0] ↔ ∃ proposer ∈ [1, 2], ∃ other ∈ [1, 2],
      value ∈ ValueSet.ofList (draws proposer other)
    simp only [ValueSet.mem_ofList, List.mem_cons, List.not_mem_nil, or_false, exists_eq_or_imp, exists_eq_left,
      first, second, third, fourth]
    grind

end AgreementAudit

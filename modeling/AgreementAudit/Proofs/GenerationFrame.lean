import AgreementAudit.Proofs.SeededFiles

/-! What a generation leaves alone. Rejected parameters change nothing; otherwise only the directory, the missing ones
around it and the config files of the processes may come into being or change. A generation that stops in front of a file
has finished the files before it and has not begun those behind it. -/
namespace AgreementAudit

open FileSystem (Touches)
open Text (Bytes)

variable {State : Type} {sampler : Sampler State} {parameters : GeneratorParameters} {directory : Path}
  {fs after : FileSystem} {state : State}

theorem halted_of_drawProposals {values : UInt32} {maxLength : UInt64} {count : Nat} {failure : Failure}
    (fails : drawProposals sampler values maxLength count state = .error failure) :
    failure = .halted .nothingToDraw := by
  induction count generalizing state with
  | zero => cases fails
  | succ count ih =>
    rcases bind_eq_error_iff.1 fails with undrawn | ⟨⟨proposal, next⟩, -, later⟩
    · unfold drawProposal at undrawn
      split at undrawn
      · exact (Except.error.inj undrawn).symm
      · dsimp only at undrawn
        split at undrawn
        · exact (Except.error.inj undrawn).symm
        · cases undrawn
    · rcases bind_eq_error_iff.1 later with others | ⟨_, -, made⟩
      · exact ih others
      · cases made

def configNames (processes : Nat) : List String := (List.range' 1 processes).map configName

theorem isName_of_mem_configNames {processes : Nat} : ∀ name ∈ configNames processes, Path.IsName name := by
  intro name named
  obtain ⟨index, -, rfl⟩ := List.mem_map.1 named
  exact isName_configName index

theorem configName_mem_iff {processes index : Nat} :
    configName index ∈ configNames processes ↔ index ∈ List.range' 1 processes := by
  apply Iff.intro
  · intro named
    obtain ⟨other, member, same⟩ := List.mem_map.1 named
    exact configName_inj same ▸ member
  · exact List.mem_map_of_mem

theorem outputName_notMem (processes index : Nat) : outputName index ∉ configNames processes := by
  intro named
  obtain ⟨other, -, same⟩ := List.mem_map.1 named
  exact configName_ne_outputName other index same

/-- Only the config files of the first processes, under all of their names, and directories on the way to theirs may have
changed. All other files, wherever they are, have kept their content. Without further names, the config files of other
processes and all output files are among them. -/
structure KeepsOthers (directory : Path) (processes : Nat) (before after : FileSystem) : Prop
    extends Touches directory (configNames processes) before after where
  files : ∀ path content, before.contentOf path = .ok content →
    (∀ index ∈ List.range' 1 processes, ¬after.SameFile (Path.join directory (configName index)) path) →
      after.contentOf path = .ok content
  configs : before.Single → ∀ index ∉ List.range' 1 processes, ∀ content,
    before.contentOf (Path.join directory (configName index)) = .ok content →
      after.contentOf (Path.join directory (configName index)) = .ok content
  outputs : before.Single → ∀ index content, before.contentOf (Path.join directory (outputName index)) = .ok content →
    after.contentOf (Path.join directory (outputName index)) = .ok content

theorem FileSystem.Touches.keepsOthers {processes : Nat}
    (touches : Touches directory (configNames processes) fs after) : KeepsOthers directory processes fs after := by
  refine ⟨touches, ?_, ?_, ?_⟩
  · intro path content held apart
    exact touches.contentOf held (List.forall_mem_map.2 apart)
  · intro single index outside content held
    exact touches.contentOf_join single isName_of_mem_configNames (isName_configName index)
      (mt configName_mem_iff.1 outside) held
  · intro single index content held
    exact touches.contentOf_join single isName_of_mem_configNames (isName_outputName index)
      (outputName_notMem processes index) held

/-- What is there when only the first files are complete and only the first ones were begun. A complete file holds its share
unless it was begun again under the name of another process, and a file that was not begun under any name is as it was. -/
structure StopsBehind (sampler : Sampler State) (header : Header) (state : State) (directory : Path) (done begun : Nat)
    (before after : FileSystem) : Prop where
  complete : ∀ index ∈ List.range' 1 done, Alone directory (List.range' 1 begun) after index →
    HoldsShare sampler header state directory after index
  others : KeepsOthers directory begun before after
  untouched : ∀ later, begun < later →
    (∀ index ∈ List.range' 1 begun,
      ¬after.SameFile (Path.join directory (configName index)) (Path.join directory (configName later))) →
    ∀ location content, after.locate (Path.join directory (configName later)) = .ok location →
      (after.nodeAt location = some (.file content) ↔ before.nodeAt location = some (.file content))

/-- A directory is there, and so are those that its path comes through. The empty path has no entry of its own. -/
def Stands (directory : Path) (fs : FileSystem) : Prop :=
  directory ≠ "" → fs.isDirectory directory = true ∧
    ∀ location, fs.Passes directory location → fs.nodeAt location = some .directory

/-- The ways in which a generation with accepted parameters can end: all files are complete, or the directory could not be
made and no file has been touched, or a file could not be created, or a write was refused and a file holds a beginning of
its share, or the machine has given up. -/
inductive GenerationEnd (parameters : GeneratorParameters) (sampler : Sampler State) (state : State) (directory : Path)
    (before after : FileSystem) : Except Failure GenerateReport → Prop
  | complete (stands : Stands directory after)
      (holds : ∀ index ∈ List.range' 1 parameters.processes.toNat,
        Alone directory (List.range' 1 parameters.processes.toNat) after index →
          HoldsShare sampler parameters.header state directory after index) :
      GenerationEnd parameters sampler state directory before after
        (.ok (parameters.report directory ((List.range' 1 parameters.processes.toNat).map fun index =>
          Path.join directory (configName index))))
  | unmade {refusal : Refusal} (others : KeepsOthers directory 0 before after) :
      GenerationEnd parameters sampler state directory before after (.error (.refused .creating directory refusal))
  | stopped {index : Nat} {refusal : Refusal} (stands : Stands directory after)
      (next : index ∈ List.range' 1 parameters.processes.toNat)
      (stops : StopsBehind sampler parameters.header state directory (index - 1) (index - 1) before after) :
      GenerationEnd parameters sampler state directory before after
        (.error (.refused .creating (Path.join directory (configName index)) refusal))
  | broken {index : Nat} {failure : Failure} {content : Bytes} {drawn : List (List (List Value))} {left : State}
      (stands : Stands directory after) (next : index ∈ List.range' 1 parameters.processes.toNat)
      (stops : StopsBehind sampler parameters.header state directory (index - 1) index before after)
      (writing : failure.OfWriting (Path.join directory (configName index)))
      (held : after.contentOf (Path.join directory (configName index)) = .ok content)
      (draws : drawFiles sampler parameters.header (index - 1) state = .ok (drawn, left))
      (begins : IsBeginning sampler parameters.header left content) :
      GenerationEnd parameters sampler state directory before after (.error failure)
  | halted {reason : Halt} (stands : Stands directory after) :
      GenerationEnd parameters sampler state directory before after (.error (.halted reason))

theorem GenerationEnd.stopsBehind {result : Except Failure GenerateReport} {index : Nat} {refusal : Refusal}
    (ends : GenerationEnd parameters sampler state directory fs after result)
    (fails : result = .error (.refused .creating (Path.join directory (configName index)) refusal)) :
    index ∈ List.range' 1 parameters.processes.toNat ∧
      StopsBehind sampler parameters.header state directory (index - 1) (index - 1) fs after := by
  cases ends with
  | complete => cases fails
  | unmade others =>
    obtain ⟨-, same, -⟩ := Failure.refused.inj (Except.error.inj fails)
    exact absurd same.symm (Path.join_ne_self (isName_configName index))
  | stopped stands next stops =>
    obtain ⟨-, same, -⟩ := Failure.refused.inj (Except.error.inj fails)
    obtain rfl := configName_inj (Path.join_inj same)
    exact ⟨next, stops⟩
  | broken stands next stops writing =>
    obtain rfl := Except.error.inj fails
    cases writing
  | halted => cases Except.error.inj fails

theorem stands_of_makeDirectories {made : FileSystem} (making : fs.makeDirectories directory = (made, .ok ()))
    (keeps : FileSystem.Keeps made after) : Stands directory after := by
  intro named
  have there := keeps.isDirectory ((FileSystem.touches_of_makeDirectories making).2 rfl named)
  exact ⟨there, fun _ passes => FileSystem.nodeAt_of_passes there passes⟩

theorem stopsBehind_of_touches {done begun : Nat}
    (complete : ∀ index ∈ List.range' 1 done, Alone directory (List.range' 1 begun) after index →
      HoldsShare sampler parameters.header state directory after index)
    (touches : Touches directory (configNames begun) fs after) :
    StopsBehind sampler parameters.header state directory done begun fs after := by
  refine ⟨complete, touches.keepsOthers, ?_⟩
  intro later behind apart location content located
  refine touches.file_iff isName_of_mem_configNames (isName_configName later) ?_ located (List.forall_mem_map.2 apart)
  rw [configName_mem_iff, List.mem_range'_1]
  omega

theorem next_of_split {processes index : Nat} {done others : List Nat}
    (split : List.range' 1 processes = done ++ index :: others) :
    index ∈ List.range' 1 processes ∧ done = List.range' 1 (index - 1) ∧ done ++ [index] = List.range' 1 index := by
  have member : index ∈ List.range' 1 processes := by
    rw [split]
    exact List.mem_append_cons_self
  obtain ⟨count, -, rfl, rest⟩ := List.range'_eq_append_iff.1 split
  obtain ⟨first, -, -⟩ := List.range'_eq_cons_iff.1 rest.symm
  obtain rfl : index = count + 1 := by omega
  refine ⟨member, rfl, ?_⟩
  rw [List.range'_concat, Nat.one_mul, Nat.add_comm]

namespace GeneratorParameters

theorem writeConfigs_of_rejected {error : InputError} (rejected : parameters.validate = .error error) :
    parameters.writeConfigs sampler directory fs state = (fs, .fail (.input error)) := by
  unfold writeConfigs
  rw [rejected]

theorem end_of_fills {made : FileSystem} {files : Traced (List Path)} {done begun behind : List Nat}
    {drawn : List (List (List Value))} {left : State} (making : fs.makeDirectories directory = (made, .ok ()))
    (split : List.range' 1 parameters.processes.toNat = done ++ behind)
    (fills : parameters.Fills sampler directory made state done begun behind drawn left after files) :
    KeepsOthers directory parameters.processes.toNat fs after ∧
      GenerationEnd parameters sampler state directory fs after
        (do return parameters.report directory (← files) : Traced GenerateReport).result := by
  have touches := (FileSystem.touches_of_makeDirectories making).1.trans fills.touches
  have stands := stands_of_makeDirectories making fills.touches.toKeeps
  have within := fills.ends.begun_subset
  rw [← split] at within
  refine ⟨(touches.mono (List.map_subset _ within)).keepsOthers, ?_⟩
  have ends := fills.ends
  obtain ⟨told, result⟩ := files
  cases ends with
  | complete =>
    rw [List.append_nil] at split
    obtain rfl := split
    exact .complete stands fills.holdsShare
  | refused =>
    obtain ⟨next, rfl, -⟩ := next_of_split split
    exact .stopped stands next (stopsBehind_of_touches fills.holdsShare touches)
  | broken writing held begins =>
    obtain ⟨next, rfl, begun⟩ := next_of_split split
    have shares := fills.holdsShare
    have draws := fills.draws
    rw [begun] at shares touches
    rw [List.length_range'] at draws
    exact .broken stands next (stopsBehind_of_touches shares touches) writing held draws begins
  | undrawn fails =>
    rw [halted_of_drawProposals fails]
    exact .halted stands

theorem writeConfigs_end (accepted : parameters.validate = .ok ()) :
    KeepsOthers directory parameters.processes.toNat fs (parameters.writeConfigs sampler directory fs state).1 ∧
      GenerationEnd parameters sampler state directory fs (parameters.writeConfigs sampler directory fs state).1
        (parameters.writeConfigs sampler directory fs state).2.result := by
  have generates := parameters.writeConfigs_generates sampler directory fs state
  generalize parameters.writeConfigs sampler directory fs state = outcome at generates ⊢
  obtain ⟨after, writing⟩ := outcome
  cases generates with
  | invalid rejected => cases accepted.symm.trans rejected
  | unmade _ making =>
    have around := (FileSystem.touches_of_makeDirectories making).1
    exact ⟨(around.mono (List.nil_subset _)).keepsOthers, .unmade around.keepsOthers⟩
  | crowded _ making many =>
    have around := (FileSystem.touches_of_makeDirectories making).1
    exact ⟨(around.mono (List.nil_subset _)).keepsOthers, .halted (stands_of_makeDirectories making (.refl _))⟩
  | filled _ making few split fills => exact end_of_fills making split fills

end GeneratorParameters

/-- What a generation can change and what it leaves, whatever files there were and however it ends. -/
theorem generation_touches_only_its_files (parameters : GeneratorParameters) (sampler : Sampler State) (directory : Path)
    (fs : FileSystem) (state : State) :
    let processes := parameters.processes.toNat
    let outcome := parameters.writeConfigs sampler directory fs state
    (∀ error, parameters.validate = .error error → outcome = (fs, .fail (.input error))) ∧
    (parameters.validate = .ok () → KeepsOthers directory processes fs outcome.1 ∧
      GenerationEnd parameters sampler state directory fs outcome.1 outcome.2.result) ∧
    (∀ index refusal,
      outcome.2.result = .error (.refused .creating (Path.join directory (configName index)) refusal) →
      index ∈ List.range' 1 processes ∧
      StopsBehind sampler parameters.header state directory (index - 1) (index - 1) fs outcome.1 ∧
      ∀ otherDirectory otherFiles otherReport,
        let other := parameters.writeConfigs sampler otherDirectory otherFiles state
        other.2.result = .ok otherReport → ∀ earlier ∈ List.range' 1 (index - 1),
          Alone directory (List.range' 1 (index - 1)) outcome.1 earlier →
          Alone otherDirectory (List.range' 1 processes) other.1 earlier →
          ∃ content, other.1.contentOf (Path.join otherDirectory (configName earlier)) = .ok content ∧
            outcome.1.contentOf (Path.join directory (configName earlier)) = .ok content) ∧
    ∀ report, outcome.2.result = .ok report →
      report.files = (List.range' 1 processes).map (fun index => Path.join directory (configName index)) ∧
      outcome.2.events = report.files.map .proposalsWritten ∧
      ∀ path ∈ report.files, ∃ content, outcome.1.contentOf path = .ok content := by
  intro processes outcome
  refine ⟨?_, GeneratorParameters.writeConfigs_end, ?_, ?_⟩
  · exact fun _ rejected => GeneratorParameters.writeConfigs_of_rejected rejected
  · intro index refusal fails
    have accepted : parameters.validate = .ok () := by
      cases valid : parameters.validate with
      | error error =>
        have unchanged : outcome = (fs, .fail (.input error)) := GeneratorParameters.writeConfigs_of_rejected valid
        rw [unchanged] at fails
        cases Except.error.inj fails
      | ok => rfl
    obtain ⟨next, stops⟩ := (GeneratorParameters.writeConfigs_end accepted).2.stopsBehind fails
    refine ⟨next, stops, ?_⟩
    intro otherDirectory otherFiles otherReport other succeeded earlier before alone otherAlone
    have among : earlier ∈ List.range' 1 processes := by
      rw [List.mem_range'_1] at before next ⊢
      omega
    have otherHolds := GeneratorParameters.holdsShare_of_succeeded succeeded earlier among otherAlone
    exact otherHolds.alike (stops.complete earlier before alone)
  · intro report succeeded
    have holds := GeneratorParameters.holdsShare_of_succeeded succeeded
    obtain ⟨made, drawn, left, writing, fills, told, rfl⟩ := GeneratorParameters.fills_of_succeeded succeeded
    refine ⟨rfl, ?_, ?_⟩
    · rw [told, fills.tells]
      exact List.map_map.symm
    · rw [GeneratorParameters.report, List.forall_mem_map]
      intro index member
      by_cases alone : Alone directory (List.range' 1 processes) outcome.1 index
      · obtain ⟨proposals, -, held⟩ := holds index member alone
        exact ⟨_, held⟩
      · -- A file that has the name of another process as well is there all the more.
        unfold Alone at alone
        push Not at alone
        obtain ⟨other, -, -, number, -, leads⟩ := alone
        exact ⟨_, FileSystem.contentOf_eq_ok_iff.2 ⟨number, leads, rfl⟩⟩

def plainShape (proposals : UInt64) : GeneratorParameters := { processes := 1, proposals, values := 1, maxLength := 1 }

def spelledFiles : FileSystem :=
  .ofNodes [
    (Location.root.enter "a", .directory),
    (Location.root.enter "proc01.config", .file (Text.encode "1 1 1\n0\n"))]

def spelledGeneration : FileSystem × Traced GenerateReport :=
  (plainShape 2).writeConfigs Mixing.sampler "a/.." spelledFiles (.start 0 (some 7))

def linkedFiles : FileSystem :=
  { home := .root
    entries := [
      (Location.root.enter "cfg", .directory),
      ((Location.root.enter "cfg").enter "proc01.config", .file 0),
      ((Location.root.enter "cfg").enter "proc01.output", .file 0)]
    contents := fun _ => Text.encode "1 1 1\n0\n"
    answers := [] }

def linkedGeneration : FileSystem × Traced GenerateReport :=
  (plainShape 2).writeConfigs Mixing.sampler "cfg" linkedFiles (.start 0 (some 7))

/-- A generation also changes what is read under paths that are not among its own, and even output files. -/
theorem generation_changes_other_paths :
    spelledGeneration.2.result = .ok ((plainShape 2).report "a/.." ["a/../proc01.config"]) ∧
      (¬∀ path content, path ≠ "a/../proc01.config" → spelledFiles.contentOf path = .ok content →
        spelledGeneration.1.contentOf path = .ok content) ∧
      linkedGeneration.2.result = .ok ((plainShape 2).report "cfg" ["cfg/proc01.config"]) ∧
      ¬∀ index content, linkedFiles.contentOf (Path.join "cfg" (outputName index)) = .ok content →
        linkedGeneration.1.contentOf (Path.join "cfg" (outputName index)) = .ok content := by
  have spelled : spelledGeneration.1.contentOf "proc01.config" = .ok (Text.encode "2 1 1\n0\n0\n") := by
    decide +kernel
  have linked : linkedGeneration.1.contentOf "cfg/proc01.output" = .ok (Text.encode "2 1 1\n0\n0\n") := by
    decide +kernel
  have different : Text.encode "2 1 1\n0\n0\n" ≠ Text.encode "1 1 1\n0\n" := by decide
  refine ⟨by decide +kernel, ?_, by decide +kernel, ?_⟩
  · intro kept
    have same := kept "proc01.config" _ (by decide) rfl
    exact different (Except.ok.inj (spelled.symm.trans same))
  · intro kept
    have same := kept 1 _ rfl
    exact different (Except.ok.inj (linked.symm.trans same))

def blockedFiles (answers : List (Option Shortfall)) : FileSystem :=
  { FileSystem.ofNodes [
      ((Location.root.enter "cfg").enter "proc01.output", .file (Text.encode "kept\n")),
      ((Location.root.enter "cfg").enter "proc03.config", .file (Text.encode "old\n")),
      ((Location.root.enter "cfg").enter "proc02.config", .directory),
      (Location.root.enter "cfg", .directory)] with answers }

theorem single_blockedFiles (answers : List (Option Shortfall)) : (blockedFiles answers).Single :=
  FileSystem.single_ofNodes (by decide)

def blockedGeneration (maxLength : UInt64) (answers : List (Option Shortfall)) : FileSystem × Traced GenerateReport :=
  (narrowShape 3 maxLength).writeConfigs Mixing.sampler "cfg" (blockedFiles answers) (.start 0 (some 7))

def full : List (Option Shortfall) :=
  [some ⟨6, .storage "No space left on device (os error 28)"⟩, some ⟨0, .storage "No space left on device (os error 28)"⟩]

theorem generation_touches_only_its_files_blocked :
    blockedGeneration 0 [] = (blockedFiles [], .fail (.input (.invalidParameter .maxLength))) ∧
      (blockedGeneration 9 []).2.result = .error (.refused .creating "cfg/proc02.config" .isADirectory) ∧
      (blockedGeneration 9 []).1.contentOf "cfg/proc01.config" = .ok (Text.encode "2 3 3\n2 1 0\n2 1 0\n") ∧
      (blockedGeneration 9 []).1.contentOf "cfg/proc03.config" = .ok (Text.encode "old\n") ∧
      (blockedGeneration 9 []).1.contentOf "cfg/proc01.output" = .ok (Text.encode "kept\n") ∧
      (blockedGeneration 9 full).2.result = .error (.refused .writing "cfg/proc01.config"
        (.storage "No space left on device (os error 28)")) ∧
      (blockedGeneration 9 full).1.contentOf "cfg/proc01.config" = .ok (Text.encode "2 3 3\n") ∧
      (blockedGeneration 9 full).1.contentOf "cfg/proc01.output" = .ok (Text.encode "kept\n") ∧
      (narrowFiles 2 9 "a/b").2.events =
        [.proposalsWritten "a/b/proc01.config", .proposalsWritten "a/b/proc02.config"] := by
  have fails : (blockedGeneration 9 []).2.result =
      .error (.refused .creating (Path.join "cfg" (configName 2)) .isADirectory) := by
    decide +kernel
  have succeeded : (narrowFiles 3 9 "a/b").2.result = .ok ((narrowShape 3 9).report "a/b"
      ["a/b/proc01.config", "a/b/proc02.config", "a/b/proc03.config"]) := by
    decide +kernel
  have shown : (narrowFiles 3 9 "a/b").1.contentOf "a/b/proc01.config" =
      .ok (Text.encode "2 3 3\n2 1 0\n2 1 0\n") := by
    decide +kernel
  have fewer : (narrowFiles 2 9 "a/b").2.result = .ok ((narrowShape 2 9).report "a/b"
      ["a/b/proc01.config", "a/b/proc02.config"]) := by
    decide +kernel
  have stopped : (blockedGeneration 9 full).2.result = .error (.refused .writing "cfg/proc01.config"
        (.storage "No space left on device (os error 28)")) ∧
      (blockedGeneration 9 full).1.contentOf "cfg/proc01.config" = .ok (Text.encode "2 3 3\n") := by
    decide +kernel
  unfold blockedGeneration at fails stopped ⊢
  unfold narrowFiles at succeeded shown fewer ⊢
  obtain ⟨rejects, -, -, -⟩ := generation_touches_only_its_files (narrowShape 3 0) Mixing.sampler "cfg"
    (blockedFiles []) (.start 0 (some 7))
  obtain ⟨-, ends, stops, -⟩ := generation_touches_only_its_files (narrowShape 3 9) Mixing.sampler "cfg"
    (blockedFiles []) (.start 0 (some 7))
  obtain ⟨-, endsFull, -, -⟩ := generation_touches_only_its_files (narrowShape 3 9) Mixing.sampler "cfg"
    (blockedFiles full) (.start 0 (some 7))
  obtain ⟨-, -, -, complete⟩ := generation_touches_only_its_files (narrowShape 2 9) Mixing.sampler "a/b"
    (FileTree.rooted ["work"]).toFileSystem (.start 0 (some 7))
  obtain ⟨-, behind, alike⟩ := stops 2 .isADirectory fails
  have alone : ∀ {fs after : FileSystem}, fs.Single → FileSystem.Keeps fs after → ∀ directory indices,
      Alone directory indices after 1 :=
    fun single keeps _ indices => alone_of_single (keeps.single single) indices 1
  have single := single_blockedFiles []
  obtain ⟨content, otherHeld, held⟩ := alike "a/b" (FileTree.rooted ["work"]).toFileSystem _ succeeded 1 (by decide)
    (alone single behind.others.toKeeps _ _)
    (alone (FileTree.rooted ["work"]).single (GeneratorParameters.keeps_of_writeConfigs ..) _ _)
  obtain rfl := Except.ok.inj (otherHeld.symm.trans shown)
  exact ⟨rejects _ rfl, fails, held, behind.others.configs single 3 (by decide) _ rfl,
    (ends rfl).1.outputs single 1 _ rfl, stopped.1, stopped.2,
    (endsFull rfl).1.outputs (single_blockedFiles full) 1 _ rfl, (complete _ fewer).2.1⟩

end AgreementAudit

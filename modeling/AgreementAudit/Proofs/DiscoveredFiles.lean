import AgreementAudit.Proofs.SeededFiles

/-! The files that a check looks for in a directory are those that a generation writes there, in the same order. No two of
them have one path, whatever the numbers of their processes, and no two lead to one place. -/
namespace AgreementAudit

variable {directory : Path} {processes : Nat}

theorem nodup_fileNames (processes : Nat) : (fileNames processes).Nodup := by
  refine List.nodup_flatMap.2 ⟨?_, List.Pairwise.imp ?_ List.nodup_range'⟩
  · intro index _
    exact List.nodup_cons.2 ⟨by simpa using configName_ne_outputName index index, List.nodup_singleton _⟩
  · intro index other different
    have configs : configName index ≠ configName other := mt configName_inj different
    have outputs : outputName index ≠ outputName other := mt outputName_inj different
    simpa [Function.onFun, configName_ne_outputName, (configName_ne_outputName _ _).symm] using
      And.intro configs.symm outputs.symm

def Record.paths (records : List Record) : List Path := records.flatMap fun record => [record.config, record.output]

theorem paths_inDirectory (directory : Path) (processes : Nat) :
    Record.paths (Record.inDirectory directory processes) = (fileNames processes).map (Path.join directory) := by
  rw [Record.paths, Record.inDirectory, List.flatMap_map, fileNames, List.map_flatMap]
  simp only [Record.ofDirectory, List.map_cons, List.map_nil]

theorem length_fileNames (processes : Nat) : (fileNames processes).length = 2 * processes := by
  simp [fileNames, List.length_flatMap, Nat.mul_comm]

/-- Each record of a directory has its own two files, and the config files are those that a generation reports. -/
theorem discovered_files_apart (directory : Path) (processes : Nat) :
    let records := Record.inDirectory directory processes
    let paths := Record.paths records
    (Record.discover directory processes =
      if processes ≤ recordRoom then .ok records else .error (.halted .tooManyEntries)) ∧
    records.map Record.index = List.range' 1 processes ∧
    paths.length = 2 * processes ∧ paths.Nodup ∧
    (paths.Pairwise fun left right => ∀ (fs : FileSystem) (location : Location),
      fs.locate left = .ok location → fs.locate right ≠ .ok location) ∧
    (∀ (State : Type) (sampler : Sampler State) (parameters : GeneratorParameters) (fs : FileSystem) (state : State)
      (report : GenerateReport), parameters.processes.toNat = processes →
      (parameters.writeConfigs sampler directory fs state).2.result = .ok report →
        report.files = records.map Record.config) ∧
    ∀ (i j : Nat) (left right : String), left ∈ ["config", "output"] → right ∈ ["config", "output"] →
      fileName i left = fileName j right → i = j ∧ left = right := by
  intro records paths
  have split : paths = (fileNames processes).map (Path.join directory) := paths_inDirectory directory processes
  refine ⟨?_, ?_, ?_, ?_, ?_, ?_, ?_⟩
  · exact reserve_bind recordRoom processes _
  · exact (List.map_map ..).trans (List.map_id _)
  · rw [split, List.length_map, length_fileNames]
  · rw [split]
    exact (nodup_fileNames processes).map fun _ _ same => Path.join_inj same
  · rw [split, List.pairwise_map]
    apply (nodup_fileNames processes).pairwise_of_forall_ne
    intro left leftNamed right rightNamed different fs location located again
    exact different (FileSystem.locate_join_inj (isName_of_mem_fileNames leftNamed) (isName_of_mem_fileNames rightNamed)
      located again)
  · intro State sampler parameters fs state report counted succeeded
    obtain ⟨-, -, -, -, -, -, rfl⟩ := GeneratorParameters.fills_of_succeeded succeeded
    subst counted
    change _ = (Record.inDirectory directory _).map Record.config
    rw [Record.inDirectory, List.map_map]
    rfl
  · intro i j left right leftKind _ same
    refine fileName_inj ?_ same
    simp only [List.mem_cons, List.not_mem_nil, or_false] at leftKind
    rcases leftKind with rfl | rfl
    · decide
    · decide

theorem discovered_files_apart_pair :
    Record.discover "second/" 2 = .ok [⟨1, "second/proc01.config", "second/proc01.output"⟩,
        ⟨2, "second/proc02.config", "second/proc02.output"⟩] ∧
      (narrowFiles 2 9 "second/").1.locate "second/proc02.output" ≠
        .ok (((Location.root.enter "work").enter "second").enter "proc01.config") ∧
      ((narrowShape 2 9).report "second/" ["second/proc01.config", "second/proc02.config"]).files =
        (Record.inDirectory "second/" 2).map Record.config ∧
      fileName 10 "config" ≠ fileName 100 "config" ∧ fileName 100 "output" ≠ fileName 100 "config" := by
  have succeeded : (narrowFiles 2 9 "second/").2.result =
      .ok ((narrowShape 2 9).report "second/" ["second/proc01.config", "second/proc02.config"]) := by
    decide +kernel
  have located : (narrowFiles 2 9 "second/").1.locate "second/proc01.config" =
      .ok (((Location.root.enter "work").enter "second").enter "proc01.config") := by
    decide +kernel
  obtain ⟨found, -, -, -, apart, reported, names⟩ := discovered_files_apart "second/" 2
  have listed : "second/proc02.output" ∈ ["second/proc01.output", "second/proc02.config", "second/proc02.output"] := by
    decide
  have others := List.rel_of_pairwise_cons apart listed
  unfold narrowFiles at succeeded
  refine ⟨found, others _ _ located, ?_, ?_, ?_⟩
  · exact reported _ Mixing.sampler (narrowShape 2 9) (FileTree.rooted ["work"]).toFileSystem
      (.start 0 (some 7)) _ rfl succeeded
  · exact fun same => absurd (names 10 100 "config" "config" (by decide) (by decide) same).1 (by decide)
  · exact fun same => absurd (names 100 100 "output" "config" (by decide) (by decide) same).2 (by decide)

end AgreementAudit

import AgreementAudit.Proofs.GeneratedFiles

/-! When writing succeeds. A directory is ready if no entry is in the way and the storage does all writes as a whole. Any
number of files can be written into it, and with a fair sampler and accepted parameters a generation does so. -/
namespace AgreementAudit

open FileSystem (ChangesContent Opens writeFiles)
open Text (Bytes)

variable {State : Type} {sampler : Sampler State} {parameters : GeneratorParameters} {directory : Path} {name : String}
  {fs made after : FileSystem} {around : Location} {state : State}

/-- A directory that files can be written into: the way to it is open, nothing in it is a directory, and no write will be
refused. -/
structure Ready (directory : Path) (around : Location) (fs : FileSystem) : Prop where
  steady : fs.Steady
  walked : directory.pieceSteps.foldlM fs.advance (fs.start directory) = .ok around
  there : fs.nodeAt around = some .directory
  free : ∀ name, fs.entryAt (around.enter name) ≠ some .directory

structure Fits (directory : Path) (name : String) : Prop where
  isName : Path.IsName name
  short : name.utf8ByteSize ≤ FileSystem.nameLimit
  nonempty : Path.join directory name ≠ ""
  textual : (Path.join directory name).toList.contains '\x00' = false
  within : (Path.join directory name).utf8ByteSize ≤ FileSystem.pathLimit

namespace Ready

theorem changesContent {number : Nat} (ready : Ready directory around fs) (change : ChangesContent number fs after) :
    Ready directory around after := by
  refine ⟨change.steady ready.steady, ?_, change.keeps.directories ready.there, ?_⟩
  · rw [change.keeps.start]
    exact change.keeps.foldlM_advance ready.walked
  · intro name
    rw [FileSystem.entryAt_congr change.entries]
    exact ready.free name

theorem opens {path : Path} {number : Nat} (ready : Ready directory around fs) (opens : Opens fs path number after) :
    Ready directory around after := by
  refine ⟨?_, ?_, opens.directories ready.there, ?_⟩
  · unfold FileSystem.Steady
    rw [opens.answers]
    exact ready.steady
  · rw [opens.start]
    exact opens.foldlM_advance ready.walked
  · obtain ⟨location, -, there, elsewhere⟩ := opens.place
    intro name
    by_cases same : around.enter name = location
    · rw [same, there]
      exact nofun
    · rw [elsewhere _ same]
      exact ready.free name

theorem locate (ready : Ready directory around fs) (fits : Fits directory name) :
    fs.locate (Path.join directory name) = .ok (around.enter name) := by
  have sameStart : fs.start (Path.join directory name) = fs.start directory := by
    unfold FileSystem.start
    rw [Path.isAbsolute_join fits.isName]
  unfold FileSystem.locate FileSystem.walk
  rw [if_neg fits.nonempty, fits.textual, if_neg Bool.false_ne_true, if_neg (Nat.not_lt.2 fits.within),
    Path.steps_join fits.isName, sameStart, List.foldlM_append, ready.walked]
  change fs.advance around (.enter name) >>= _ = _
  unfold FileSystem.advance
  rw [ready.there]
  dsimp only
  rw [if_pos fits.short]
  rfl

theorem exists_create (ready : Ready directory around fs) (fits : Fits directory name) :
    ∃ number created, fs.create (Path.join directory name) = .ok (number, created) := by
  unfold FileSystem.create
  rw [ready.locate fits]
  simp only [bind, Except.bind]
  split
  next blocked => exact absurd blocked (ready.free name)
  next number there => exact ⟨number, _, rfl⟩
  next missing => exact ⟨_, _, rfl⟩

theorem exists_writeFile (ready : Ready directory around fs) (fits : Fits directory name) (content : Bytes) :
    ∃ after, fs.writeFile (Path.join directory name) content = .ok after ∧ Ready directory around after := by
  obtain ⟨number, created, opened⟩ := ready.exists_create fits
  have readyThere := ready.opens (FileSystem.opens_of_create opened)
  have appends := created.appends_of_append number content
  unfold FileSystem.writeFile
  rw [opened]
  simp only [bind, Except.bind]
  generalize created.append number content = outcome at appends ⊢
  obtain ⟨final, result⟩ := outcome
  cases appends with
  | part change holds answered => exact absurd answered readyThere.steady.not_shortfall
  | whole change => exact ⟨final, rfl, readyThere.changesContent change⟩

theorem exists_writeFiles {entries : List (String × Bytes)} (ready : Ready directory around fs)
    (fit : ∀ entry ∈ entries, Fits directory entry.1) : ∃ after, writeFiles directory entries fs = .ok after := by
  induction entries generalizing fs with
  | nil => exact ⟨fs, rfl⟩
  | cons entry rest ih =>
    obtain ⟨middle, written, readyThere⟩ := ready.exists_writeFile (fit entry List.mem_cons_self) entry.2
    obtain ⟨after, others⟩ := ih readyThere fun other member => fit other (List.mem_cons_of_mem _ member)
    refine ⟨after, ?_⟩
    unfold writeFiles
    rw [List.foldlM_cons]
    exact bind_eq_ok_iff.2 ⟨middle, written, others⟩

end Ready

namespace GeneratorParameters

theorem exists_writeConfig (fair : sampler.Fair) (valid : parameters.validate = .ok ())
    (ready : Ready directory around fs) (fits : Fits directory name) (state : State) :
    ∃ after next, parameters.writeConfig sampler (Path.join directory name) fs state = (after, .ok next) ∧
      Ready directory around after := by
  obtain ⟨number, created, opened⟩ := ready.exists_create fits
  have readyThere := ready.opens (FileSystem.opens_of_create opened)
  obtain ⟨change, ends⟩ := parameters.writeConfig_of_created sampler state opened
  generalize parameters.writeConfig sampler (Path.join directory name) fs state = outcome at change ends ⊢
  obtain ⟨after, result⟩ := outcome
  cases ends with
  | whole => exact ⟨after, _, rfl, readyThere.changesContent change⟩
  | broken writing unsteady => exact absurd readyThere.steady unsteady
  | undrawn fails =>
    obtain ⟨proposals, next, drawn, -⟩ := drawProposals_eq_ok fair (effectiveMaxLength_pos valid) effectiveMaxLength_le
      parameters.header.proposals.toNat state
    cases drawn.symm.trans fails

theorem exists_writeConfigsFrom (fair : sampler.Fair) (valid : parameters.validate = .ok ()) {indices : List Nat}
    (ready : Ready directory around fs) (fit : ∀ index ∈ indices, Fits directory (configName index)) (state : State) :
    ∃ paths, (parameters.writeConfigsFrom sampler directory indices fs state).2.result = .ok paths ∧
      Ready directory around (parameters.writeConfigsFrom sampler directory indices fs state).1 := by
  induction indices generalizing fs state with
  | nil => exact ⟨[], rfl, ready⟩
  | cons index rest ih =>
    obtain ⟨middle, next, written, readyThere⟩ :=
      exists_writeConfig fair valid ready (fit index List.mem_cons_self) state
    obtain ⟨paths, succeeded, readyAfter⟩ :=
      ih readyThere (fun other member => fit other (List.mem_cons_of_mem _ member)) next
    rw [writeConfigsFrom]
    dsimp only
    rw [written]
    dsimp only
    generalize parameters.writeConfigsFrom sampler directory rest middle next = others at succeeded readyAfter ⊢
    obtain ⟨after, told, result⟩ := others
    obtain rfl : result = .ok paths := succeeded
    exact ⟨Path.join directory (configName index) :: paths, rfl, readyAfter⟩

/-- In a directory that is ready once it is made, a generation with accepted parameters succeeds. -/
theorem exists_writeConfigs (fair : sampler.Fair) (valid : parameters.validate = .ok ())
    (few : parameters.processes.toNat ≤ listRoom) (making : fs.makeDirectories directory = (made, .ok ()))
    (ready : Ready directory around made)
    (fit : ∀ index ∈ List.range' 1 parameters.processes.toNat, Fits directory (configName index)) (state : State) :
    ∃ report, (parameters.writeConfigs sampler directory fs state).2.result = .ok report ∧
      Ready directory around (parameters.writeConfigs sampler directory fs state).1 := by
  obtain ⟨paths, succeeded, readyAfter⟩ := exists_writeConfigsFrom fair valid ready fit state
  refine ⟨parameters.report directory paths, ?_⟩
  unfold writeConfigs
  rw [valid]
  dsimp only
  rw [making]
  dsimp only
  rw [reserve, if_pos few]
  dsimp only
  generalize parameters.writeConfigsFrom sampler directory (.range' 1 parameters.processes.toNat) made state = written
    at succeeded readyAfter ⊢
  obtain ⟨after, told, result⟩ := written
  obtain rfl : result = .ok paths := succeeded
  exact ⟨rfl, readyAfter⟩

end GeneratorParameters

theorem Text.utf8ByteSize_le (text : String) : text.utf8ByteSize ≤ 4 * text.toList.length := by
  have size : text.utf8ByteSize = (encode text).length := by
    rw [encode, Array.length_toList]
    rfl
  rw [size, encode_eq_flatMap]
  induction text.toList with
  | nil => exact Nat.zero_le _
  | cons char rest ih =>
    have bytes : (String.utf8EncodeChar char).length ≤ 4 := by
      rw [String.length_utf8EncodeChar]
      exact Char.utf8Size_le_four char
    rw [List.flatMap_cons, List.length_append, List.length_cons]
    omega

theorem Text.length_twoDigits_le {number : Nat} (few : number < 100000000000000000000) :
    (twoDigits number).toList.length ≤ 20 := by
  rw [toList_twoDigits, Nat.toList_repr]
  split
  next small =>
    have one := (Nat.length_toDigits_le_iff (b := 10) (k := 1) (by decide) (by decide)).2 small
    rw [List.length_cons]
    omega
  next =>
    refine (Nat.length_toDigits_le_iff (by decide) (by decide)).2 ?_
    exact few

theorem Path.IsName.fits (isName : Path.IsName name) (short : name.utf8ByteSize ≤ FileSystem.nameLimit)
    (nonempty : name ≠ "") (plain : '\x00' ∉ name.toList) (textual : '\x00' ∉ directory.toList)
    (within : directory.utf8ByteSize + 1 + name.utf8ByteSize ≤ FileSystem.pathLimit) : Fits directory name := by
  have slash : "/".utf8ByteSize = 1 := by decide
  have joined : Path.join directory name ≠ "" ∧ '\x00' ∉ (Path.join directory name).toList ∧
      (Path.join directory name).utf8ByteSize ≤ directory.utf8ByteSize + 1 + name.utf8ByteSize := by
    unfold Path.join
    split
    · exact ⟨nonempty, plain, by omega⟩
    · split
      · refine ⟨?_, ?_, ?_⟩
        · simp [nonempty]
        · simp [plain, textual]
        · rw [String.utf8ByteSize_append]
          omega
      · refine ⟨?_, ?_, ?_⟩
        · simp
        · simp [plain, textual]
        · rw [String.utf8ByteSize_append, String.utf8ByteSize_append, slash]
  obtain ⟨named, withoutZero, size⟩ := joined
  exact ⟨isName, short, named, by simpa using withoutZero, Nat.le_trans size within⟩

theorem fits_fileName {index : Nat} {extension : String} (plain : extension = "config" ∨ extension = "output")
    (few : index < 100000000000000000000) (textual : '\x00' ∉ directory.toList) (short : directory.utf8ByteSize ≤ 3900) :
    Fits directory (fileName index extension) := by
  have slashless : '/' ∉ extension.toList := by
    rcases plain with rfl | rfl
    · decide
    · decide
  have isName := isName_fileName index slashless
  have length : extension.toList.length = 6 := by
    rcases plain with rfl | rfl
    · rfl
    · rfl
  have characters : '\x00' ∉ (fileName index extension).toList := by
    refine notMem_fileName (by decide) (by decide) ?_
    rcases plain with rfl | rfl
    · decide
    · decide
  have small : (fileName index extension).utf8ByteSize ≤ 124 := by
    have size := Text.utf8ByteSize_le (fileName index extension)
    have digits := Text.length_twoDigits_le few
    simp only [toList_fileName, List.length_append, List.length_cons, List.length_nil] at size
    omega
  have nonempty : fileName index extension ≠ "" := by
    intro empty
    have chars := toList_fileName index extension
    rw [empty] at chars
    cases chars
  exact isName.fits (Nat.le_trans small (by decide)) nonempty characters textual (by
    change _ ≤ 4095
    omega)

end AgreementAudit

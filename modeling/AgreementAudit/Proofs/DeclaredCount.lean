import AgreementAudit.Proofs.Spelling

/-! The count that a header declares. Where the file holds another number of proposals a warning says so and
nothing else changes, as long as the list that is set aside for the declared proposals can be addressed. A
larger count halts the reading before a single proposal is looked at. -/
namespace AgreementAudit

open Text (Bytes)

theorem reserve_bind {Answer : Type} (room entries : Nat) (next : Unit → Except Failure Answer) :
    reserve room entries >>= next = if entries ≤ room then next () else .error (.halted .tooManyEntries) := by
  unfold reserve
  split
  · rfl
  · rfl

theorem le_listRoom_iff {count : Nat} : count ≤ listRoom ↔ count < 384307168202282326 := by
  have size : listRoom = 384307168202282325 := by decide
  omega

namespace ProposalFile

theorem read_of_content {fs : FileSystem} {path : Path} {content : Bytes}
    (held : fs.contentOf path = .ok content) : read fs path = ofContent path content := by
  unfold read
  rw [held]
  exact Traced.bind_of_ok rfl _

variable {path : Path} {first : Bytes} {rest : List Bytes} {header : Header} {sets : List ValueSet}

theorem ofLines_cons (headed : SpellsHeader first header) :
    ofLines path (first :: rest) =
      if header.proposals.toNat ≤ listRoom then
        readSets path 2 rest >>= fun proposals => pure ⟨path, header, proposals⟩
      else .error (.halted .tooManyEntries) := by
  have accepted : readHeader path first = .ok header := (readHeader_eq_ok_iff path).2 headed
  rw [ofLines, accepted]
  exact reserve_bind listRoom header.proposals.toNat _

theorem ofLines_of_spelled (headed : SpellsHeader first header) (valued : List.Forall₂ SpellsSet rest sets) :
    ofLines path (first :: rest) =
      if header.proposals.toNat ≤ listRoom then .ok ⟨path, header, sets⟩
      else .error (.halted .tooManyEntries) := by
  have values : readSets path 2 rest = .ok sets := (readSets_eq_ok_iff path 2).2 valued
  rw [ofLines_cons headed, values]
  rfl

theorem ofContent_of_spelled {content : Bytes} (cut : Text.lines content = first :: rest)
    (headed : SpellsHeader first header) (valued : List.Forall₂ SpellsSet rest sets) :
    ofContent path content =
      if header.proposals.toNat ≤ listRoom then ⟨countEvents ⟨path, header, sets⟩, .ok ⟨path, header, sets⟩⟩
      else ⟨[], .error (.halted .tooManyEntries)⟩ := by
  rw [ofContent, cut, ofLines_of_spelled headed valued]
  by_cases fits : header.proposals.toNat ≤ listRoom
  · rw [if_pos fits, if_pos fits]
  · rw [if_neg fits, if_neg fits]
    rfl

/-- A well-formed file is read as it stands unless the declared count asks for a list that no address
reaches. Then one warning tells of a wrong count, a right one is not mentioned, and files that differ in the
declared count alone hold the same proposals. -/
theorem read_wellFormed {fs : FileSystem} {content : Bytes} (held : fs.contentOf path = .ok content)
    (cut : Text.lines content = first :: rest) (headed : SpellsHeader first header)
    (valued : List.Forall₂ SpellsSet rest sets) :
    (read fs path =
      if header.proposals.toNat < 384307168202282326 then
        ⟨if header.proposals.toNat = rest.length then []
          else [.countDisagrees path header.proposals.toNat rest.length], .ok ⟨path, header, sets⟩⟩
      else ⟨[], .error (.halted .tooManyEntries)⟩) ∧
    ∀ (otherFiles : FileSystem) (otherPath : Path) (otherContent otherFirst : Bytes) (declared : UInt64),
      otherFiles.contentOf otherPath = .ok otherContent → Text.lines otherContent = otherFirst :: rest →
      SpellsHeader otherFirst { header with proposals := declared } →
      header.proposals.toNat < 384307168202282326 → declared.toNat < 384307168202282326 →
      ∃ file other, (read fs path).result = .ok file ∧ (read otherFiles otherPath).result = .ok other ∧
        file.proposals = other.proposals := by
  have room (count : Nat) : count ≤ listRoom ↔ count < 384307168202282326 := by
    have size : listRoom = 384307168202282325 := by decide
    omega
  have counted : sets.length = rest.length := valued.length_eq.symm
  refine ⟨?_, ?_⟩
  · rw [read_of_content held, ofContent_of_spelled cut headed valued]
    simp only [room, countEvents, counted, eq_comm (a := rest.length)]
  · intro otherFiles otherPath otherContent otherFirst declared otherHeld otherCut otherHeaded fits otherFits
    refine ⟨⟨path, header, sets⟩, ⟨otherPath, { header with proposals := declared }, sets⟩, ?_, ?_, rfl⟩
    · rw [read_of_content held, ofContent_of_spelled cut headed valued, if_pos ((room _).2 fits)]
    · rw [read_of_content otherHeld, ofContent_of_spelled otherCut otherHeaded valued,
        if_pos ((room _).2 otherFits)]

def countFiles : FileSystem :=
  .ofNodes [
    (Location.root.enter "seven.config", .file (Text.encode "7 3 +9\n3 1 \n0\n")),
    (Location.root.enter "two.config", .file (Text.encode "2 3 9\n3 1 \n0\n")),
    (Location.root.enter "huge.config", .file (Text.encode "18446744073709551615 3 9\n3 1 \n0\n"))]

theorem countFiles_values :
    List.Forall₂ SpellsSet [Text.encode "3 1 ", Text.encode "0"] [.ofList [1, 3], .ofList [0]] :=
  (readSets_eq_ok_iff "two.config" 2).1 rfl

theorem read_wellFormed_seven :
    read countFiles "seven.config" =
        ⟨[.countDisagrees "seven.config" 7 2], .ok ⟨"seven.config", ⟨7, 3, 9⟩, [.ofList [1, 3], .ofList [0]]⟩⟩ ∧
      ∃ file other, (read countFiles "seven.config").result = .ok file ∧
        (read countFiles "two.config").result = .ok other ∧ file.proposals = other.proposals := by
  have headed : SpellsHeader (Text.encode "7 3 +9") ⟨7, 3, 9⟩ :=
    (readHeader_eq_ok_iff "seven.config").1 rfl
  have otherHeaded : SpellsHeader (Text.encode "2 3 9") ⟨2, 3, 9⟩ :=
    (readHeader_eq_ok_iff "two.config").1 rfl
  have held : countFiles.contentOf "seven.config" = .ok (Text.encode "7 3 +9\n3 1 \n0\n") := rfl
  obtain ⟨whole, alike⟩ := read_wellFormed held rfl headed countFiles_values
  exact ⟨whole, alike countFiles "two.config" _ _ 2 rfl rfl otherHeaded (by decide) (by decide)⟩

/-- Not every declared count is harmless: a well-formed file with a huge one is not read. -/
theorem exists_declared_count_that_halts :
    ¬∀ (fs : FileSystem) (path : Path) (content first : Bytes) (rest : List Bytes) (header : Header)
      (sets : List ValueSet), fs.contentOf path = .ok content → Text.lines content = first :: rest →
      SpellsHeader first header → List.Forall₂ SpellsSet rest sets →
      ∃ file, (read fs path).result = .ok file := by
  intro harmless
  have headed : SpellsHeader (Text.encode "18446744073709551615 3 9") ⟨18446744073709551615, 3, 9⟩ :=
    (readHeader_eq_ok_iff "huge.config").1 rfl
  obtain ⟨file, found⟩ := harmless countFiles "huge.config" _ _ _ _ _ rfl rfl headed countFiles_values
  have halted : (read countFiles "huge.config").result = .error (.halted .tooManyEntries) := rfl
  rw [halted] at found
  cases found

end ProposalFile

end AgreementAudit

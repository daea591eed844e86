import AgreementAudit.Proofs.FirstFault

/-! What reading a whole file answers to any content. A file of decisions holds lines of values only, in a proposal file
they stand behind a header; in both, lines have the numbers of the lines of the file. -/
namespace AgreementAudit

open Text (Bytes)

/-- Why a proposal file is not read. Each fault is one of its first line or, when that has been accepted, the first
fault of the lines of values behind it. -/
inductive ConfigFault (path : Path) : List Bytes → Failure → Prop
  | missing : ConfigFault path [] (.input (.missingHeader path))
  | notText {first : Bytes} {rest : List Bytes} (undecoded : Text.decode? first = none) :
      ConfigFault path (first :: rest) (.refused .reading path .notText)
  | malformed {first : Bytes} {rest : List Bytes} {text : String} (decoded : Text.decode? first = some text)
      (unheaded : ¬∃ header, SpellsHeader first header) :
      ConfigFault path (first :: rest) (.input (.malformedHeader path (Text.trimEnd text)))
  | crowded {first : Bytes} {rest : List Bytes} {header : Header} (headed : SpellsHeader first header)
      (many : 384307168202282326 ≤ header.proposals.toNat) :
      ConfigFault path (first :: rest) (.halted .tooManyEntries)
  | values {first : Bytes} {rest : List Bytes} {header : Header} {failure : Failure}
      (headed : SpellsHeader first header) (few : header.proposals.toNat < 384307168202282326)
      (fault : FirstFault path 2 rest failure) : ConfigFault path (first :: rest) failure

theorem readHeader_eq_error_iff {path : Path} {line : Bytes} {failure : Failure} :
    readHeader path line = .error failure ↔
      Text.decode? line = none ∧ failure = .refused .reading path .notText ∨
        ∃ text, Text.decode? line = some text ∧ (¬∃ header, SpellsHeader line header) ∧
          failure = .input (.malformedHeader path (Text.trimEnd text)) := by
  simp only [← readHeader_eq_ok_iff path]
  unfold readHeader
  split
  next undecoded => simp [undecoded, eq_comm]
  next text decoded =>
    unfold Header.parse
    split
    next found read => simp [decoded, Except.mapError]
    next read => simp [decoded, Except.mapError, eq_comm]

namespace ProposalFile

variable {path : Path} {lines : List Bytes} {file : ProposalFile} {failure : Failure}

theorem ofLines_eq_ok_iff :
    ofLines path lines = .ok file ↔
      ∃ first rest, lines = first :: rest ∧ file.path = path ∧ SpellsHeader first file.header ∧
        file.header.proposals.toNat < 384307168202282326 ∧ List.Forall₂ SpellsSet rest file.proposals := by
  apply Iff.intro
  · intro read
    cases lines with
    | nil => cases read
    | cons first rest =>
      obtain ⟨header, accepted, -⟩ := bind_eq_ok_iff.1 read
      have headed : SpellsHeader first header := (readHeader_eq_ok_iff path).1 accepted
      rw [ofLines_cons headed] at read
      split at read
      next few =>
        obtain ⟨sets, valued, made⟩ := bind_eq_ok_iff.1 read
        obtain rfl := Except.ok.inj made
        exact ⟨first, rest, rfl, rfl, headed, le_listRoom_iff.1 few, (readSets_eq_ok_iff path 2).1 valued⟩
      next many => cases read
  · intro spelled
    obtain ⟨first, rest, rfl, rfl, headed, few, valued⟩ := spelled
    rw [ofLines_cons headed, if_pos (le_listRoom_iff.2 few), (readSets_eq_ok_iff file.path 2).2 valued]
    rfl

theorem ofLines_eq_error_iff : ofLines path lines = .error failure ↔ ConfigFault path lines failure := by
  apply Iff.intro
  · intro fails
    cases lines with
    | nil =>
      obtain rfl := Except.error.inj fails
      exact .missing
    | cons first rest =>
      rcases bind_eq_error_iff.1 fails with unread | ⟨header, accepted, -⟩
      · rcases readHeader_eq_error_iff.1 unread with ⟨undecoded, rfl⟩ | ⟨text, decoded, unheaded, rfl⟩
        · exact .notText undecoded
        · exact .malformed decoded unheaded
      have headed : SpellsHeader first header := (readHeader_eq_ok_iff path).1 accepted
      rw [ofLines_cons headed] at fails
      split at fails
      next few =>
        rcases bind_eq_error_iff.1 fails with fault | ⟨sets, -, made⟩
        · exact .values headed (le_listRoom_iff.1 few) (readSets_eq_error_iff.1 fault)
        · cases made
      next many =>
        obtain rfl := Except.error.inj fails
        exact .crowded headed (Nat.not_lt.1 (mt le_listRoom_iff.2 many))
  · intro fault
    cases fault with
    | missing => rfl
    | notText undecoded =>
      apply bind_eq_error_iff.2
      exact Or.inl (readHeader_eq_error_iff.2 (Or.inl ⟨undecoded, rfl⟩))
    | malformed decoded unheaded =>
      apply bind_eq_error_iff.2
      exact Or.inl (readHeader_eq_error_iff.2 (Or.inr ⟨_, decoded, unheaded, rfl⟩))
    | crowded headed many => rw [ofLines_cons headed, if_neg (mt le_listRoom_iff.1 (Nat.not_lt.2 many))]
    | values headed few fault =>
      rw [ofLines_cons headed, if_pos (le_listRoom_iff.2 few), readSets_eq_error_iff.2 fault]
      rfl

theorem ofLines_append_bad {before : List Bytes} {bad : Bytes}
    (spoiled : if before = [] then ¬∃ header, SpellsHeader bad header else ¬IsValueLine bad)
    (path : Path) (after later : List Bytes) :
    ofLines path (before ++ bad :: after) = ofLines path (before ++ bad :: later) := by
  cases before with
  | nil =>
    rw [if_pos rfl] at spoiled
    cases read : readHeader path bad with
    | error failure =>
      rw [List.nil_append, List.nil_append, ofLines, ofLines, read]
      rfl
    | ok header => exact absurd ⟨header, (readHeader_eq_ok_iff path).1 read⟩ spoiled
  | cons first others =>
    rw [if_neg (List.cons_ne_nil first others)] at spoiled
    rw [List.cons_append, List.cons_append, ofLines, ofLines, readSets_append_bad spoiled path 2 others after later]

theorem result_ofContent (path : Path) (content : Bytes) :
    (ofContent path content).result = ofLines path (Text.lines content) := by
  unfold ofContent
  split
  next failure fails =>
    rw [fails]
    rfl
  next file read => rw [read]

end ProposalFile

namespace DecisionLog

variable {path : Path} {content : Bytes}

theorem read_of_content {fs : FileSystem} (held : fs.contentOf path = .ok content) :
    read fs path = ofContent path content := by
  unfold read
  rw [held]
  rfl

theorem ofContent_eq_ok_iff {log : DecisionLog} :
    ofContent path content = .ok log ↔ log.path = path ∧ List.Forall₂ SpellsSet (Text.lines content) log.decisions := by
  unfold ofContent
  simp only [bind_eq_ok_iff, readSets_eq_ok_iff]
  apply Iff.intro
  · intro read
    obtain ⟨sets, spelled, made⟩ := read
    obtain rfl := Except.ok.inj made
    exact ⟨rfl, spelled⟩
  · intro spelled
    obtain ⟨rfl, spelled⟩ := spelled
    exact ⟨log.decisions, spelled, rfl⟩

theorem ofContent_eq_error_iff {failure : Failure} :
    ofContent path content = .error failure ↔ FirstFault path 1 (Text.lines content) failure := by
  unfold ofContent
  rw [bind_eq_error_iff, readSets_eq_error_iff]
  apply Iff.intro
  · intro fails
    rcases fails with fault | ⟨sets, -, made⟩
    · exact fault
    · cases made
  · exact Or.inl

end DecisionLog

theorem ConfigFault.missing_iff {path : Path} {lines : List Bytes} :
    ConfigFault path lines (.input (.missingHeader path)) ↔ lines = [] := by
  apply Iff.intro
  · intro fault
    cases fault with
    | missing => rfl
    | values headed few fault =>
      cases fault with
      | intro good fault => cases fault
  · intro empty
    exact empty ▸ .missing

/-- Reading answers to any content with all that the lines spell or with the fault of the first line that cannot stand
where it does. What comes behind such a line may be replaced at will. -/
theorem reading_exact {fs : FileSystem} {path : Path} {content : Bytes} (held : fs.contentOf path = .ok content) :
    ∃ lines, Text.Cut content lines ∧
      ((∃ log, DecisionLog.read fs path = .ok log) ↔ ∀ line ∈ lines, IsValueLine line) ∧
      (∀ log, DecisionLog.read fs path = .ok log ↔ log.path = path ∧ List.Forall₂ SpellsSet lines log.decisions) ∧
      (∀ failure, DecisionLog.read fs path = .error failure ↔ FirstFault path 1 lines failure) ∧
      (∀ file, (ProposalFile.read fs path).result = .ok file ↔
        ∃ first rest, lines = first :: rest ∧ file.path = path ∧ SpellsHeader first file.header ∧
          file.header.proposals.toNat < 384307168202282326 ∧ List.Forall₂ SpellsSet rest file.proposals) ∧
      (∀ failure, (ProposalFile.read fs path).result = .error failure ↔ ConfigFault path lines failure) ∧
      ((ProposalFile.read fs path).result = .error (.input (.missingHeader path)) ↔ content = []) ∧
      ∀ (before after later : List Bytes) (bad : Bytes) (otherFiles : FileSystem) (otherContent : Bytes),
        lines = before ++ bad :: after → otherFiles.contentOf path = .ok otherContent →
        Text.Cut otherContent (before ++ bad :: later) →
        (¬IsValueLine bad → DecisionLog.read otherFiles path = DecisionLog.read fs path) ∧
        ((if before = [] then ¬∃ header, SpellsHeader bad header else ¬IsValueLine bad) →
          ProposalFile.read otherFiles path = ProposalFile.read fs path) := by
  have readsLog : DecisionLog.read fs path = DecisionLog.ofContent path content := DecisionLog.read_of_content held
  have readsFile : (ProposalFile.read fs path).result = ProposalFile.ofLines path (Text.lines content) := by
    rw [ProposalFile.read_of_content held, ProposalFile.result_ofContent]
  refine ⟨Text.lines content, Text.cut_lines content, ?_, ?_, ?_, ?_, ?_, ?_, ?_⟩
  · simp only [readsLog, DecisionLog.ofContent_eq_ok_iff, isValueLine_iff, ← exists_forall₂_iff]
    apply Iff.intro
    · intro read
      obtain ⟨log, -, spelled⟩ := read
      exact ⟨log.decisions, spelled⟩
    · intro spelled
      obtain ⟨sets, spelled⟩ := spelled
      exact ⟨⟨path, sets⟩, rfl, spelled⟩
  · intro log
    rw [readsLog, DecisionLog.ofContent_eq_ok_iff]
  · intro failure
    rw [readsLog, DecisionLog.ofContent_eq_error_iff]
  · intro file
    rw [readsFile, ProposalFile.ofLines_eq_ok_iff]
  · intro failure
    rw [readsFile, ProposalFile.ofLines_eq_error_iff]
  · rw [readsFile, ProposalFile.ofLines_eq_error_iff, ConfigFault.missing_iff, Text.lines_eq_nil_iff]
  · intro before after later bad otherFiles otherContent lines otherHeld otherCut
    have otherLines := Text.cut_iff.1 otherCut
    refine ⟨?_, ?_⟩
    · intro spoiled
      rw [readsLog, DecisionLog.read_of_content otherHeld, DecisionLog.ofContent, DecisionLog.ofContent, lines,
        otherLines, readSets_append_bad spoiled path 1 before after later]
    · intro spoiled
      rw [ProposalFile.read_of_content held, ProposalFile.read_of_content otherHeld, ProposalFile.ofContent,
        ProposalFile.ofContent, lines, otherLines, ProposalFile.ofLines_append_bad spoiled path after later]

def spoiledFiles (behind : Bytes) : FileSystem :=
  .ofNodes [(Location.root.enter "spoiled", .file (Text.encode "3 2 +9\r\n\t007 y\n" ++ behind))]

theorem reading_exact_spoiled :
    DecisionLog.read (spoiledFiles [0xFF]) "spoiled" = .error (.input (.invalidValue "spoiled" 2 "y")) ∧
      (ProposalFile.read (spoiledFiles [0xFF]) "spoiled").result =
        .error (.input (.invalidValue "spoiled" 2 "y")) ∧
      DecisionLog.read (spoiledFiles []) "spoiled" = DecisionLog.read (spoiledFiles [0xFF]) "spoiled" ∧
      ProposalFile.read (spoiledFiles []) "spoiled" = ProposalFile.read (spoiledFiles [0xFF]) "spoiled" := by
  have held : (spoiledFiles [0xFF]).contentOf "spoiled" =
      .ok (Text.encode "3 2 +9\r\n\t007 y\n" ++ [0xFF]) := rfl
  obtain ⟨lines, cut, -, -, logFault, -, fileFault, -, behind⟩ := reading_exact held
  obtain rfl : [Text.encode "3 2 +9", Text.encode "\t007 y", [0xFF]] = lines := Text.cut_iff.1 cut
  have spelled : readValues "spoiled" (Text.encode "3 2 +9", 1) = .ok (.ofList [2, 3, 9]) := rfl
  have good : ∀ line ∈ [Text.encode "3 2 +9"], IsValueLine line :=
    List.forall_mem_singleton.2 (isValueLine_iff.2 ⟨_, readValues_eq_ok_iff.1 spelled⟩)
  have headed : SpellsHeader (Text.encode "3 2 +9") ⟨3, 2, 9⟩ := (readHeader_eq_ok_iff "spoiled").1 rfl
  have refused : readValues "spoiled" (Text.encode "\t007 y", 2) =
      .error (.input (.invalidValue "spoiled" 2 "y")) := rfl
  have fault : LineFault "spoiled" 2 (Text.encode "\t007 y") (.input (.invalidValue "spoiled" 2 "y")) :=
    readValues_eq_error_iff.1 refused
  have failed := (logFault _).2 (.intro good fault)
  have spoiled : ¬IsValueLine (Text.encode "\t007 y") := by
    intro valued
    obtain ⟨set, read⟩ := isValueLine_iff.1 valued
    exact nomatch refused.symm.trans (readValues_eq_ok_iff.2 read)
  obtain ⟨sameLog, sameFile⟩ := behind [Text.encode "3 2 +9"] [[0xFF]] [] _ (spoiledFiles []) _ rfl rfl
    (Text.cut_iff.2 rfl)
  exact ⟨failed, (fileFault _).2 (.values headed (by decide) (.intro (List.forall_mem_nil _) fault)),
    sameLog spoiled, sameFile spoiled⟩

end AgreementAudit

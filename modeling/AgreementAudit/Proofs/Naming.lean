import AgreementAudit.Process
import AgreementAudit.Proofs.Writing
import Mathlib.Data.List.Basic

/-! The names of the files of a directory. A file of a process is found by one step behind those to its
directory, and no two processes and no two kinds of files share a name. -/
namespace AgreementAudit

namespace Path

/-- A name of an entry: one piece, which enters what it names. -/
structure IsName (name : String) : Prop where
  slashless : '/' ∉ name.toList
  entered : stepOf name.toList = some (.enter name)

theorem toList_join {directory : Path} (named : directory ≠ "") :
    ∃ around : List Char, directory.pieceSteps = (around.splitOn '/').filterMap stepOf ∧
      ∀ name, (join directory name).toList = around ++ '/' :: name.toList := by
  by_cases closed : directory.toList.getLast? = some '/'
  · obtain ⟨around, split⟩ := List.getLast?_eq_some_iff.1 closed
    refine ⟨around, ?_, ?_⟩
    · unfold pieceSteps pieces
      rw [split, List.splitOn_append_cons_self, List.filterMap_append]
      exact List.append_nil _
    · intro name
      rw [join, if_neg named, if_pos closed, String.toList_append, split, List.append_assoc]
      rfl
  · refine ⟨directory.toList, rfl, ?_⟩
    intro name
    rw [join, if_neg named, if_neg closed, String.toList_append, String.toList_append, List.append_assoc]
    rfl

/-- Different names in one directory make different paths. -/
theorem join_inj {directory left right : Path} (same : join directory left = join directory right) : left = right := by
  by_cases named : directory = ""
  · rwa [named, join, join, if_pos rfl, if_pos rfl] at same
  · obtain ⟨around, -, joined⟩ := toList_join named
    have chars := congrArg String.toList same
    rw [joined, joined, List.append_cancel_left_eq] at chars
    exact String.toList_inj.1 (List.cons.inj chars).2

theorem join_ne_self {directory name : Path} (isName : IsName name) : join directory name ≠ directory := by
  have nonempty : name.toList ≠ [] := by
    intro empty
    have entered := isName.entered
    rw [empty] at entered
    cases entered
  intro same
  by_cases named : directory = ""
  · rw [named, join, if_pos rfl] at same
    exact nonempty (congrArg String.toList same)
  · have longer : ((join directory name).toList).length = directory.toList.length := by rw [same]
    unfold join at longer
    rw [if_neg named] at longer
    have positive := List.length_pos_iff.2 nonempty
    split at longer
    · rw [String.toList_append, List.length_append] at longer
      omega
    · rw [String.toList_append, String.toList_append, List.length_append, List.length_append] at longer
      omega

theorem IsName.unclosed {name : String} (isName : IsName name) : name.toList.getLast? ≠ some '/' :=
  fun closed => isName.slashless (List.mem_of_getLast? closed)

theorem steps_join {directory name : Path} (isName : IsName name) :
    (join directory name).steps = directory.pieceSteps ++ [.enter name] := by
  by_cases named : directory = ""
  · rw [named, join, if_pos rfl, steps, if_neg isName.unclosed, pieceSteps, pieces,
      List.splitOn_eq_singleton isName.slashless, List.filterMap_cons, isName.entered]
    rfl
  obtain ⟨around, sameSteps, joined⟩ := toList_join named
  have unclosed : (join directory name).toList.getLast? ≠ some '/' := by
    intro closed
    rw [joined, List.getLast?_append, List.getLast?_cons] at closed
    cases last : name.toList.getLast? with
    | none =>
      have empty : name.toList = [] := List.getLast?_eq_none_iff.1 last
      have entered := isName.entered
      rw [empty] at entered
      cases entered
    | some char =>
      rw [last] at closed
      exact isName.unclosed (last.trans closed)
  rw [steps, if_neg unclosed, pieceSteps, pieces, joined, List.splitOn_append_cons_self,
    List.splitOn_eq_singleton isName.slashless, List.filterMap_append, sameSteps]
  simp only [List.filterMap_cons, isName.entered, List.filterMap_nil]

theorem isAbsolute_join {directory name : Path} (isName : IsName name) :
    (join directory name).isAbsolute = directory.isAbsolute := by
  by_cases named : directory = ""
  · have relative : name.toList.head? ≠ some '/' := fun first => isName.slashless (List.mem_of_head? first)
    rw [named, join, if_pos rfl, isAbsolute, decide_eq_false relative]
    rfl
  have nonempty : directory.toList ≠ [] := by
    intro empty
    exact named (String.toList_eq_nil_iff.1 empty)
  obtain ⟨first, rest, split⟩ := List.exists_cons_of_ne_nil nonempty
  unfold isAbsolute join
  rw [if_neg named]
  split
  · rw [String.toList_append, split, List.cons_append, List.head?_cons, List.head?_cons]
  · rw [String.toList_append, String.toList_append, split, List.cons_append, List.cons_append,
      List.head?_cons, List.head?_cons]

end Path

namespace Text

theorem toList_twoDigits (number : Nat) :
    (twoDigits number).toList = if number < 10 then '0' :: number.repr.toList else number.repr.toList := by
  unfold twoDigits
  split
  · rw [String.toList_append]
    rfl
  · rfl

theorem isDigit_of_mem_twoDigits {number : Nat} {char : Char} (member : char ∈ (twoDigits number).toList) :
    char.isDigit = true := by
  rw [toList_twoDigits] at member
  split at member
  · rcases List.mem_cons.1 member with zero | later
    · rw [zero]
      decide
    · exact isDigit_of_mem_repr later
  · exact isDigit_of_mem_repr member

theorem ofDigitChars_twoDigits (number : Nat) : Nat.ofDigitChars 10 (twoDigits number).toList 0 = number := by
  rw [toList_twoDigits]
  split
  · rw [Nat.ofDigitChars_cons, Nat.toList_repr]
    exact Nat.ofDigitChars_ten_toDigits
  · rw [Nat.toList_repr, Nat.ofDigitChars_ten_toDigits]

theorem twoDigits_injective {left right : Nat} (same : twoDigits left = twoDigits right) : left = right :=
  calc
    left = Nat.ofDigitChars 10 (twoDigits left).toList 0 := (ofDigitChars_twoDigits left).symm
    _ = Nat.ofDigitChars 10 (twoDigits right).toList 0 := by rw [same]
    _ = right := ofDigitChars_twoDigits right

end Text

theorem toList_fileName (index : Nat) (extension : String) :
    (fileName index extension).toList =
      ['p', 'r', 'o', 'c'] ++ ((Text.twoDigits index).toList ++ '.' :: extension.toList) := by
  unfold fileName
  rw [String.toList_append, String.toList_append, String.toList_append, List.append_assoc, List.append_assoc]
  rfl

theorem fileName_inj {i j : Nat} {left right : String} (dotless : '.' ∉ left.toList)
    (same : fileName i left = fileName j right) : i = j ∧ left = right := by
  have chars := congrArg String.toList same
  rw [toList_fileName, toList_fileName, List.append_cancel_left_eq] at chars
  have noDot : '.' ∉ (Text.twoDigits i).toList := by
    intro member
    exact absurd (Text.isDigit_of_mem_twoDigits member) (by decide)
  obtain ⟨digits, -, extensions⟩ := (List.append_cons_inj_of_notMem noDot dotless).1 chars
  exact ⟨Text.twoDigits_injective (String.toList_inj.1 digits), String.toList_inj.1 extensions⟩

theorem notMem_fileName {index : Nat} {extension : String} {char : Char} (notDigit : char.isDigit = false)
    (front : char ∉ ['p', 'r', 'o', 'c', '.']) (behind : char ∉ extension.toList) :
    char ∉ (fileName index extension).toList := by
  intro member
  rw [toList_fileName, List.mem_append, List.mem_append] at member
  rcases member with letter | digit | tail
  · exact front (List.mem_append_left ['.'] letter)
  · rw [Text.isDigit_of_mem_twoDigits digit] at notDigit
    cases notDigit
  · rcases List.mem_cons.1 tail with rfl | inside
    · exact front (by decide)
    · exact behind inside

theorem isName_fileName {extension : String} (index : Nat) (slashless : '/' ∉ extension.toList) :
    Path.IsName (fileName index extension) := by
  have entered : Path.stepOf (fileName index extension).toList =
      some (.enter (String.ofList (fileName index extension).toList)) := by
    rw [toList_fileName]
    rfl
  rw [String.ofList_toList] at entered
  exact ⟨notMem_fileName (by decide) (by decide) slashless, entered⟩

theorem isName_configName (index : Nat) : Path.IsName (configName index) := isName_fileName index (by decide)

theorem isName_outputName (index : Nat) : Path.IsName (outputName index) := isName_fileName index (by decide)

theorem configName_inj {i j : Nat} (same : configName i = configName j) : i = j :=
  (fileName_inj (by decide) same).1

theorem outputName_inj {i j : Nat} (same : outputName i = outputName j) : i = j :=
  (fileName_inj (by decide) same).1

theorem configName_ne_outputName (i j : Nat) : configName i ≠ outputName j := by
  intro same
  exact absurd (fileName_inj (by decide) same).2 (by decide)

/-- The names of the files of the first processes: of each process the config file, then the output file. -/
def fileNames (processes : Nat) : List String :=
  (List.range' 1 processes).flatMap fun index => [configName index, outputName index]

theorem isName_of_mem_fileNames {processes : Nat} {name : String} (named : name ∈ fileNames processes) :
    Path.IsName name := by
  obtain ⟨index, -, member⟩ := List.mem_flatMap.1 named
  simp only [List.mem_cons, List.not_mem_nil, or_false] at member
  rcases member with rfl | rfl
  · exact isName_configName index
  · exact isName_outputName index

theorem mem_fileNames {processes index : Nat} (member : index ∈ List.range' 1 processes) :
    configName index ∈ fileNames processes ∧ outputName index ∈ fileNames processes := by
  refine ⟨List.mem_flatMap.2 ⟨index, member, ?_⟩, List.mem_flatMap.2 ⟨index, member, ?_⟩⟩
  · exact List.mem_cons_self
  · exact List.mem_cons_of_mem _ List.mem_cons_self

end AgreementAudit

import AgreementAudit.Execution
import AgreementAudit.Proofs.Scanning

/-! Which files a check is asked to look at. Arguments that are accepted select them in one of two ways, one by one or
by a directory, and no value that is written is lost on the way to the options. But the rules of the options let
through a number of processes beside files listed one by one, and outputs beside a directory, and these are ignored. -/
namespace AgreementAudit

theorem Record.map_of_pair_eq_ok {configs outputs : List Path} {records : List Record}
    (paired : Record.pair configs outputs = .ok records) :
    records.map Record.config = configs ∧ records.map Record.output = outputs := by
  unfold Record.pair at paired
  split at paired
  next even =>
    obtain rfl := Except.ok.inj paired
    rw [List.map_map, List.map_map]
    change ((configs.zip outputs).zipIdx 1).map (Prod.fst ∘ Prod.fst) = configs ∧
      ((configs.zip outputs).zipIdx 1).map (Prod.snd ∘ Prod.fst) = outputs
    rw [← List.map_map, ← List.map_map, List.zipIdx_map_fst, List.map_fst_zip (Nat.le_of_eq even),
      List.map_snd_zip (Nat.le_of_eq even.symm)]
    exact ⟨rfl, rfl⟩
  next => cases paired

namespace CommandLine

def selectors : List Name := [.config, .output, .logDir, .processes]

/-- The selectors among some words are those of one way to ask for a check, and all of them. -/
def SelectsOneWay (words : List Word) : Prop :=
  (gives words .config = true ∧ gives words .output = true ∧ gives words .logDir = false ∧
      gives words .processes = false) ∨
    gives words .logDir = true ∧ gives words .processes = true ∧ gives words .config = false ∧
      gives words .output = false

/-- A number of processes beside listed configs, or listed outputs beside a directory. -/
def SelectsInVain (words : List Word) : Prop :=
  (gives words .config = true ∧ gives words .processes = true) ∨
    gives words .logDir = true ∧ gives words .output = true

namespace CheckOptions

/-- The options hold all values that are written among the words, and a selector that is named has one. -/
structure Keeps (options : CheckOptions) (words : List Word) : Prop where
  configs : options.configs = written .config words
  outputs : options.outputs = written .output words
  logDirectory : options.logDirectory.toList = written .logDir words
  processes : List.Forall₂ (fun text count => Spells text count.toNat) (written .processes words)
    options.processes.toList
  filled : ∀ name ∈ selectors, gives words name = true ↔ written name words ≠ []

/-- The records are made of the files listed, each of which is in one. The number of processes does not matter. -/
structure UsesLists (options : CheckOptions) : Prop where
  noDirectory : options.logDirectory = none
  configs : options.configs ≠ []
  outputs : options.outputs ≠ []
  records : options.records = (Record.pair options.configs options.outputs).mapError .input
  complete : ∀ records, options.records = .ok records →
    records.map Record.config = options.configs ∧ records.map Record.output = options.outputs
  ignored : ∀ processes, { options with processes }.records = options.records

/-- The records are those of a directory, one for each process. Outputs that are listed do not matter. -/
structure UsesDirectory (options : CheckOptions) (directory : Path) (count : UInt64) : Prop where
  logDirectory : options.logDirectory = some directory
  processes : options.processes = some count
  noConfigs : options.configs = []
  records : options.records = Record.discover directory count.toNat
  ignored : ∀ outputs, { options with outputs }.records = options.records

end CheckOptions

namespace Scan

variable {scan : Scan} {name : Name}

/-- The rules leave two ways to ask for a check. That outputs require configs and a number of processes requires a
directory adds nothing to them, since one of configs and directory is always there and excludes the other. -/
theorem obey_check_iff : scan.obey Verb.check.rules = .ok () ↔
    (scan.has .config = true ∧ scan.has .output = true ∧ scan.has .logDir = false) ∨
      (scan.has .logDir = true ∧ scan.has .processes = true ∧ scan.has .config = false) := by
  simp only [obey, Verb.rules, List.any_cons, List.any_nil, conflicting, lacking, excluded]
  cases scan.has .config <;> cases scan.has .output <;> cases scan.has .logDir <;> cases scan.has .processes <;>
    decide

theorem optionalCount_eq_ok {count : Option UInt64} (counted : scan.optionalCount name = .ok count)
    (few : (scan.valuesOf name).length ≤ 1) :
    List.Forall₂ (fun text value => Spells text value.toNat) (scan.valuesOf name) count.toList := by
  unfold optionalCount at counted
  match found : scan.valuesOf name with
  | [] =>
    rw [found] at counted
    obtain rfl := Except.ok.inj counted
    exact .nil
  | [text] =>
    rw [found] at counted
    dsimp only [List.head?_cons] at counted
    cases read : Text.count? text with
    | none =>
      rw [read] at counted
      cases counted
    | some value =>
      rw [read] at counted
      obtain rfl := Except.ok.inj counted
      exact .cons (Text.count?_eq_some_iff.1 read) .nil
  | _ :: _ :: _ =>
    rw [found] at few
    exact absurd few (by simp)

end Scan

theorem Verb.ofName?_eq_check {name : String} (found : Verb.ofName? name = some .check) : name = "check" := by
  unfold Verb.ofName? at found
  split at found
  next => cases found
  next => rfl
  next => cases found

theorem Verb.check_invocation_eq_ok {seen json : Bool} {arguments : List String} {options : CheckOptions}
    (accepted : Verb.check.invocation seen arguments = .ok ⟨json, .check options⟩) :
    ∃ scan, Scan.empty.run Verb.check.options (arguments.map Word.ofArgument) = .ok scan ∧
      scan.obey Verb.check.rules = .ok () ∧ options.configs = scan.valuesOf .config ∧
      options.outputs = scan.valuesOf .output ∧ options.logDirectory = (scan.valuesOf .logDir).head? ∧
      scan.optionalCount .processes = .ok options.processes := by
  obtain ⟨scan, ran, judged⟩ := bind_eq_ok_iff.1 accepted
  obtain ⟨_, obeyed, described⟩ := bind_eq_ok_iff.1 judged
  obtain ⟨command, commanded, made⟩ := bind_eq_ok_iff.1 described
  obtain ⟨count, counted, built⟩ := bind_eq_ok_iff.1 commanded
  obtain rfl := Except.ok.inj built
  cases made
  exact ⟨scan, ran, obeyed, rfl, rfl, rfl, counted⟩

theorem Verb.generate_invocation_ne {seen json : Bool} {arguments : List String} {options : CheckOptions} :
    Verb.generate.invocation seen arguments ≠ .ok ⟨json, .check options⟩ := by
  intro accepted
  obtain ⟨scan, -, judged⟩ := bind_eq_ok_iff.1 accepted
  obtain ⟨_, -, described⟩ := bind_eq_ok_iff.1 judged
  obtain ⟨command, commanded, made⟩ := bind_eq_ok_iff.1 described
  simp only [Verb.command, bind_eq_ok_iff] at commanded
  obtain ⟨_, -, _, -, _, -, _, -, _, -, _, -, built⟩ := commanded
  obtain rfl := Except.ok.inj built
  cases made

theorem invocation_check {seen json : Bool} {arguments : List String} {options : CheckOptions}
    (accepted : invocation seen arguments = .ok ⟨json, .check options⟩) :
    ∃ before rest given, arguments = before ++ "check" :: rest ∧
      (∀ argument ∈ before, Word.ofArgument argument = .long "json" none) ∧
      Verb.check.invocation given rest = .ok ⟨json, .check options⟩ := by
  fun_induction invocation seen arguments with
  | case2 given name rest verb found =>
    cases verb with
    | generate => exact absurd accepted Verb.generate_invocation_ne
    | check =>
      obtain rfl := Verb.ofName?_eq_check found
      exact ⟨[], rest, given, rfl, fun _ member => absurd member List.not_mem_nil, accepted⟩
  | case5 given flag rest unnamed notHelp json notGiven ih =>
    obtain ⟨before, after, given, rfl, flags, later⟩ := ih accepted
    exact ⟨flag :: before, after, given, rfl, List.forall_mem_cons.2 ⟨json, flags⟩, later⟩
  | _ => cases accepted

theorem unambiguous_check : Unambiguous Verb.check.options := by
  unfold Unambiguous
  decide

theorem selectors_mem {name : Name} (selector : name ∈ selectors) :
    name ∈ Verb.check.options ∧ name.arity.takesValues = true ∧ "json" ∉ name.spellings := by
  revert name
  decide

theorem written_behind_flags {name : Name} (selector : name ∈ selectors) {before : List String} (rest : List String)
    (flags : ∀ argument ∈ before, Word.ofArgument argument = .long "json" none) :
    gives ((before ++ "check" :: rest).map Word.ofArgument) name = gives (rest.map Word.ofArgument) name ∧
      written name ((before ++ "check" :: rest).map Word.ofArgument) = written name (rest.map Word.ofArgument) := by
  obtain ⟨-, -, other⟩ := selectors_mem selector
  induction before with
  | nil =>
    have command : Word.ofArgument "check" = .plain "check" := by decide
    simp [gives, written, Word.names, command]
  | cons flag before ih =>
    obtain ⟨json, flags⟩ := List.forall_mem_cons.1 flags
    obtain ⟨sameGiven, sameWritten⟩ := ih flags
    rw [← sameGiven, ← sameWritten]
    simp [gives, written, Word.names, json, other]

theorem exists_scan_of_check {json : Bool} {arguments : List String} {options : CheckOptions}
    (accepted : Invocation.ofArguments arguments = .ok ⟨json, .check options⟩) :
    ∃ scan : Scan, scan.obey Verb.check.rules = .ok () ∧ options.configs = scan.valuesOf .config ∧
      options.outputs = scan.valuesOf .output ∧ options.logDirectory = (scan.valuesOf .logDir).head? ∧
      scan.optionalCount .processes = .ok options.processes ∧
      ∀ name ∈ selectors, scan.has name = gives (arguments.map Word.ofArgument) name ∧
        scan.valuesOf name = written name (arguments.map Word.ofArgument) ∧ scan.Sound name := by
  obtain ⟨before, rest, given, rfl, flags, described⟩ := invocation_check accepted
  obtain ⟨scan, ran, obeyed, configs, outputs, logDirectory, counted⟩ := Verb.check_invocation_eq_ok described
  refine ⟨scan, obeyed, configs, outputs, logDirectory, counted, fun name selector => ?_⟩
  obtain ⟨known, takes, -⟩ := selectors_mem selector
  obtain ⟨sameGiven, sameWritten⟩ := written_behind_flags selector rest flags
  rw [sameGiven, sameWritten]
  exact ⟨Scan.has_run unambiguous_check known ran, Scan.valuesOf_run unambiguous_check known takes ran,
    (Scan.Sound.empty name).run takes ran⟩

theorem CheckOptions.keeps_of_check {json : Bool} {arguments : List String} {options : CheckOptions}
    (accepted : Invocation.ofArguments arguments = .ok ⟨json, .check options⟩) :
    options.Keeps (arguments.map Word.ofArgument) := by
  obtain ⟨scan, -, configs, outputs, logDirectory, counted, found⟩ := exists_scan_of_check accepted
  have values (name : Name) (selector : name ∈ selectors) := (found name selector).2.1
  have sound (name : Name) (selector : name ∈ selectors) := (found name selector).2.2
  refine ⟨?_, ?_, ?_, ?_, fun name selector => ?_⟩
  · rw [configs, values .config (by decide)]
  · rw [outputs, values .output (by decide)]
  · have few := (sound .logDir (by decide)).single .path rfl
    rw [logDirectory, ← values .logDir (by decide)]
    match scan.valuesOf .logDir, few with
    | [], _ => rfl
    | [_], _ => rfl
  · have few := (sound .processes (by decide)).single .count rfl
    rw [← values .processes (by decide)]
    exact Scan.optionalCount_eq_ok counted few
  · rw [← values name selector, ← (found name selector).1]
    apply Iff.intro
    · exact (sound name selector).filled
    · intro filled
      cases given : scan.has name with
      | true => rfl
      | false => exact absurd (Scan.valuesOf_of_not_has given) filled

theorem gives_of_check {json : Bool} {arguments : List String} {options : CheckOptions}
    (accepted : Invocation.ofArguments arguments = .ok ⟨json, .check options⟩) :
    (gives (arguments.map Word.ofArgument) .config = true ∧ gives (arguments.map Word.ofArgument) .output = true ∧
        gives (arguments.map Word.ofArgument) .logDir = false) ∨
      gives (arguments.map Word.ofArgument) .logDir = true ∧ gives (arguments.map Word.ofArgument) .processes = true ∧
        gives (arguments.map Word.ofArgument) .config = false := by
  obtain ⟨scan, obeyed, -, -, -, -, found⟩ := exists_scan_of_check accepted
  rw [← (found .config (by decide)).1, ← (found .output (by decide)).1, ← (found .logDir (by decide)).1,
    ← (found .processes (by decide)).1]
  exact Scan.obey_check_iff.1 obeyed

namespace CheckOptions

variable {options : CheckOptions} {words : List Word}

namespace Keeps

variable (kept : options.Keeps words)

include kept

theorem configs_ne_nil_iff : options.configs ≠ [] ↔ gives words .config = true := by
  rw [kept.configs, kept.filled .config (by decide)]

theorem outputs_ne_nil_iff : options.outputs ≠ [] ↔ gives words .output = true := by
  rw [kept.outputs, kept.filled .output (by decide)]

theorem logDirectory_ne_none_iff : options.logDirectory ≠ none ↔ gives words .logDir = true := by
  rw [kept.filled .logDir (by decide), ← kept.logDirectory, ne_eq, ne_eq, Option.toList_eq_nil_iff]

theorem processes_ne_none_iff : options.processes ≠ none ↔ gives words .processes = true := by
  have alike : written .processes words = [] ↔ options.processes.toList = [] := by
    rw [← List.length_eq_zero_iff, ← List.length_eq_zero_iff, kept.processes.length_eq]
  rw [kept.filled .processes (by decide), ne_eq, ne_eq, alike, Option.toList_eq_nil_iff]

end Keeps

theorem usesLists (noDirectory : options.logDirectory = none) (configs : options.configs ≠ [])
    (outputs : options.outputs ≠ []) : options.UsesLists := by
  have listed (processes : Option UInt64) :
      { options with processes }.records = (Record.pair options.configs options.outputs).mapError .input := by
    simp only [records, noDirectory]
  refine ⟨noDirectory, configs, outputs, listed options.processes, fun found made => ?_, fun processes => ?_⟩
  · rw [listed options.processes, mapError_eq_ok_iff] at made
    exact Record.map_of_pair_eq_ok made
  · exact (listed processes).trans (listed options.processes).symm

theorem usesDirectory {directory : Path} {count : UInt64} (logDirectory : options.logDirectory = some directory)
    (processes : options.processes = some count) (noConfigs : options.configs = []) :
    options.UsesDirectory directory count := by
  have discovered (outputs : List Path) :
      { options with outputs }.records = Record.discover directory count.toNat := by
    simp only [records, logDirectory, processes]
  exact ⟨logDirectory, processes, noConfigs, discovered options.outputs, fun outputs =>
    (discovered outputs).trans (discovered options.outputs).symm⟩

end CheckOptions

/-- An accepted check has all values that are written, and is about the files listed or about a directory. Its
selectors are those of one way and no others, unless a number of processes or outputs are given in vain. -/
theorem check_selects_files {json : Bool} {arguments : List String} {options : CheckOptions}
    (accepted : Invocation.ofArguments arguments = .ok ⟨json, .check options⟩) :
    options.Keeps (arguments.map Word.ofArgument) ∧
      (options.UsesLists ∨ ∃ directory count, options.UsesDirectory directory count) ∧
      (SelectsOneWay (arguments.map Word.ofArgument) ↔ ¬SelectsInVain (arguments.map Word.ofArgument)) := by
  have kept := CheckOptions.keeps_of_check accepted
  rcases gives_of_check accepted with ⟨config, output, noDirectory⟩ | ⟨logDir, processes, noConfig⟩
  · refine ⟨kept, Or.inl ?_, ?_⟩
    · have absent : options.logDirectory = none := by
        simpa [noDirectory] using kept.logDirectory_ne_none_iff
      exact CheckOptions.usesLists absent (kept.configs_ne_nil_iff.2 config) (kept.outputs_ne_nil_iff.2 output)
    · simp [SelectsOneWay, SelectsInVain, config, output, noDirectory]
  · refine ⟨kept, Or.inr ?_, ?_⟩
    · obtain ⟨directory, directoryGiven⟩ := Option.ne_none_iff_exists'.1 (kept.logDirectory_ne_none_iff.2 logDir)
      obtain ⟨count, countGiven⟩ := Option.ne_none_iff_exists'.1 (kept.processes_ne_none_iff.2 processes)
      have absent : options.configs = [] := by
        simpa [noConfig] using kept.configs_ne_nil_iff
      exact ⟨directory, count, CheckOptions.usesDirectory directoryGiven countGiven absent⟩
    · simp [SelectsOneWay, SelectsInVain, logDir, processes, noConfig]

theorem check_selects_files_listed :
    Invocation.ofArguments ["--json", "check", "--config", "a", "b", "--output=c", "--config", "d", "--output", "e", "f"] =
        .ok ⟨true, .check ⟨["a", "b", "d"], ["c", "e", "f"], none, none, false, false⟩⟩ ∧
      SelectsOneWay (["--json", "check", "--config", "a", "b", "--output=c", "--config", "d", "--output", "e", "f"].map
        Word.ofArgument) := by
  have accepted : Invocation.ofArguments
      ["--json", "check", "--config", "a", "b", "--output=c", "--config", "d", "--output", "e", "f"] =
        .ok ⟨true, .check ⟨["a", "b", "d"], ["c", "e", "f"], none, none, false, false⟩⟩ := by
    rfl
  have nothingInVain : ¬SelectsInVain
      (["--json", "check", "--config", "a", "b", "--output=c", "--config", "d", "--output", "e", "f"].map
        Word.ofArgument) := by
    unfold SelectsInVain
    decide
  obtain ⟨-, -, oneWay⟩ := check_selects_files accepted
  exact ⟨accepted, oneWay.2 nothingInVain⟩

/-- Not every selector is used: a number of processes is accepted beside files that are listed. -/
theorem exists_selector_in_vain :
    ¬∀ (arguments : List String) (json : Bool) (options : CheckOptions),
      Invocation.ofArguments arguments = .ok ⟨json, .check options⟩ →
      SelectsOneWay (arguments.map Word.ofArgument) := by
  intro oneWay
  have accepted : Invocation.ofArguments ["check", "--config", "a", "--output", "b", "--processes", "1"] =
      .ok ⟨false, .check ⟨["a"], ["b"], none, some 1, false, false⟩⟩ := by
    rfl
  have excluded : ¬SelectsOneWay
      (["check", "--config", "a", "--output", "b", "--processes", "1"].map Word.ofArgument) := by
    unfold SelectsOneWay
    decide
  exact excluded (oneWay _ _ _ accepted)

end CommandLine

end AgreementAudit

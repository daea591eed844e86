import AgreementAudit.Proofs.ConfigWriting
import AgreementAudit.Proofs.DirectoryMaking

/-! What a generation leaves behind, however it ends. The files that are done hold the draws of the sampler, made one
after another, and nothing has changed but the directories made on the way and the files that were begun. When it
succeeds, the config file of each process holds the text of its share of the draws. -/
namespace AgreementAudit

open FileSystem (Keeps Touches)
open Text (Bytes)

variable {State : Type} {sampler : Sampler State} {parameters : GeneratorParameters} {header : Header}
  {directory path : Path} {fs after : FileSystem} {state last : State}

def table {Cell : Type} (rows columns : Nat) (cell : Nat → Nat → Cell) : List (List Cell) :=
  (List.range' 1 rows).map fun row => (List.range' 1 columns).map (cell row)

theorem exists_eq_map_range' {Member : Type} (list : List Member) (default : Member) :
    ∃ member : Nat → Member, list = (List.range' 1 list.length).map member := by
  refine ⟨fun number => list.getD (number - 1) default, ?_⟩
  apply List.ext_getElem?
  intro place
  rw [List.getElem?_map]
  by_cases inside : place < list.length
  · rw [List.getElem?_range' inside, List.getElem?_eq_getElem inside]
    simp [inside]
  · have outside : list.length ≤ place := by omega
    rw [List.getElem?_eq_none outside, List.getElem?_eq_none (by simpa using outside)]
    rfl

theorem exists_eq_table {Cell : Type} [Inhabited Cell] {columns : Nat} {rows : List (List Cell)}
    (even : ∀ row ∈ rows, row.length = columns) : ∃ cell, rows = table rows.length columns cell := by
  obtain ⟨row, split⟩ := exists_eq_map_range' rows []
  have cells (number : Nat) : ∃ cell : Nat → Cell,
      row number ∈ rows → row number = (List.range' 1 columns).map cell := by
    by_cases member : row number ∈ rows
    · obtain ⟨cell, same⟩ := exists_eq_map_range' (row number) default
      rw [even _ member] at same
      exact ⟨cell, fun _ => same⟩
    · exact ⟨fun _ => default, fun found => absurd found member⟩
  choose cell same using cells
  refine ⟨cell, ?_⟩
  conv_lhs => rw [split]
  apply List.map_congr_left
  intro number listed
  apply same
  rw [split]
  exact List.mem_map_of_mem listed

/-- The proposals of several files, all drawn from one sampler state that is handed on. -/
def drawFiles (sampler : Sampler State) (header : Header) :
    Nat → State → Except Failure (List (List (List Value)) × State)
  | 0, state => .ok ([], state)
  | count + 1, state => do
    let (proposals, state) ← drawProposals sampler header.values header.maxLength header.proposals.toNat state
    let (others, state) ← drawFiles sampler header count state
    return (proposals :: others, state)

theorem drawProposals_length {values : UInt32} {maxLength : UInt64} {count : Nat} {proposals : List (List Value)}
    (drawn : drawProposals sampler values maxLength count state = .ok (proposals, last)) :
    proposals.length = count := by
  induction count generalizing state proposals with
  | zero =>
    obtain ⟨rfl, -⟩ := Prod.mk.inj (Except.ok.inj drawn)
    rfl
  | succ count ih =>
    obtain ⟨⟨proposal, middle⟩, -, others⟩ := bind_eq_ok_iff.1 drawn
    obtain ⟨⟨rest, final⟩, found, made⟩ := bind_eq_ok_iff.1 others
    obtain ⟨rfl, rfl⟩ := Prod.mk.inj (Except.ok.inj made)
    rw [List.length_cons, ih found]

theorem drawFiles_length {count : Nat} {drawn : List (List (List Value))}
    (made : drawFiles sampler header count state = .ok (drawn, last)) :
    drawn.length = count ∧ ∀ proposals ∈ drawn, proposals.length = header.proposals.toNat := by
  induction count generalizing state drawn with
  | zero =>
    obtain ⟨rfl, -⟩ := Prod.mk.inj (Except.ok.inj made)
    exact ⟨rfl, fun _ member => absurd member List.not_mem_nil⟩
  | succ count ih =>
    obtain ⟨⟨proposals, middle⟩, first, others⟩ := bind_eq_ok_iff.1 made
    obtain ⟨⟨rest, final⟩, found, whole⟩ := bind_eq_ok_iff.1 others
    obtain ⟨rfl, rfl⟩ := Prod.mk.inj (Except.ok.inj whole)
    obtain ⟨counted, even⟩ := ih found
    exact ⟨congrArg Nat.succ counted, List.forall_mem_cons.2 ⟨drawProposals_length first, even⟩⟩

/-- No other one of the config files with the numbers given is the same file. -/
def Alone (directory : Path) (indices : List Nat) (fs : FileSystem) (index : Nat) : Prop :=
  ∀ other ∈ indices, other ≠ index →
    ¬fs.SameFile (Path.join directory (configName other)) (Path.join directory (configName index))

theorem alone_of_single (single : fs.Single) (indices : List Nat) (index : Nat) : Alone directory indices fs index := by
  intro other _ different
  exact single.not_sameFile (isName_configName other) (isName_configName index) fun same => different (configName_inj same)

theorem alone_of_apart {names : List String} {indices : List Nat} (apart : fs.Apart directory names)
    (named : ∀ index ∈ indices, configName index ∈ names) {index : Nat} (member : index ∈ indices) :
    Alone directory indices fs index := by
  intro other otherMember different
  exact apart _ (named other otherMember) _ (named index member) fun same => different (configName_inj same)

namespace GeneratorParameters

/-- Why no more files are written behind those that are done, what is answered then, and which files have been begun: all
files are done, or the next one cannot be created, or it cannot be finished because a write is refused or a draw fails. -/
inductive Ends (parameters : GeneratorParameters) (sampler : Sampler State) (directory : Path) (after : FileSystem)
    (done : List Nat) (left : State) : (begun behind : List Nat) → Except Failure (List Path) → Prop
  | complete : Ends parameters sampler directory after done left done []
      (.ok (done.map fun index => Path.join directory (configName index)))
  | refused {index : Nat} {rest : List Nat} {refusal : Refusal} :
      Ends parameters sampler directory after done left done (index :: rest)
        (.error (.refused .creating (Path.join directory (configName index)) refusal))
  | broken {index : Nat} {rest : List Nat} {failure : Failure} {content : Bytes}
      (writing : failure.OfWriting (Path.join directory (configName index)))
      (held : after.contentOf (Path.join directory (configName index)) = .ok content)
      (begins : IsBeginning sampler parameters.header left content) :
      Ends parameters sampler directory after done left (done ++ [index]) (index :: rest) (.error failure)
  | undrawn {index : Nat} {rest : List Nat} {failure : Failure}
      (fails : drawProposals sampler parameters.header.values parameters.header.maxLength
        parameters.header.proposals.toNat left = .error failure) :
      Ends parameters sampler directory after done left (done ++ [index]) (index :: rest) (.error failure)

/-- How far the writing of files has come: those that are done hold their draws, each has been told of, and something
ends it. -/
structure Fills (parameters : GeneratorParameters) (sampler : Sampler State) (directory : Path) (before : FileSystem)
    (state : State) (done begun behind : List Nat) (drawn : List (List (List Value))) (left : State) (after : FileSystem)
    (writing : Traced (List Path)) : Prop where
  draws : drawFiles sampler parameters.header done.length state = .ok (drawn, left)
  touches : Touches directory (begun.map configName) before after
  holds : List.Forall₂ (fun index proposals => Alone directory begun after index →
    after.contentOf (Path.join directory (configName index)) =
      .ok (Text.encode (configText parameters.header proposals))) done drawn
  tells : writing.events = done.map fun index => .proposalsWritten (Path.join directory (configName index))
  ends : Ends parameters sampler directory after done left begun behind writing.result

theorem Ends.begun_subset {done begun behind : List Nat} {left : State} {result : Except Failure (List Path)}
    (ends : Ends parameters sampler directory after done left begun behind result) : begun ⊆ done ++ behind := by
  cases ends with
  | complete | refused => exact List.subset_append_left _ _
  | @broken index rest | @undrawn index rest =>
    rw [List.append_cons done index rest]
    exact List.subset_append_left _ _

theorem Ends.cons {index : Nat} {done begun behind : List Nat} {left : State} {others : Traced (List Path)}
    (ends : Ends parameters sampler directory after done left begun behind others.result) :
    Ends parameters sampler directory after (index :: done) left (index :: begun) behind
      (do
        .report (.proposalsWritten (Path.join directory (configName index)))
        return Path.join directory (configName index) :: (← others) : Traced (List Path)).result := by
  obtain ⟨told, result⟩ := others
  cases ends with
  | complete => exact .complete
  | refused => exact .refused
  | broken writing held begins => exact .broken writing held begins
  | undrawn fails => exact .undrawn fails

theorem events_told_then (event : Event) (path : Path) (others : Traced (List Path)) :
    (do
      .report event
      return path :: (← others) : Traced (List Path)).events = event :: others.events := by
  obtain ⟨told, result⟩ := others
  cases result with
  | error failure => rfl
  | ok paths => exact congrArg (event :: ·) (List.append_nil told)

theorem writeConfig_cases (parameters : GeneratorParameters) (sampler : Sampler State) (directory : Path) (index : Nat)
    (fs : FileSystem) (state : State) :
    let path := Path.join directory (configName index)
    let outcome := parameters.writeConfig sampler path fs state
    (∃ refusal, outcome = (fs, .error (.refused .creating path refusal))) ∨
      Touches directory [configName index] fs outcome.1 ∧ ∃ created content,
        outcome.1.contentOf path = .ok content ∧ ConfigEnd parameters sampler path state created content outcome.2 := by
  intro path outcome
  cases opened : fs.create path with
  | error refusal => exact Or.inl ⟨refusal, writeConfig_of_refused opened⟩
  | ok file =>
    obtain ⟨number, created⟩ := file
    have opens := FileSystem.opens_of_create opened
    obtain ⟨change, ends⟩ := parameters.writeConfig_of_created sampler state opened
    have touches : Touches directory [configName index] fs (parameters.writeConfig sampler path fs state).1 :=
      (opens.touches.trans (change.touches opens.leadsTo)).mono (by simp)
    have held := FileSystem.contentOf_eq_ok_iff.2 ⟨number, change.keeps.leadsTo opens.leadsTo, rfl⟩
    exact Or.inr ⟨touches, created, _, held, ends⟩

theorem Fills.cons {index : Nat} {middle : FileSystem} {next : State} {proposals : List (List Value)}
    {done begun behind : List Nat} {drawn : List (List (List Value))} {left : State} {others : Traced (List Path)}
    (fresh : index ∉ done ++ behind) (first : Touches directory [configName index] fs middle)
    (drawing : drawProposals sampler parameters.header.values parameters.header.maxLength
      parameters.header.proposals.toNat state = .ok (proposals, next))
    (held : middle.contentOf (Path.join directory (configName index)) =
      .ok (Text.encode (configText parameters.header proposals)))
    (fills : parameters.Fills sampler directory middle next done begun behind drawn left after others) :
    parameters.Fills sampler directory fs state (index :: done) (index :: begun) behind (proposals :: drawn) left after
      (do
        .report (.proposalsWritten (Path.join directory (configName index)))
        return Path.join directory (configName index) :: (← others)) := by
  refine ⟨?_, first.trans fills.touches, .cons ?_ (fills.holds.imp ?_), ?_, fills.ends.cons⟩
  · rw [List.length_cons, drawFiles, drawing]
    change (drawFiles sampler parameters.header done.length next >>= fun _ => _) = _
    rw [fills.draws]
    rfl
  · intro alone
    refine fills.touches.contentOf held ?_
    rw [List.forall_mem_map]
    intro other begun
    refine alone other (List.mem_cons_of_mem _ begun) ?_
    rintro rfl
    exact fresh (fills.ends.begun_subset begun)
  · intro other share holds alone
    exact holds fun another begun => alone another (List.mem_cons_of_mem _ begun)
  · rw [events_told_then, fills.tells, List.map_cons]

/-- What writing one file after another does, however it ends. -/
theorem writeConfigsFrom_fills {indices : List Nat} {writing : Traced (List Path)} (distinct : indices.Nodup)
    (written : parameters.writeConfigsFrom sampler directory indices fs state = (after, writing)) :
    ∃ done begun behind drawn left, indices = done ++ behind ∧
      parameters.Fills sampler directory fs state done begun behind drawn left after writing := by
  -- The file system and the sampler state are handed on together, so both vary in the induction.
  induction indices generalizing fs state writing with
  | nil =>
    obtain ⟨rfl, rfl⟩ := Prod.mk.inj written
    exact ⟨[], [], [], [], state, rfl, rfl, .refl directory _ _, .nil, rfl, .complete⟩
  | cons index rest ih =>
    rw [List.nodup_cons] at distinct
    rw [writeConfigsFrom] at written
    rcases parameters.writeConfig_cases sampler directory index fs state with
      ⟨refusal, refused⟩ | ⟨touches, created, content, held, ends⟩
    · rw [refused] at written
      obtain ⟨rfl, rfl⟩ := Prod.mk.inj written
      exact ⟨[], [], index :: rest, [], state, rfl, rfl, .refl directory _ _, .nil, rfl, .refused⟩
    · dsimp only at written
      generalize parameters.writeConfig sampler (Path.join directory (configName index)) fs state = outcome at *
      obtain ⟨middle, result⟩ := outcome
      cases ends with
      | broken writing _ begins =>
        obtain ⟨rfl, rfl⟩ := Prod.mk.inj written
        exact ⟨[], [index], index :: rest, [], state, rfl, rfl, touches, .nil, rfl, .broken writing held begins⟩
      | undrawn fails =>
        obtain ⟨rfl, rfl⟩ := Prod.mk.inj written
        exact ⟨[], [index], index :: rest, [], state, rfl, rfl, touches, .nil, rfl, .undrawn fails⟩
      | @whole proposals next drawing holds =>
        cases others : parameters.writeConfigsFrom sampler directory rest middle next with
        | mk final remaining =>
          dsimp only at written
          rw [others] at written
          obtain ⟨rfl, rfl⟩ := Prod.mk.inj written
          obtain ⟨done, begun, behind, drawn, left, rfl, fills⟩ := ih distinct.2 others
          exact ⟨index :: done, index :: begun, behind, proposals :: drawn, left, rfl,
            fills.cons distinct.1 touches drawing (holds ▸ held)⟩

/-- All that a generation can do: its parameters are rejected, or its directory cannot be made, or a list of its files
does not fit the memory, or it writes files as far as it can. -/
inductive Generates (parameters : GeneratorParameters) (sampler : Sampler State) (directory : Path) (fs : FileSystem)
    (state : State) : FileSystem → Traced GenerateReport → Prop
  | invalid {error : InputError} (rejected : parameters.validate = .error error) :
      Generates parameters sampler directory fs state fs (.fail (.input error))
  | unmade {made : FileSystem} {refusal : Refusal} (accepted : parameters.validate = .ok ())
      (making : fs.makeDirectories directory = (made, .error refusal)) :
      Generates parameters sampler directory fs state made (.fail (.refused .creating directory refusal))
  | crowded {made : FileSystem} (accepted : parameters.validate = .ok ())
      (making : fs.makeDirectories directory = (made, .ok ())) (many : listRoom < parameters.processes.toNat) :
      Generates parameters sampler directory fs state made (.fail (.halted .tooManyEntries))
  | filled {made after : FileSystem} {files : Traced (List Path)} {done begun behind : List Nat}
      {drawn : List (List (List Value))} {left : State} (accepted : parameters.validate = .ok ())
      (making : fs.makeDirectories directory = (made, .ok ())) (few : parameters.processes.toNat ≤ listRoom)
      (split : List.range' 1 parameters.processes.toNat = done ++ behind)
      (fills : parameters.Fills sampler directory made state done begun behind drawn left after files) :
      Generates parameters sampler directory fs state after (do return parameters.report directory (← files))

theorem writeConfigs_generates (parameters : GeneratorParameters) (sampler : Sampler State) (directory : Path)
    (fs : FileSystem) (state : State) :
    parameters.Generates sampler directory fs state (parameters.writeConfigs sampler directory fs state).1
      (parameters.writeConfigs sampler directory fs state).2 := by
  unfold writeConfigs
  split
  next error rejected => exact .invalid rejected
  next accepted =>
    split
    next made refusal making => exact .unmade accepted making
    next made making =>
      unfold reserve
      by_cases few : parameters.processes.toNat ≤ listRoom
      · rw [if_pos few]
        dsimp only
        cases filling : parameters.writeConfigsFrom sampler directory (.range' 1 parameters.processes.toNat) made state with
        | mk after files =>
          obtain ⟨done, begun, behind, drawn, left, split, fills⟩ := writeConfigsFrom_fills List.nodup_range' filling
          exact .filled accepted making few split fills
      · rw [if_neg few]
        exact .crowded accepted making (Nat.not_le.1 few)

theorem keeps_of_writeConfigs (parameters : GeneratorParameters) (sampler : Sampler State) (directory : Path)
    (fs : FileSystem) (state : State) : Keeps fs (parameters.writeConfigs sampler directory fs state).1 := by
  have generates := parameters.writeConfigs_generates sampler directory fs state
  generalize parameters.writeConfigs sampler directory fs state = outcome at generates ⊢
  obtain ⟨after, writing⟩ := outcome
  cases generates with
  | invalid => exact .refl _
  | unmade accepted making | crowded accepted making => exact (FileSystem.touches_of_makeDirectories making).1.toKeeps
  | filled accepted making few split fills =>
    exact (FileSystem.touches_of_makeDirectories making).1.toKeeps.trans fills.touches.toKeeps

theorem fills_of_succeeded {report : GenerateReport}
    (succeeded : (parameters.writeConfigs sampler directory fs state).2.result = .ok report) :
    let indices := List.range' 1 parameters.processes.toNat
    let files := indices.map fun index => Path.join directory (configName index)
    ∃ made drawn left writing, parameters.Fills sampler directory made state indices indices [] drawn left
        (parameters.writeConfigs sampler directory fs state).1 writing ∧
      (parameters.writeConfigs sampler directory fs state).2.events = writing.events ∧
      report = parameters.report directory files := by
  have generates := parameters.writeConfigs_generates sampler directory fs state
  generalize parameters.writeConfigs sampler directory fs state = outcome at succeeded generates ⊢
  obtain ⟨after, writing⟩ := outcome
  cases generates with
  | invalid | unmade | crowded => cases succeeded
  | @filled made _ files done begun behind drawn left accepted making few split fills =>
    obtain ⟨told, result⟩ := files
    obtain ⟨draws, touches, holds, tells, ends⟩ := fills
    cases ends with
    | refused | broken | undrawn => cases succeeded
    | complete =>
      rw [List.append_nil] at split
      subst split
      exact ⟨made, drawn, left, _, ⟨draws, touches, holds, tells, .complete⟩, List.append_nil _,
        (Except.ok.inj succeeded).symm⟩

theorem writeConfigs_eq_ok {writing : Traced GenerateReport} {report : GenerateReport}
    (written : parameters.writeConfigs sampler directory fs state = (after, writing))
    (succeeded : writing.result = .ok report) :
    ∃ draws final, drawFiles sampler parameters.header parameters.processes.toNat state =
        .ok (table parameters.processes.toNat parameters.proposals.toNat draws, final) ∧
      (∀ index ∈ List.range' 1 parameters.processes.toNat,
        Alone directory (List.range' 1 parameters.processes.toNat) after index →
          after.contentOf (Path.join directory (configName index)) = .ok (Text.encode (configText parameters.header
            ((List.range' 1 parameters.proposals.toNat).map (draws index))))) ∧
      writing.events = (List.range' 1 parameters.processes.toNat).map fun index =>
        .proposalsWritten (Path.join directory (configName index)) := by
  obtain rfl : (parameters.writeConfigs sampler directory fs state).1 = after := congrArg Prod.fst written
  obtain rfl : (parameters.writeConfigs sampler directory fs state).2 = writing := congrArg Prod.snd written
  obtain ⟨made, drawn, left, files, ⟨draws, -, holds, tells, -⟩, told, -⟩ := fills_of_succeeded succeeded
  rw [List.length_range'] at draws
  obtain ⟨counted, even⟩ := drawFiles_length draws
  obtain ⟨cells, same⟩ := exists_eq_table even
  rw [counted] at same
  rw [same] at draws holds
  refine ⟨cells, left, draws, ?_, told.trans tells⟩
  rw [table, List.forall₂_map_right_iff, List.forall₂_same] at holds
  exact holds

end GeneratorParameters

end AgreementAudit

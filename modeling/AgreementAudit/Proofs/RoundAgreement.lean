import AgreementAudit.Proofs.Agreement

/-! Agreement over a whole table of rounds. All processes propose and decide in the same rounds, so the parts of
lattice agreement can be said by the numbers of processes and rounds, and the runs of such processes agree in the
one sense just if they do in the other. -/
namespace AgreementAudit

/-- Agreement of processes that all propose and decide in the same rounds. Processes and rounds count from one. -/
structure RoundAgreement (processes rounds : Nat) (proposed decided : Nat → Nat → ValueSet) : Prop where
  valid : ∀ process ∈ List.range' 1 processes, ∀ round ∈ List.range' 1 rounds,
    proposed process round ⊆ decided process round
  possible : ∀ process ∈ List.range' 1 processes, ∀ round ∈ List.range' 1 rounds,
    ∀ value ∈ decided process round, ∃ proposer ∈ List.range' 1 processes, ∃ other ∈ List.range' 1 rounds,
      value ∈ proposed proposer other
  ordered : ∀ left ∈ List.range' 1 processes, ∀ right ∈ List.range' 1 processes,
    ∀ round ∈ List.range' 1 rounds, ValueSet.Ordered (decided left round) (decided right round)

/-- Each process decides in each round what anybody proposed in the rounds chosen for it, its own round among them. -/
structure DecidesUnions (processes rounds : Nat) (proposed decided : Nat → Nat → ValueSet)
    (chosen : Nat → List Nat) : Prop where
  own : ∀ round ∈ List.range' 1 rounds, round ∈ chosen round
  made : ∀ round ∈ List.range' 1 rounds, ∀ other ∈ chosen round, other ∈ List.range' 1 rounds
  union : ∀ process ∈ List.range' 1 processes, ∀ round ∈ List.range' 1 rounds, ∀ value,
    value ∈ decided process round ↔
      ∃ proposer ∈ List.range' 1 processes, ∃ other ∈ chosen round, value ∈ proposed proposer other

theorem getElem?_map_range'_eq_some_iff {Member : Type} {count place : Nat} {member : Nat → Member}
    {found : Member} :
    ((List.range' 1 count).map member)[place]? = some found ↔ place < count ∧ member (place + 1) = found := by
  rw [List.getElem?_map, Option.map_eq_some_iff]
  apply Iff.intro
  · intro placed
    obtain ⟨number, listed, same⟩ := placed
    obtain ⟨inside, value⟩ := List.getElem?_eq_some_iff.1 listed
    rw [List.length_range'] at inside
    rw [List.getElem_range'] at value
    refine ⟨inside, ?_⟩
    rw [← same, ← value, Nat.one_mul, Nat.add_comm]
  · intro numbered
    obtain ⟨inside, same⟩ := numbered
    refine ⟨place + 1, ?_, same⟩
    rw [List.getElem?_range' inside, Nat.one_mul, Nat.add_comm]

theorem forall_getElem?_map_range'_iff {Member : Type} {count : Nat} {first second : Nat → Member}
    {related : Member → Member → Prop} :
    (∀ (place : Nat) (left right : Member), ((List.range' 1 count).map first)[place]? = some left →
        ((List.range' 1 count).map second)[place]? = some right → related left right) ↔
      ∀ number ∈ List.range' 1 count, related (first number) (second number) := by
  apply Iff.intro
  · intro placed number member
    rw [List.mem_range'_1] at member
    have inside : number - 1 < count := by omega
    have counted : number - 1 + 1 = number := by omega
    apply placed (number - 1)
    · exact getElem?_map_range'_eq_some_iff.2 ⟨inside, by rw [counted]⟩
    · exact getElem?_map_range'_eq_some_iff.2 ⟨inside, by rw [counted]⟩
  · intro numbered place left right atFirst atSecond
    obtain ⟨inside, same⟩ := getElem?_map_range'_eq_some_iff.1 atFirst
    obtain ⟨-, sameThere⟩ := getElem?_map_range'_eq_some_iff.1 atSecond
    have member : place + 1 ∈ List.range' 1 count := List.mem_range'_1.2 (by omega)
    have together := numbered (place + 1) member
    rwa [same, sameThere] at together

def runOf (directory : Path) (header : Header) (rounds : Nat) (proposed decided : Nat → Nat → ValueSet)
    (process : Nat) : Run where
  record := .ofDirectory directory process
  config := ⟨Path.join directory (configName process), header, (List.range' 1 rounds).map (proposed process)⟩
  output := ⟨Path.join directory (outputName process), (List.range' 1 rounds).map (decided process)⟩

section Runs

variable {directory : Path} {header : Header} {processes rounds : Nat} {proposed decided : Nat → Nat → ValueSet}

theorem valid_runOf_iff {process : Nat} :
    let run := runOf directory header rounds proposed decided process
    Valid run.config run.output ↔
      ∀ round ∈ List.range' 1 rounds, proposed process round ⊆ decided process round :=
  forall_getElem?_map_range'_iff

theorem inOrder_runOf_iff {left right : Nat} :
    let runs := runOf directory header rounds proposed decided
    InOrder (runs left).output (runs right).output ↔
      ∀ round ∈ List.range' 1 rounds, ValueSet.Ordered (decided left round) (decided right round) :=
  forall_getElem?_map_range'_iff

theorem proposed_runs_iff {value : Value} :
    Proposed ((List.range' 1 processes).map (runOf directory header rounds proposed decided)) value ↔
      ∃ proposer ∈ List.range' 1 processes, ∃ other ∈ List.range' 1 rounds, value ∈ proposed proposer other := by
  apply Iff.intro
  · intro proposes
    obtain ⟨run, listed, set, inRun, inside⟩ := proposes
    obtain ⟨proposer, isProcess, rfl⟩ := List.mem_map.1 listed
    obtain ⟨other, isRound, rfl⟩ := List.mem_map.1 inRun
    exact ⟨proposer, isProcess, other, isRound, inside⟩
  · intro proposes
    obtain ⟨proposer, isProcess, other, isRound, inside⟩ := proposes
    exact ⟨_, List.mem_map_of_mem isProcess, _, List.mem_map_of_mem isRound, inside⟩

theorem agreement_runs_iff :
    Agreement ((List.range' 1 processes).map (runOf directory header rounds proposed decided)) ↔
      RoundAgreement processes rounds proposed decided := by
  apply Iff.intro
  · intro agreement
    refine ⟨?_, ?_, ?_⟩
    · intro process member
      exact valid_runOf_iff.1 (agreement.valid _ (List.mem_map_of_mem member))
    · intro process member round inRound value inside
      exact proposed_runs_iff.1 (agreement.possible _ (List.mem_map_of_mem member) _
        (List.mem_map_of_mem inRound) value inside)
    · intro left isLeft right isRight round inRound
      by_cases same : left = right
      · rw [same]
        exact Or.inl (ValueSet.subset_refl _)
      rw [List.mem_range'_1] at isLeft isRight
      have leftCounted : left - 1 + 1 = left := by omega
      have rightCounted : right - 1 + 1 = right := by omega
      have inOrder := agreement.ordered (left - 1) (right - 1) _ _ (by omega)
        (getElem?_map_range'_eq_some_iff.2 ⟨by omega, rfl⟩)
        (getElem?_map_range'_eq_some_iff.2 ⟨by omega, rfl⟩)
      rw [leftCounted, rightCounted] at inOrder
      exact inOrder_runOf_iff.1 inOrder round inRound
  · intro agreement
    refine ⟨?_, ?_, ?_⟩
    · intro run listed
      obtain ⟨process, member, same⟩ := List.mem_map.1 listed
      rw [← same]
      exact valid_runOf_iff.2 (agreement.valid process member)
    · intro run listed set inRun value inside
      obtain ⟨process, member, rfl⟩ := List.mem_map.1 listed
      obtain ⟨round, inRound, rfl⟩ := List.mem_map.1 inRun
      exact proposed_runs_iff.2 (agreement.possible process member round inRound value inside)
    · intro i j left right different atLeft atRight
      obtain ⟨leftInside, rfl⟩ := getElem?_map_range'_eq_some_iff.1 atLeft
      obtain ⟨rightInside, rfl⟩ := getElem?_map_range'_eq_some_iff.1 atRight
      have isLeft : i + 1 ∈ List.range' 1 processes := List.mem_range'_1.2 (by omega)
      have isRight : j + 1 ∈ List.range' 1 processes := List.mem_range'_1.2 (by omega)
      exact inOrder_runOf_iff.2 (agreement.ordered (i + 1) isLeft (j + 1) isRight)

theorem DecidesUnions.agreement {chosen : Nat → List Nat}
    (unions : DecidesUnions processes rounds proposed decided chosen) :
    RoundAgreement processes rounds proposed decided := by
  refine ⟨?_, ?_, ?_⟩
  · intro process member round inRound value inside
    exact (unions.union process member round inRound value).2
      ⟨process, member, round, unions.own round inRound, inside⟩
  · intro process member round inRound value inside
    obtain ⟨proposer, isProcess, other, isChosen, found⟩ :=
      (unions.union process member round inRound value).1 inside
    exact ⟨proposer, isProcess, other, unions.made round inRound other isChosen, found⟩
  · intro left isLeft right isRight round inRound
    apply Or.inl
    intro value inside
    exact (unions.union right isRight round inRound value).2 ((unions.union left isLeft round inRound value).1 inside)

end Runs

end AgreementAudit

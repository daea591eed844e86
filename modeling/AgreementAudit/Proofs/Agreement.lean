import AgreementAudit.Audit
import AgreementAudit.Proofs.Inclusion

/-! Lattice agreement as a property of runs, said without any check: proposals lie in decisions, decisions
come from proposals, and decisions of one round are ordered. Each check finds nothing exactly where its
part of this holds. -/
namespace AgreementAudit

/-- Each proposal lies in the decision of its round, wherever the round has both. -/
def Valid (config : ProposalFile) (output : DecisionLog) : Prop :=
  ∀ (round : Nat) (proposed decided : ValueSet), config.proposals[round]? = some proposed →
    output.decisions[round]? = some decided → proposed ⊆ decided

/-- Each decision, also one in a round without a proposal, lies in a set. -/
def Possible (output : DecisionLog) (values : ValueSet) : Prop :=
  ∀ decided ∈ output.decisions, decided ⊆ values

/-- Two logs have ordered decisions in each round that both have. -/
def InOrder (left right : DecisionLog) : Prop :=
  ∀ (round : Nat) (first second : ValueSet), left.decisions[round]? = some first →
    right.decisions[round]? = some second → ValueSet.Ordered first second

theorem InOrder.symm {left right : DecisionLog} (inOrder : InOrder left right) : InOrder right left :=
  fun round first second atRight atLeft => (inOrder round second first atLeft atRight).symm

def Proposed (runs : List Run) (value : Value) : Prop :=
  ∃ run ∈ runs, ∃ proposed ∈ run.config.proposals, value ∈ proposed

structure Agreement (runs : List Run) : Prop where
  valid : ∀ run ∈ runs, Valid run.config run.output
  possible : ∀ run ∈ runs, ∀ decided ∈ run.output.decisions, ∀ value ∈ decided, Proposed runs value
  ordered : ∀ (i j : Nat) (left right : Run), i ≠ j → runs[i]? = some left → runs[j]? = some right →
    InOrder left.output right.output

theorem mem_proposedValues {runs : List Run} {value : Value} :
    value ∈ proposedValues (runs.map Run.config) ↔ Proposed runs value := by
  simp only [proposedValues, ValueSet.mem_unions, List.mem_flatMap, List.mem_map, Proposed]
  apply Iff.intro
  · intro found
    obtain ⟨proposed, ⟨_, ⟨run, listed, rfl⟩, member⟩, inside⟩ := found
    exact ⟨run, listed, proposed, member, inside⟩
  · intro proposes
    obtain ⟨run, listed, proposed, member, inside⟩ := proposes
    exact ⟨proposed, ⟨run.config, ⟨run, listed, rfl⟩, member⟩, inside⟩

theorem possible_iff_proposed {runs : List Run} {output : DecisionLog} :
    Possible output (proposedValues (runs.map Run.config)) ↔
      ∀ decided ∈ output.decisions, ∀ value ∈ decided, Proposed runs value := by
  simp only [Possible, ValueSet.subset_iff, mem_proposedValues]

theorem firstFailing_eq_none_iff {Round : Type} {rounds : List Round}
    {fault : Round → Nat → Option Violation} :
    firstFailing rounds fault = none ↔
      ∀ (place : Nat) (round : Round), rounds[place]? = some round → fault round (place + 1) = none := by
  unfold firstFailing
  rw [List.findSome?_eq_none_iff]
  apply Iff.intro
  · intro silent place round found
    have member : (round, 1 + place) ∈ rounds.zipIdx 1 := List.mk_add_mem_zipIdx_iff_getElem?.2 found
    exact Nat.add_comm 1 place ▸ silent (round, 1 + place) member
  · intro silent numbered member
    obtain ⟨round, number⟩ := numbered
    obtain ⟨positive, found⟩ := List.mk_mem_zipIdx_iff_le_and_getElem?_sub.1 member
    have counted : number - 1 + 1 = number := by omega
    exact counted ▸ silent (number - 1) round found

theorem checkValidity_eq_none_iff {config : ProposalFile} {output : DecisionLog} :
    checkValidity config output = none ↔ Valid config output := by
  unfold checkValidity
  rw [firstFailing_eq_none_iff]
  apply Iff.intro
  · intro silent round proposed decided atConfig atOutput
    have together : (config.proposals.zip output.decisions)[round]? = some (proposed, decided) :=
      List.getElem?_zip_eq_some.2 ⟨atConfig, atOutput⟩
    have quiet := silent round (proposed, decided) together
    simpa using quiet
  · intro valid round both together
    obtain ⟨proposed, decided⟩ := both
    obtain ⟨atConfig, atOutput⟩ := List.getElem?_zip_eq_some.1 together
    exact if_pos (valid round proposed decided atConfig atOutput)

theorem checkUniverse_eq_none_iff {output : DecisionLog} {values : ValueSet} :
    checkUniverse output values = none ↔ Possible output values := by
  unfold checkUniverse
  rw [firstFailing_eq_none_iff]
  apply Iff.intro
  · intro silent decided member
    obtain ⟨round, found⟩ := List.mem_iff_getElem?.1 member
    have quiet := silent round decided found
    simpa using quiet
  · intro possible round decided found
    exact if_pos (possible decided (List.mem_of_getElem? found))

theorem checkComparable_eq_none_iff {left right : DecisionLog} :
    checkComparable left right = none ↔ InOrder left right := by
  unfold checkComparable
  rw [firstFailing_eq_none_iff]
  apply Iff.intro
  · intro silent round first second atLeft atRight
    have together : (left.decisions.zip right.decisions)[round]? = some (first, second) :=
      List.getElem?_zip_eq_some.2 ⟨atLeft, atRight⟩
    have quiet := silent round (first, second) together
    rw [← ValueSet.comparable_iff_ordered]
    simpa using quiet
  · intro inOrder round both together
    obtain ⟨first, second⟩ := both
    obtain ⟨atLeft, atRight⟩ := List.getElem?_zip_eq_some.1 together
    exact if_pos (ValueSet.comparable_iff_ordered.2 (inOrder round first second atLeft atRight))

theorem mem_pairs_iff {Member : Type} {list : List Member} {left right : Member} :
    (left, right) ∈ pairs list ↔ ∃ i j : Nat, i < j ∧ list[i]? = some left ∧ list[j]? = some right := by
  induction list with
  | nil => simp [pairs]
  | cons first rest ih =>
    rw [pairs, List.mem_append, List.mem_map, ih]
    apply Iff.intro
    · intro listed
      rcases listed with ⟨other, member, same⟩ | ⟨i, j, before, atLeft, atRight⟩
      · obtain ⟨rfl, rfl⟩ := Prod.mk.inj same
        obtain ⟨place, found⟩ := List.mem_iff_getElem?.1 member
        exact ⟨0, place + 1, Nat.succ_pos place, rfl, found⟩
      · exact ⟨i + 1, j + 1, Nat.succ_lt_succ before, atLeft, atRight⟩
    · intro placed
      obtain ⟨i, j, before, atLeft, atRight⟩ := placed
      obtain ⟨j, rfl⟩ := Nat.exists_eq_succ_of_ne_zero (Nat.ne_zero_of_lt before)
      cases i with
      | zero =>
        have same : first = left := Option.some.inj atLeft
        exact Or.inl ⟨right, List.mem_of_getElem? atRight, by rw [same]⟩
      | succ i => exact Or.inr ⟨i, j, Nat.lt_of_succ_lt_succ before, atLeft, atRight⟩

end AgreementAudit

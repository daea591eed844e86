import AgreementAudit.Proofs.BrokenRounds

/-! What a violation tells about its round. It is of the first round that breaks the property, it lists exactly the
values at fault there, and two logs disagree over the same values whichever of them is named first. -/
namespace AgreementAudit

/-- The first round of a list in which something does not hold, and its place. -/
structure FirstBroken {Round : Type} (rounds : List Round) (holds : Round → Prop) (place : Nat) (round : Round) :
    Prop where
  atPlace : rounds[place]? = some round
  broken : ¬holds round
  before : ∀ (earlier : Nat) (other : Round), earlier < place → rounds[earlier]? = some other → holds other

section FirstFailing

variable {Round : Type} {rounds : List Round} {holds : Round → Prop} {fault : Round → Nat → Option Violation}
  {found : Violation}

theorem FirstBroken.unique {place otherPlace : Nat} {round other : Round}
    (first : FirstBroken rounds holds place round) (second : FirstBroken rounds holds otherPlace other) :
    place = otherPlace ∧ round = other := by
  have places : place = otherPlace := by
    rcases Nat.lt_trichotomy place otherPlace with sooner | same | later
    · exact absurd (second.before place round sooner first.atPlace) first.broken
    · exact same
    · exact absurd (first.before otherPlace other later second.atPlace) second.broken
  refine ⟨places, Option.some.inj ?_⟩
  rw [← first.atPlace, ← second.atPlace, places]

theorem firstFailing_eq_some_iff_firstBroken (tell : Round → Nat → Violation)
    (answers : ∀ round number found, fault round number = some found ↔ ¬holds round ∧ found = tell round number) :
    firstFailing rounds fault = some found ↔
      ∃ place round, FirstBroken rounds holds place round ∧ found = tell round (place + 1) := by
  have silent (round : Round) (number : Nat) (quiet : fault round number = none) : holds round := by
    by_cases holding : holds round
    · exact holding
    · have told := (answers round number _).2 ⟨holding, rfl⟩
      rw [quiet] at told
      cases told
  have onlyIf {other : Violation} (search : firstFailing rounds fault = some other) :
      ∃ place round, FirstBroken rounds holds place round ∧ other = tell round (place + 1) := by
    obtain ⟨place, round, atPlace, fails, before⟩ := silent_before_firstFailing search
    obtain ⟨broken, told⟩ := (answers _ _ _).1 fails
    refine ⟨place, round, ⟨atPlace, broken, ?_⟩, told⟩
    intro earlier another sooner atEarlier
    exact silent another _ (before earlier another sooner atEarlier)
  refine ⟨onlyIf, ?_⟩
  intro first
  obtain ⟨place, round, first, told⟩ := first
  cases search : firstFailing rounds fault with
  | none =>
    have holding := silent round _ (firstFailing_eq_none_iff.1 search place round first.atPlace)
    exact absurd holding first.broken
  | some other =>
    obtain ⟨otherPlace, otherRound, second, toldThere⟩ := onlyIf search
    obtain ⟨rfl, rfl⟩ := first.unique second
    rw [toldThere, told]

end FirstFailing

section Checks

variable {config : ProposalFile} {output other left right : DecisionLog} {possible : ValueSet} {found : Violation}

theorem checkValidity_eq_some_iff_firstBroken :
    checkValidity config output = some found ↔ ∃ place round,
      FirstBroken (config.proposals.zip output.decisions) (fun both => both.1 ⊆ both.2) place round ∧
        found = .missing config.path output.path (place + 1) round.1 round.2 := by
  unfold checkValidity
  apply firstFailing_eq_some_iff_firstBroken fun (both : ValueSet × ValueSet) number =>
    .missing config.path output.path number both.1 both.2
  intro both number fails
  rw [Option.ite_none_left_eq_some, Option.some.injEq, eq_comm (a := fails)]

theorem checkUniverse_eq_some_iff_firstBroken :
    checkUniverse output possible = some found ↔ ∃ place decided,
      FirstBroken output.decisions (· ⊆ possible) place decided ∧
        found = .foreign output.path (place + 1) decided possible := by
  unfold checkUniverse
  apply firstFailing_eq_some_iff_firstBroken fun decided number => .foreign output.path number decided possible
  intro decided number fails
  rw [Option.ite_none_left_eq_some, Option.some.injEq, eq_comm (a := fails)]

theorem checkComparable_eq_some_iff_firstBroken :
    checkComparable left right = some found ↔ ∃ place round,
      FirstBroken (left.decisions.zip right.decisions) (fun both => ValueSet.Ordered both.1 both.2) place round ∧
        found = .unordered left.path right.path (place + 1) round.1 round.2 := by
  unfold checkComparable
  apply firstFailing_eq_some_iff_firstBroken fun (both : ValueSet × ValueSet) number =>
    .unordered left.path right.path number both.1 both.2
  intro both number fails
  rw [Option.ite_none_left_eq_some, Option.some.injEq, ValueSet.comparable_iff_ordered, eq_comm (a := fails)]

theorem FirstBroken.swap {place : Nat} {first second : ValueSet}
    (broken : FirstBroken (left.decisions.zip right.decisions) (fun both => ValueSet.Ordered both.1 both.2) place
      (first, second)) :
    FirstBroken (right.decisions.zip left.decisions) (fun both => ValueSet.Ordered both.1 both.2) place
      (second, first) := by
  obtain ⟨atPlace, unordered, before⟩ := broken
  obtain ⟨atLeft, atRight⟩ := List.getElem?_zip_eq_some.1 atPlace
  refine ⟨List.getElem?_zip_eq_some.2 ⟨atRight, atLeft⟩, fun ordered => unordered ordered.symm, ?_⟩
  intro earlier both sooner atEarlier
  obtain ⟨atRight, atLeft⟩ := List.getElem?_zip_eq_some.1 atEarlier
  have ordered := before earlier both.swap sooner (List.getElem?_zip_eq_some.2 ⟨atLeft, atRight⟩)
  exact ordered.symm

end Checks

namespace ValueSet

end ValueSet

def lateFault : Run := .ofValues 1 [[0], [1], [2]] [[0], [0, 4], [5]]

def shortLog : Run := .ofValues 2 [[0], [1]] [[0, 1], [1, 4]]

end AgreementAudit

import AgreementAudit.Proofs.Agreement

/-! The rounds that break a property, said without a walk through them. Each broken round has one violation to show,
and a comparison finds the one of its first broken round. -/
namespace AgreementAudit

section FirstFailing

variable {Round : Type} {rounds : List Round} {fault : Round → Nat → Option Violation} {found : Violation}

/-- A violation is what some round answers, whether or not an earlier round has an answer too. -/
def Answered (rounds : List Round) (fault : Round → Nat → Option Violation) (found : Violation) : Prop :=
  ∃ (place : Nat) (round : Round), rounds[place]? = some round ∧ fault round (place + 1) = some found

theorem silent_before_firstFailing (first : firstFailing rounds fault = some found) :
    ∃ (place : Nat) (round : Round), rounds[place]? = some round ∧ fault round (place + 1) = some found ∧
      ∀ (earlier : Nat) (other : Round), earlier < place → rounds[earlier]? = some other →
        fault other (earlier + 1) = none := by
  obtain ⟨before, ⟨round, number⟩, after, split, fails, silent⟩ := List.findSome?_eq_some_iff.1 first
  have numbered (place : Nat) : (before ++ (round, number) :: after)[place]? =
      (rounds[place]?).map fun other => (other, place + 1) := by
    rw [← split, List.getElem?_zipIdx]
    simp only [Nat.add_comm]
  -- The walk stops behind the rounds that it has passed over, so their number is the place where it stops.
  have here : (before ++ (round, number) :: after)[before.length]? = some (round, number) := by simp
  rw [numbered, Option.map_eq_some_iff] at here
  obtain ⟨other, atPlace, same⟩ := here
  obtain ⟨rfl, rfl⟩ := Prod.mk.inj same
  refine ⟨before.length, other, atPlace, fails, ?_⟩
  intro earlier another inside atEarlier
  have there := numbered earlier
  rw [List.getElem?_append_left inside, atEarlier] at there
  exact silent _ (List.mem_of_getElem? there)

theorem firstFailing_eq_some_iff {shows : Violation → Prop}
    (numbered : ∀ (round : Round) (number : Nat) (fails : Violation), fault round number = some fails →
      fails.round = number)
    (exact : ∀ fails, Answered rounds fault fails ↔ shows fails) :
    firstFailing rounds fault = some found ↔
      shows found ∧ ∀ other, shows other → found.round ≤ other.round := by
  simp only [← exact]
  apply Iff.intro
  · intro first
    obtain ⟨place, round, atPlace, fails, silent⟩ := silent_before_firstFailing first
    refine ⟨⟨place, round, atPlace, fails⟩, ?_⟩
    intro other answered
    obtain ⟨later, otherRound, atLater, otherFails⟩ := answered
    have notBefore : ¬ later < place := fun before => by
      have quiet := silent later otherRound before atLater
      rw [otherFails] at quiet
      cases quiet
    rw [numbered _ _ _ fails, numbered _ _ _ otherFails]
    omega
  · intro least
    obtain ⟨⟨place, round, atPlace, fails⟩, first⟩ := least
    cases search : firstFailing rounds fault with
    | none =>
      have quiet := firstFailing_eq_none_iff.1 search place round atPlace
      rw [fails] at quiet
      cases quiet
    | some other =>
      -- Both violations are of a least round, so they are answers of one round and hence one violation.
      obtain ⟨otherPlace, otherRound, atOther, otherFails, silent⟩ := silent_before_firstFailing search
      have notAfter := first other ⟨otherPlace, otherRound, atOther, otherFails⟩
      rw [numbered _ _ _ fails, numbered _ _ _ otherFails] at notAfter
      rcases Nat.lt_or_ge place otherPlace with before | after
      · have quiet := silent place round before atPlace
        rw [fails] at quiet
        cases quiet
      · have samePlace : otherPlace = place := by omega
        rw [samePlace, atPlace] at atOther
        rw [samePlace, ← Option.some.inj atOther, fails] at otherFails
        exact otherFails.symm

end FirstFailing

namespace Comparison

/-- A violation that a comparison could find: some round breaks the property, and this is what there is to say
about that round. -/
inductive Shows : Comparison → Violation → Prop
  | missing {run : Run} {round : Nat} {proposed decided : ValueSet}
      (atConfig : run.config.proposals[round]? = some proposed)
      (atOutput : run.output.decisions[round]? = some decided) (broken : ¬ proposed ⊆ decided) :
      Shows (.validity run) (.missing run.config.path run.output.path (round + 1) proposed decided)
  | foreign {run : Run} {values : ValueSet} {round : Nat} {decided : ValueSet}
      (atOutput : run.output.decisions[round]? = some decided) (broken : ¬ decided ⊆ values) :
      Shows (.possible run values) (.foreign run.output.path (round + 1) decided values)
  | unordered {left right : Run} {round : Nat} {first second : ValueSet}
      (atLeft : left.output.decisions[round]? = some first)
      (atRight : right.output.decisions[round]? = some second) (broken : ¬ ValueSet.Ordered first second) :
      Shows (.chain left right) (.unordered left.output.path right.output.path (round + 1) first second)

/-- None of the violations that a comparison could find is of an earlier round. -/
def ShowsFirst (comparison : Comparison) (found : Violation) : Prop :=
  comparison.Shows found ∧ ∀ other, comparison.Shows other → found.round ≤ other.round

theorem checkValidity_eq_some_iff {run : Run} {found : Violation} :
    checkValidity run.config run.output = some found ↔ (validity run).ShowsFirst found := by
  unfold checkValidity ShowsFirst
  apply firstFailing_eq_some_iff
  · intro both number fails answer
    obtain ⟨-, same⟩ := Option.ite_none_left_eq_some.1 answer
    cases same
    rfl
  · intro fails
    apply Iff.intro
    · intro answered
      obtain ⟨round, ⟨proposed, decided⟩, together, answer⟩ := answered
      obtain ⟨atConfig, atOutput⟩ := List.getElem?_zip_eq_some.1 together
      obtain ⟨broken, same⟩ := Option.ite_none_left_eq_some.1 answer
      cases same
      exact .missing atConfig atOutput broken
    · intro shows
      cases shows with
      | missing atConfig atOutput broken =>
        exact ⟨_, (_, _), List.getElem?_zip_eq_some.2 ⟨atConfig, atOutput⟩, if_neg broken⟩

theorem checkUniverse_eq_some_iff {run : Run} {values : ValueSet} {found : Violation} :
    checkUniverse run.output values = some found ↔ (possible run values).ShowsFirst found := by
  unfold checkUniverse ShowsFirst
  apply firstFailing_eq_some_iff
  · intro decided number fails answer
    obtain ⟨-, same⟩ := Option.ite_none_left_eq_some.1 answer
    cases same
    rfl
  · intro fails
    apply Iff.intro
    · intro answered
      obtain ⟨round, decided, atOutput, answer⟩ := answered
      obtain ⟨broken, same⟩ := Option.ite_none_left_eq_some.1 answer
      cases same
      exact .foreign atOutput broken
    · intro shows
      cases shows with
      | foreign atOutput broken => exact ⟨_, _, atOutput, if_neg broken⟩

theorem checkComparable_eq_some_iff {left right : Run} {found : Violation} :
    checkComparable left.output right.output = some found ↔ (chain left right).ShowsFirst found := by
  unfold checkComparable ShowsFirst
  apply firstFailing_eq_some_iff
  · intro both number fails answer
    obtain ⟨-, same⟩ := Option.ite_none_left_eq_some.1 answer
    cases same
    rfl
  · intro fails
    apply Iff.intro
    · intro answered
      obtain ⟨round, ⟨first, second⟩, together, answer⟩ := answered
      obtain ⟨atLeft, atRight⟩ := List.getElem?_zip_eq_some.1 together
      obtain ⟨broken, same⟩ := Option.ite_none_left_eq_some.1 answer
      cases same
      rw [ValueSet.comparable_iff_ordered] at broken
      exact .unordered atLeft atRight broken
    · intro shows
      cases shows with
      | unordered atLeft atRight broken =>
        refine ⟨_, (_, _), List.getElem?_zip_eq_some.2 ⟨atLeft, atRight⟩, if_neg ?_⟩
        rwa [ValueSet.comparable_iff_ordered]

/-- A comparison finds the violation of its first broken round. -/
theorem violation?_eq_some_iff {comparison : Comparison} {found : Violation} :
    comparison.violation? = some found ↔ comparison.ShowsFirst found := by
  cases comparison with
  | validity run => exact checkValidity_eq_some_iff
  | possible run values => exact checkUniverse_eq_some_iff
  | chain left right => exact checkComparable_eq_some_iff

end Comparison

def Run.ofValues (process : Nat) (proposed decided : List (List Value)) : Run :=
  let record := Record.ofDirectory "logs" process
  { record
    config := ⟨record.config, ⟨.ofNat proposed.length, 3, 9⟩, proposed.map .ofList⟩
    output := ⟨record.output, decided.map .ofList⟩ }

example :
    (Comparison.validity (.ofValues 1 [[0], [1], [2]] [[0], [0, 4], [5]])).violation? =
      some (.missing "logs/proc01.config" "logs/proc01.output" 2 (.ofList [1]) (.ofList [0, 4])) := by
  decide +kernel

end AgreementAudit

import AgreementAudit.Proofs.Delimiting
import AgreementAudit.Proofs.FirstWitness

/-! What a message of a violation tells. Round, property and sets of a violation can be read off its message, and with
them all that the violation says beside the names of the files. -/
namespace AgreementAudit

/-- What a violation is about, whatever its round and its files: two sets of which one should lie in the other, values
that nobody proposed, or two decisions. -/
inductive Matter
  | missing (proposed decided : ValueSet)
  | foreign (values : ValueSet)
  | unordered (first second : ValueSet)

namespace Matter

def property : Matter → Property
  | .missing .. => .validity
  | .foreign _ => .universeContainment
  | .unordered .. => .chainConsistency

def values : Matter → List Value
  | .missing proposed decided => (proposed \ decided).values
  | .foreign values => values.values
  | .unordered first second => (first.symmetricDifference second).values

def sets : Matter → List ValueSet
  | .missing proposed decided => [proposed, decided]
  | .foreign values => [values]
  | .unordered first second => [first, second]

def wording : Matter → List Char
  | .missing proposed decided =>
    ": proposed ".toList ++ (proposed.render.toList ++ (" not contained in decided ".toList ++ decided.render.toList))
  | .foreign values => ": decided ".toList ++ (values.render.toList ++ " never proposed by any process".toList)
  | .unordered first second =>
    ": decided ".toList ++ (first.render.toList ++ (" and ".toList ++
      (second.render.toList ++ " are not ordered by inclusion".toList)))

theorem stops_wording (matter : Matter) : Text.Stops Char.isDigit matter.wording := by
  cases matter with
  | missing => exact Text.stops_cons (by decide) _
  | foreign => exact Text.stops_cons (by decide) _
  | unordered => exact Text.stops_cons (by decide) _

/-- The words in front of the first set tell validity from the rest, and those behind it tell the rest apart. -/
theorem wording_injective {matter other : Matter} (same : matter.wording = other.wording) : matter = other := by
  have proposedNotDecided {rest behind : List Char} : ": proposed ".toList ++ rest ≠ ": decided ".toList ++ behind := by
    intro same
    have heads : [':', ' ', 'p'] = [':', ' ', 'd'] := congrArg (List.take 3) same
    exact absurd heads (by decide)
  have neverNotAnd {rest behind : List Char} : " never".toList ++ rest ≠ " and ".toList ++ behind := by
    intro same
    have heads : [' ', 'n'] = [' ', 'a'] := congrArg (List.take 2) same
    exact absurd heads (by decide)
  cases matter with
  | missing proposed decided =>
    cases other with
    | missing otherProposed otherDecided =>
      obtain ⟨rfl, behind⟩ := ValueSet.render_append_inj (List.append_cancel_left same)
      obtain ⟨rfl, -⟩ := ValueSet.render_append_inj (congrArg (· ++ []) (List.append_cancel_left behind))
      rfl
    | foreign => exact absurd same proposedNotDecided
    | unordered => exact absurd same proposedNotDecided
  | foreign values =>
    cases other with
    | missing => exact absurd same.symm proposedNotDecided
    | foreign others =>
      obtain ⟨rfl, -⟩ := ValueSet.render_append_inj (List.append_cancel_left same)
      rfl
    | unordered =>
      obtain ⟨-, behind⟩ := ValueSet.render_append_inj (List.append_cancel_left same)
      exact absurd behind neverNotAnd
  | unordered first second =>
    cases other with
    | missing => exact absurd same.symm proposedNotDecided
    | foreign =>
      obtain ⟨-, behind⟩ := ValueSet.render_append_inj (List.append_cancel_left same)
      exact absurd behind.symm neverNotAnd
    | unordered otherFirst otherSecond =>
      obtain ⟨rfl, behind⟩ := ValueSet.render_append_inj (List.append_cancel_left same)
      obtain ⟨rfl, -⟩ := ValueSet.render_append_inj (List.append_cancel_left behind)
      rfl

end Matter

variable {config : ProposalFile} {output left right : DecisionLog} {possible : ValueSet} {found : Violation}

/-- A violation that a check finds, with what it is about: the sets that stand in the round that it names. -/
inductive Violation.Concerns : Violation → Matter → Prop
  | missing {found : Violation} {config : ProposalFile} {output : DecisionLog} {place : Nat}
      {proposed decided : ValueSet} (finds : checkValidity config output = some found)
      (round : found.round = place + 1) (proposes : config.proposals[place]? = some proposed)
      (decides : output.decisions[place]? = some decided) : Concerns found (.missing proposed decided)
  | foreign {found : Violation} {output : DecisionLog} {possible : ValueSet} {place : Nat} {decided : ValueSet}
      (finds : checkUniverse output possible = some found) (round : found.round = place + 1)
      (decides : output.decisions[place]? = some decided) : Concerns found (.foreign (decided \ possible))
  | unordered {found : Violation} {left right : DecisionLog} {place : Nat} {first second : ValueSet}
      (finds : checkComparable left right = some found) (round : found.round = place + 1)
      (decides : left.decisions[place]? = some first) (decidesToo : right.decisions[place]? = some second) :
      Concerns found (.unordered first second)

theorem exists_missing (finds : checkValidity config output = some found) :
    ∃ place proposed decided, config.proposals[place]? = some proposed ∧ output.decisions[place]? = some decided ∧
      found = .missing config.path output.path (place + 1) proposed decided := by
  obtain ⟨place, ⟨proposed, decided⟩, first, same⟩ := checkValidity_eq_some_iff_firstBroken.1 finds
  obtain ⟨proposes, decides⟩ := List.getElem?_zip_eq_some.1 first.atPlace
  exact ⟨place, proposed, decided, proposes, decides, same⟩

theorem exists_foreign (finds : checkUniverse output possible = some found) :
    ∃ place decided, output.decisions[place]? = some decided ∧
      found = .foreign output.path (place + 1) decided possible := by
  obtain ⟨place, decided, first, same⟩ := checkUniverse_eq_some_iff_firstBroken.1 finds
  exact ⟨place, decided, first.atPlace, same⟩

theorem exists_unordered (finds : checkComparable left right = some found) :
    ∃ place first second, left.decisions[place]? = some first ∧ right.decisions[place]? = some second ∧
      found = .unordered left.path right.path (place + 1) first second := by
  obtain ⟨place, ⟨first, second⟩, broken, same⟩ := checkComparable_eq_some_iff_firstBroken.1 finds
  obtain ⟨decides, decidesToo⟩ := List.getElem?_zip_eq_some.1 broken.atPlace
  exact ⟨place, first, second, decides, decidesToo, same⟩

namespace Violation

theorem toList_message_missing (config output : Path) (round : Nat) (proposed decided : ValueSet) :
    (missing config output round proposed decided).message.toList =
      "round ".toList ++ (round.repr.toList ++ (Matter.missing proposed decided).wording) := by
  change ("round " ++ round.repr ++ ": proposed " ++ proposed.render ++ " not contained in decided " ++
    decided.render).toList = _
  simp only [String.toList_append, List.append_assoc]
  rfl

theorem toList_message_foreign (output : Path) (round : Nat) (decided possible : ValueSet) :
    (foreign output round decided possible).message.toList =
      "round ".toList ++ (round.repr.toList ++ (Matter.foreign (decided \ possible)).wording) := by
  change ("round " ++ round.repr ++ ": decided " ++ (decided \ possible).render ++
    " never proposed by any process").toList = _
  simp only [String.toList_append, List.append_assoc]
  rfl

theorem toList_message_unordered (left right : Path) (round : Nat) (first second : ValueSet) :
    (unordered left right round first second).message.toList =
      "round ".toList ++ (round.repr.toList ++ (Matter.unordered first second).wording) := by
  change ("round " ++ round.repr ++ ": decided " ++ first.render ++ " and " ++ second.render ++
    " are not ordered by inclusion").toList = _
  simp only [String.toList_append, List.append_assoc]
  rfl

theorem Concerns.told {matter : Matter} (concerns : found.Concerns matter) :
    found.property = matter.property ∧ found.values = matter.values ∧
      found.message.toList = "round ".toList ++ (found.round.repr.toList ++ matter.wording) := by
  cases concerns with
  | missing finds round proposes decides =>
    obtain ⟨place, proposed, decided, atConfig, atOutput, rfl⟩ := exists_missing finds
    obtain rfl := Nat.succ.inj round
    obtain rfl := Option.some.inj (proposes.symm.trans atConfig)
    obtain rfl := Option.some.inj (decides.symm.trans atOutput)
    exact ⟨rfl, rfl, toList_message_missing ..⟩
  | foreign finds round decides =>
    obtain ⟨place, decided, atOutput, rfl⟩ := exists_foreign finds
    obtain rfl := Nat.succ.inj round
    obtain rfl := Option.some.inj (decides.symm.trans atOutput)
    exact ⟨rfl, rfl, toList_message_foreign ..⟩
  | unordered finds round decides decidesToo =>
    obtain ⟨place, first, second, atLeft, atRight, rfl⟩ := exists_unordered finds
    obtain rfl := Nat.succ.inj round
    obtain rfl := Option.some.inj (decides.symm.trans atLeft)
    obtain rfl := Option.some.inj (decidesToo.symm.trans atRight)
    exact ⟨rfl, rfl, toList_message_unordered ..⟩

end Violation

/-- Every violation that is found is about sets of its round, and its message tells the round and these sets: two
violations with one message have the same round and the same matter, hence the same property and values. In particular
no two sets are shown alike. -/
theorem messages_tell_apart :
    (∀ config output found, checkValidity config output = some found →
      ∃ proposed decided, found.Concerns (.missing proposed decided)) ∧
    (∀ output possible found, checkUniverse output possible = some found → ∃ values, found.Concerns (.foreign values)) ∧
    (∀ left right found, checkComparable left right = some found →
      ∃ first second, found.Concerns (.unordered first second)) ∧
    (∀ (found other : Violation) (matter otherMatter : Matter), found.Concerns matter → other.Concerns otherMatter →
      (found.message = other.message ↔ found.round = other.round ∧ matter = otherMatter) ∧
      (found.message = other.message →
        found.property = other.property ∧ found.round = other.round ∧ found.values = other.values ∧
          matter.sets = otherMatter.sets)) ∧
    ∀ left right : ValueSet, left.render = right.render → left = right := by
  refine ⟨?_, ?_, ?_, ?_, ?_⟩
  · intro config output found finds
    obtain ⟨place, proposed, decided, proposes, decides, same⟩ := exists_missing finds
    exact ⟨proposed, decided, .missing finds (congrArg Violation.round same) proposes decides⟩
  · intro output possible found finds
    obtain ⟨place, decided, decides, same⟩ := exists_foreign finds
    exact ⟨_, .foreign finds (congrArg Violation.round same) decides⟩
  · intro left right found finds
    obtain ⟨place, first, second, decides, decidesToo, same⟩ := exists_unordered finds
    exact ⟨first, second, .unordered finds (congrArg Violation.round same) decides decidesToo⟩
  · intro found other matter otherMatter concerns otherConcerns
    obtain ⟨property, values, message⟩ := concerns.told
    obtain ⟨otherProperty, otherValues, otherMessage⟩ := otherConcerns.told
    have exact : found.message = other.message ↔ found.round = other.round ∧ matter = otherMatter := by
      rw [← String.toList_inj, message, otherMessage, List.append_cancel_left_eq]
      apply Iff.intro
      · intro same
        obtain ⟨rounds, wordings⟩ := Text.repr_append_inj matter.stops_wording otherMatter.stops_wording same
        exact ⟨rounds, Matter.wording_injective wordings⟩
      · intro same
        rw [same.1, same.2]
    refine ⟨exact, ?_⟩
    intro same
    obtain ⟨rounds, rfl⟩ := exact.1 same
    exact ⟨property.trans otherProperty.symm, rounds, values.trans otherValues.symm, rfl⟩
  · intro left right same
    exact (ValueSet.render_append_inj (congrArg (· ++ []) (String.toList_inj.2 same))).1

def leftLog : DecisionLog := ⟨"left.output", [.ofList [3], .ofList [4, 0]]⟩

def rightLog : DecisionLog := ⟨"right.output", [.ofList [5, 3], .ofList [4, 1], .ofList []]⟩

theorem messages_tell_apart_renamed :
    let found := Violation.unordered "logs/proc01.output" "logs/proc02.output" 2 (.ofList [0, 4]) (.ofList [1, 4])
    let other := Violation.unordered "left.output" "right.output" 2 (.ofList [0, 4]) (.ofList [1, 4])
    checkComparable lateFault.output shortLog.output = some found ∧ checkComparable leftLog rightLog = some other ∧
      found.message = other.message ∧ found.property = other.property ∧ found.round = other.round ∧
      found.values = other.values := by
  intro found other
  have finds : checkComparable lateFault.output shortLog.output = some found := by decide +kernel
  have otherFinds : checkComparable leftLog rightLog = some other := by decide +kernel
  have same : found.message = other.message := rfl
  obtain ⟨-, -, concerned, told, -⟩ := messages_tell_apart
  obtain ⟨_, _, concerns⟩ := concerned _ _ found finds
  obtain ⟨_, _, otherConcerns⟩ := concerned _ _ other otherFinds
  obtain ⟨-, alike⟩ := told found other _ _ concerns otherConcerns
  obtain ⟨property, round, values, -⟩ := alike same
  exact ⟨finds, otherFinds, same, property, round, values⟩

end AgreementAudit

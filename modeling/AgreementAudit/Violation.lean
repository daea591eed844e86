import AgreementAudit.Process

/-! The three properties of lattice agreement and what it means that two files break one of them. A check
goes through the rounds in order and answers with the first one that fails. -/
namespace AgreementAudit

inductive Property
  | validity
  | universeContainment
  | chainConsistency
deriving DecidableEq

namespace Property

def title : Property → String
  | .validity => "validity"
  | .universeContainment => "universe containment"
  | .chainConsistency => "chain consistency"

def key : Property → String
  | .validity => "validity"
  | .universeContainment => "universe_containment"
  | .chainConsistency => "chain_consistency"

end Property

/-- A broken property: the file it is held against, the file it was compared with, the round, counted
from one, and the values that break it. -/
structure Violation where
  property : Property
  subject : Path
  against : Option Path
  round : Nat
  values : List Value
  message : String
deriving DecidableEq

namespace Violation

def missing (config output : Path) (round : Nat) (proposed decided : ValueSet) : Violation where
  property := .validity
  subject := config
  against := some output
  round
  values := (proposed \ decided).values
  message := "round " ++ round.repr ++ ": proposed " ++ proposed.render ++ " not contained in decided " ++
    decided.render

def foreign (output : Path) (round : Nat) (decided possible : ValueSet) : Violation where
  property := .universeContainment
  subject := output
  against := none
  round
  values := (decided \ possible).values
  message := "round " ++ round.repr ++ ": decided " ++ (decided \ possible).render ++
    " never proposed by any process"

def unordered (left right : Path) (round : Nat) (first second : ValueSet) : Violation where
  property := .chainConsistency
  subject := left
  against := some right
  round
  values := (first.symmetricDifference second).values
  message := "round " ++ round.repr ++ ": decided " ++ first.render ++ " and " ++ second.render ++
    " are not ordered by inclusion"

end Violation

/-- The answer of the first round that has one. Rounds are counted from one. -/
def firstFailing {Round : Type} (rounds : List Round) (fault : Round → Nat → Option Violation) :
    Option Violation :=
  (rounds.zipIdx 1).findSome? fun (round, number) => fault round number

/-- In each round with a proposal and a decision, the proposal has to lie in the decision. -/
def checkValidity (config : ProposalFile) (output : DecisionLog) : Option Violation :=
  firstFailing (config.proposals.zip output.decisions) fun (proposed, decided) round =>
    if proposed ⊆ decided then none
    else some (.missing config.path output.path round proposed decided)

/-- In each round with a decision, every decided value has to be possible. -/
def checkUniverse (output : DecisionLog) (possible : ValueSet) : Option Violation :=
  firstFailing output.decisions fun decided round =>
    if decided ⊆ possible then none else some (.foreign output.path round decided possible)

/-- In each round that two logs share, one decision has to lie in the other. -/
def checkComparable (left right : DecisionLog) : Option Violation :=
  firstFailing (left.decisions.zip right.decisions) fun (first, second) round =>
    if first.comparable second then none
    else some (.unordered left.path right.path round first second)

def proposedValues (configs : List ProposalFile) : ValueSet :=
  ValueSet.unions (configs.flatMap ProposalFile.proposals)

end AgreementAudit

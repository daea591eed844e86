/-! Sets of characters, given by ranges of code points. -/
namespace AgreementAudit.Text

/-- Ranges of code points, each by its first and its last member. -/
abbrev Ranges := List (Nat × Nat)

def Ranges.contains (ranges : Ranges) (char : Char) : Bool :=
  ranges.any fun range => range.1 ≤ char.toNat && char.toNat ≤ range.2

end AgreementAudit.Text

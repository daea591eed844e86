import AgreementAudit.Failure
import AgreementAudit.Text.Blank
import AgreementAudit.Text.Numeral

/-! The first line of a proposal file: the number of proposals, the longest proposal and the size of the
value universe. Reading accepts every spelling with three numerals, writing uses the shortest one. -/
namespace AgreementAudit

structure Header where
  proposals : UInt64
  maxLength : UInt64
  values : UInt32
deriving DecidableEq

namespace Header

def ofWords? : List String → Option Header
  | [proposals, maxLength, values] => do
    let proposals ← Text.count? proposals
    let maxLength ← Text.count? maxLength
    let values ← Text.value? values
    return { proposals, maxLength, values }
  | _ => none

def parse (path : Path) (line : String) : Except InputError Header :=
  match ofWords? (Text.words line) with
  | some header => .ok header
  | none => .error (.malformedHeader path (Text.trimEnd line))

def render (header : Header) : String :=
  String.intercalate " "
    [header.proposals.toNat.repr, header.maxLength.toNat.repr, header.values.toNat.repr]

end Header

end AgreementAudit

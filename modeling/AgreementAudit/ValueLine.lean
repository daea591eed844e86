import AgreementAudit.Failure
import AgreementAudit.Text.Blank
import AgreementAudit.Text.Numeral

/-! One line of values, as proposals and decisions are written. The order of the values and repeated
values carry no meaning; the first word that is no value spoils the line. -/
namespace AgreementAudit.ValueLine

def parseWord (path : Path) (line : Nat) (word : String) : Except InputError Value :=
  match Text.value? word with
  | some value => .ok value
  | none => .error (.invalidValue path line word)

def parseWords (path : Path) (line : Nat) (text : String) : Except InputError (List Value) :=
  (Text.words text).mapM (parseWord path line)

def parse (path : Path) (line : Nat) (text : String) : Except InputError ValueSet := do
  let values ← parseWords path line text
  return ValueSet.ofList values

def render (values : List Value) : String :=
  String.intercalate " " (values.map fun value => value.toNat.repr)

end AgreementAudit.ValueLine

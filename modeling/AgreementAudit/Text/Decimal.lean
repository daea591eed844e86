/-! Decimal numbers: a sign, digits with a point among them and a power of ten, of which all but one digit may be
left out. The names of what is infinite or no number count too. -/
namespace AgreementAudit.Text

def dropSign : List Char → List Char
  | '+' :: rest => rest
  | '-' :: rest => rest
  | chars => chars

/-- What may follow the digits of a number. -/
def isPower : List Char → Bool
  | [] => true
  | mark :: rest =>
    let digits := dropSign rest
    mark.toLower = 'e' && !digits.isEmpty && digits.all Char.isDigit

def isDecimal (chars : List Char) : Bool :=
  let number := dropSign chars
  let whole := number.takeWhile Char.isDigit
  let rest := number.dropWhile Char.isDigit
  let (fraction, rest) :=
    match rest with
    | '.' :: behind => (behind.takeWhile Char.isDigit, behind.dropWhile Char.isDigit)
    | _ => ([], rest)
  ["inf", "infinity", "nan"].contains (String.ofList (number.map Char.toLower)) ||
    !(whole ++ fraction).isEmpty && isPower rest

end AgreementAudit.Text

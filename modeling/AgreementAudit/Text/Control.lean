/-! Characters that can steer a terminal, and how a log shows them. A message with a name from elsewhere in
it cannot move the cursor or change colours, since such characters are written by their codes. -/
namespace AgreementAudit.Text

def steeringCharacters : List Char := ['\x07', '\x08', '\x0c', '\x1b', '\x7f']

/-- A steering character below 0x80 is shown by two hexadecimal digits, and a control character from
there on by as many as its code has, between braces. All other characters are shown as they are. -/
def showControl (char : Char) : List Char :=
  if char ∈ steeringCharacters then
    ['\x5c', 'x', Nat.digitChar (char.toNat / 16), Nat.digitChar (char.toNat % 16)]
  else if 0x80 ≤ char.toNat ∧ char.toNat < 0xA0 then
    ['\x5c', 'u', '\x7b'] ++ Nat.toDigits 16 char.toNat ++ ['\x7d']
  else [char]

def showControls (text : String) : String := String.ofList (text.toList.flatMap showControl)

end AgreementAudit.Text

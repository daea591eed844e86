import AgreementAudit.ValueSet

/-! Unsigned decimal numerals: an optional plus sign and at least one digit, leading zeros allowed.
Main statement: what is written for a number reads back as that number. -/
namespace AgreementAudit.Text

def unsigned : List Char → List Char
  | '+' :: digits => digits
  | digits => digits

def natural? (numeral : List Char) : Option Nat :=
  let digits := unsigned numeral
  if digits ≠ [] ∧ digits.all Char.isDigit then some (Nat.ofDigitChars 10 digits 0) else none

theorem unsigned_of_isDigit {numeral : List Char} (digits : ∀ char ∈ numeral, char.isDigit = true) :
    unsigned numeral = numeral := by
  unfold unsigned
  split
  · next rest => exact absurd (digits '+' (by simp)) (by decide)
  · rfl

theorem natural?_toDigits (number : Nat) : natural? (Nat.toDigits 10 number) = some number := by
  have digits : ∀ char ∈ Nat.toDigits 10 number, char.isDigit = true :=
    fun _ member => Nat.isDigit_of_mem_toDigits (by decide) (by decide) member
  unfold natural?
  rw [unsigned_of_isDigit digits]
  simp only [Nat.toDigits_ne_nil, ne_eq, not_false_eq_true, List.all_eq_true, true_and]
  rw [if_pos digits, Nat.ofDigitChars_ten_toDigits]

def value? (numeral : String) : Option Value :=
  (natural? numeral.toList).bind fun number =>
    if fits : number < UInt32.size then some (UInt32.ofNatLT number fits) else none

def count? (numeral : String) : Option UInt64 :=
  (natural? numeral.toList).bind fun number =>
    if fits : number < UInt64.size then some (UInt64.ofNatLT number fits) else none

theorem count?_repr (count : UInt64) : count? count.toNat.repr = some count := by
  unfold count?
  rw [Nat.toList_repr, natural?_toDigits, Option.bind_some, dif_pos count.toNat_lt_size]
  exact congrArg some (UInt64.toNat_inj.1 UInt64.toNat_ofNatLT)

def twoDigits (number : Nat) : String :=
  if number < 10 then "0" ++ number.repr else number.repr

end AgreementAudit.Text

import AgreementAudit.Proofs.Writing
import Mathlib.Data.List.TakeWhile

/-! Where a piece of text ends. A run of characters of one kind ends where another kind begins, so a text of such pieces
can be taken apart in one way only. Digits end a numeral, and a closing brace ends a set. -/
namespace AgreementAudit

namespace Text

/-- What stands behind a run does not go on with a character of its kind. -/
def Stops (kind : Char → Bool) (rest : List Char) : Prop := ∀ char, rest.head? = some char → kind char = false

theorem stops_nil (kind : Char → Bool) : Stops kind [] := fun _ first => nomatch first

theorem stops_cons {kind : Char → Bool} {char : Char} (other : kind char = false) (rest : List Char) :
    Stops kind (char :: rest) := by
  intro first same
  rwa [← Option.some.inj same]

theorem takeWhile_append_of_stops {kind : Char → Bool} {run rest : List Char} (alike : ∀ char ∈ run, kind char = true)
    (stops : Stops kind rest) : (run ++ rest).takeWhile kind = run := by
  have nothing : rest.takeWhile kind = [] := by
    cases rest with
    | nil => rfl
    | cons char others =>
      apply List.takeWhile_cons_of_neg
      rw [stops char rfl]
      exact Bool.false_ne_true
  rw [List.takeWhile_append_of_pos alike, nothing, List.append_nil]

theorem run_append_inj {kind : Char → Bool} {run other rest behind : List Char}
    (alike : ∀ char ∈ run, kind char = true) (otherAlike : ∀ char ∈ other, kind char = true)
    (stops : Stops kind rest) (otherStops : Stops kind behind) (same : run ++ rest = other ++ behind) :
    run = other ∧ rest = behind := by
  have runs : run = other :=
    calc
      run = (run ++ rest).takeWhile kind := (takeWhile_append_of_stops alike stops).symm
      _ = (other ++ behind).takeWhile kind := by rw [same]
      _ = other := takeWhile_append_of_stops otherAlike otherStops
  subst runs
  exact ⟨rfl, List.append_cancel_left same⟩

theorem exists_repr_eq_cons (number : Nat) :
    ∃ char chars, number.repr.toList = char :: chars ∧ char.isDigit = true := by
  have nonempty : number.repr.toList ≠ [] := by
    rw [Nat.toList_repr]
    exact Nat.toDigits_ne_nil
  obtain ⟨char, chars, split⟩ := List.exists_cons_of_ne_nil nonempty
  have member : char ∈ number.repr.toList := split ▸ List.mem_cons_self
  exact ⟨char, chars, split, isDigit_of_mem_repr member⟩

theorem repr_append_inj {number other : Nat} {rest behind : List Char} (stops : Stops Char.isDigit rest)
    (otherStops : Stops Char.isDigit behind) (same : number.repr.toList ++ rest = other.repr.toList ++ behind) :
    number = other ∧ rest = behind := by
  obtain ⟨digits, rests⟩ := run_append_inj (fun _ member => isDigit_of_mem_repr member)
    (fun _ member => isDigit_of_mem_repr member) stops otherStops same
  refine ⟨?_, rests⟩
  rw [Nat.toList_repr, Nat.toList_repr] at digits
  calc
    number = Nat.ofDigitChars 10 (Nat.toDigits 10 number) 0 := Nat.ofDigitChars_ten_toDigits.symm
    _ = Nat.ofDigitChars 10 (Nat.toDigits 10 other) 0 := by rw [digits]
    _ = other := Nat.ofDigitChars_ten_toDigits

end Text

namespace ValueSet

def laterChars (values : List Value) : List Char := values.flatMap fun value => ',' :: ' ' :: value.toNat.repr.toList

def valueChars : List Value → List Char
  | [] => []
  | value :: rest => value.toNat.repr.toList ++ laterChars rest

theorem toList_render (set : ValueSet) : set.render.toList = '\x7b' :: (valueChars set.values ++ ['\x7d']) := by
  have listed (values : List Value) :
      (String.intercalate ", " (values.map fun value => value.toNat.repr)).toList = valueChars values := by
    induction values with
    | nil => simp [valueChars]
    | cons value rest ih =>
      cases rest with
      | nil => simp [valueChars, laterChars]
      | cons next others =>
        rw [List.map_cons] at ih
        rw [List.map_cons, List.map_cons, String.intercalate_cons_cons, String.toList_append, String.toList_append, ih,
          List.append_assoc]
        rfl
  unfold render
  rw [String.toList_append, String.toList_append, listed, List.append_assoc]
  rfl

theorem stops_laterChars (values : List Value) (rest : List Char) :
    Text.Stops Char.isDigit (laterChars values ++ '\x7d' :: rest) := by
  cases values with
  | nil => exact Text.stops_cons (by decide) rest
  | cons value others => exact Text.stops_cons (by decide) _

theorem laterChars_append_inj {left right : List Value} {rest behind : List Char}
    (same : laterChars left ++ '\x7d' :: rest = laterChars right ++ '\x7d' :: behind) :
    left = right ∧ rest = behind := by
  induction left generalizing right with
  | nil =>
    cases right with
    | nil => exact ⟨rfl, (List.cons.inj same).2⟩
    | cons head others => exact absurd (List.cons.inj same).1 (by decide)
  | cons value values ih =>
    cases right with
    | nil => exact absurd (List.cons.inj same).1 (by decide)
    | cons head others =>
      have behindComma : value.toNat.repr.toList ++ (laterChars values ++ '\x7d' :: rest) =
          head.toNat.repr.toList ++ (laterChars others ++ '\x7d' :: behind) := by
        simpa [laterChars] using same
      obtain ⟨numbers, later⟩ :=
        Text.repr_append_inj (stops_laterChars values rest) (stops_laterChars others behind) behindComma
      obtain ⟨rfl, rests⟩ := ih later
      exact ⟨congrArg (· :: values) (UInt32.toNat_inj.1 numbers), rests⟩

theorem valueChars_append_inj {left right : List Value} {rest behind : List Char}
    (same : valueChars left ++ '\x7d' :: rest = valueChars right ++ '\x7d' :: behind) :
    left = right ∧ rest = behind := by
  have closed (value : Value) (values : List Value) (rest behind : List Char) :
      '\x7d' :: rest ≠ valueChars (value :: values) ++ '\x7d' :: behind := by
    intro same
    obtain ⟨char, chars, split, digit⟩ := Text.exists_repr_eq_cons value.toNat
    rw [valueChars, split] at same
    rw [← (List.cons.inj same).1] at digit
    exact absurd digit (by decide)
  cases left with
  | nil =>
    cases right with
    | nil => exact ⟨rfl, (List.cons.inj same).2⟩
    | cons head others => exact absurd same (closed head others rest behind)
  | cons value values =>
    cases right with
    | nil => exact absurd same.symm (closed value values behind rest)
    | cons head others => exact laterChars_append_inj (congrArg (',' :: ' ' :: ·) same)

theorem render_append_inj {left right : ValueSet} {rest behind : List Char}
    (same : left.render.toList ++ rest = right.render.toList ++ behind) : left = right ∧ rest = behind := by
  rw [toList_render, toList_render, List.cons_append, List.cons_append, List.append_assoc, List.append_assoc] at same
  obtain ⟨values, rests⟩ := valueChars_append_inj (List.cons.inj same).2
  refine ⟨?_, rests⟩
  ext value
  rw [← mem_values, values, mem_values]

end ValueSet

end AgreementAudit

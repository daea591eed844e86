import AgreementAudit.Generator
import AgreementAudit.Proofs.Spelling

/-! What is written reads back. Lines that are ended one by one are cut at the same places, and a row of
numerals with single spaces between them holds these numerals as its words. So a written header spells the
header, and a written line of values, with a space behind it or not, spells their set. -/
namespace AgreementAudit

namespace Text

theorem encode_eq_flatMap (text : String) : encode text = text.toList.flatMap String.utf8EncodeChar := by
  unfold encode
  rw [← String.utf8Encode_toList, List.utf8Encode, List.toList_data_toByteArray]

theorem encode_append (left right : String) : encode (left ++ right) = encode left ++ encode right := by
  rw [encode_eq_flatMap, encode_eq_flatMap, encode_eq_flatMap, String.toList_append, List.flatMap_append]

/-- A byte below 128 stands for the character of that code and occurs in no other one. -/
theorem mem_utf8EncodeChar_iff {char : Char} {byte : UInt8} (narrow : byte.toNat < 128) :
    byte ∈ String.utf8EncodeChar char ↔ char.toNat = byte.toNat := by
  have wide (number : Nat) (high : 128 ≤ number) (fits : number < 256) : byte ≠ UInt8.ofNat number := by
    intro same
    rw [same, UInt8.toNat_ofNat_of_lt' fits] at narrow
    omega
  change _ ↔ char.val.toNat = byte.toNat
  unfold String.utf8EncodeChar
  generalize char.val.toNat = code
  by_cases one : code ≤ 0x7f
  · have fits : code < 256 := by omega
    simp only [one, ↓reduceIte, List.mem_singleton]
    apply Iff.intro
    · intro same
      rw [same, UInt8.toNat_ofNat_of_lt' fits]
    · intro same
      rw [same, UInt8.ofNat_toNat]
  have different : ¬code = byte.toNat := by omega
  apply iff_of_false _ different
  simp only [one, ↓reduceIte]
  by_cases two : code ≤ 0x7ff
  · simp only [two, ↓reduceIte, List.mem_cons, List.not_mem_nil, or_false, not_or]
    exact ⟨wide _ (by omega) (by omega), wide _ (by omega) (by omega)⟩
  by_cases three : code ≤ 0xffff
  · simp only [two, three, ↓reduceIte, List.mem_cons, List.not_mem_nil, or_false, not_or]
    exact ⟨wide _ (by omega) (by omega), wide _ (by omega) (by omega), wide _ (by omega) (by omega)⟩
  · simp only [two, three, ↓reduceIte, List.mem_cons, List.not_mem_nil, or_false, not_or]
    exact ⟨wide _ (by omega) (by omega), wide _ (by omega) (by omega), wide _ (by omega) (by omega),
      wide _ (by omega) (by omega)⟩

theorem mem_encode_iff {text : String} {byte : UInt8} (narrow : byte.toNat < 128) :
    byte ∈ encode text ↔ ∃ char ∈ text.toList, char.toNat = byte.toNat := by
  rw [encode_eq_flatMap, List.mem_flatMap]
  simp only [mem_utf8EncodeChar_iff narrow]

/-- The characters of written lines: digits and the space between two numerals. -/
def Plain (text : String) : Prop := ∀ char ∈ text.toList, char.isDigit = true ∨ char = ' '

theorem toNat_of_isDigit {char : Char} (digit : char.isDigit = true) : 48 ≤ char.toNat ∧ char.toNat ≤ 57 := by
  simpa [Char.isDigit, UInt32.le_iff_toNat_le] using digit

theorem Plain.toNat_ge {text : String} (plain : Plain text) {char : Char} (member : char ∈ text.toList) :
    32 ≤ char.toNat := by
  rcases plain char member with digit | space
  · have bounds := toNat_of_isDigit digit
    omega
  · rw [space]
    decide

theorem Plain.append {left right : String} (first : Plain left) (second : Plain right) :
    Plain (left ++ right) := by
  intro char member
  rw [String.toList_append, List.mem_append] at member
  exact member.elim (first char) (second char)

theorem Plain.unbroken {text : String} (plain : Plain text) : lineFeed ∉ encode text := by
  rw [mem_encode_iff (by decide)]
  intro found
  obtain ⟨char, member, code⟩ := found
  have low := plain.toNat_ge member
  rw [code] at low
  exact absurd low (by decide)

theorem Plain.dropReturn {text : String} (plain : Plain text) : dropReturn (encode text) = encode text := by
  apply if_neg
  intro last
  have inside : carriageReturn ∈ encode text := List.mem_of_getLast? last
  obtain ⟨char, member, code⟩ := (mem_encode_iff (by decide)).1 inside
  have low := plain.toNat_ge member
  rw [code] at low
  exact absurd low (by decide)

theorem encode_endLines_cons (text : String) (rest : List String) :
    encode (endLines (text :: rest)) = encode text ++ lineFeed :: encode (endLines rest) := by
  have feed : encode "\n" = [lineFeed] := rfl
  rw [endLines, List.map_cons, String.join_cons, encode_append, encode_append, feed, List.append_assoc]
  rfl

theorem lines_encode_endLines {texts : List String} (plain : ∀ text ∈ texts, Plain text) :
    lines (encode (endLines texts)) = texts.map encode := by
  induction texts with
  | nil => rfl
  | cons text rest ih =>
    have first : Plain text := plain text List.mem_cons_self
    have later := ih fun other member => plain other (List.mem_cons_of_mem _ member)
    rw [encode_endLines_cons, lines_append_lineFeed first.unbroken, first.dropReturn, later, List.map_cons]

theorem isBlank_of_isDigit {char : Char} (digit : char.isDigit = true) : isBlank char = false := by
  have bounds := toNat_of_isDigit digit
  simp only [isBlank, blankRanges, Ranges.contains, List.any_cons, List.any_nil, Bool.or_eq_false_iff,
    Bool.and_eq_false_iff, decide_eq_false_iff_not, and_true]
  omega

theorem isDigit_of_mem_repr {number : Nat} {char : Char} (member : char ∈ number.repr.toList) :
    char.isDigit = true := by
  rw [Nat.toList_repr] at member
  exact Nat.isDigit_of_mem_toDigits (by decide) (by decide) member

theorem Plain.repr (number : Nat) : Plain number.repr := fun _ member => Or.inl (isDigit_of_mem_repr member)

theorem wordsOf_repr (number : Nat) : wordsOf number.repr.toList = [number.repr.toList] := by
  apply wordsOf_solid
  · rw [Nat.toList_repr]
    exact Nat.toDigits_ne_nil
  · intro char member
    exact isBlank_of_isDigit (isDigit_of_mem_repr member)

def spaced (numbers : List Nat) : String := String.intercalate " " (numbers.map Nat.repr)

theorem spaced_cons_cons (first second : Nat) (rest : List Nat) :
    spaced (first :: second :: rest) = first.repr ++ " " ++ spaced (second :: rest) := by
  unfold spaced
  rw [List.map_cons, List.map_cons, String.intercalate_cons_cons]

theorem Plain.spaced (numbers : List Nat) : Plain (spaced numbers) := by
  have space : Plain " " := by
    intro char member
    exact Or.inr (List.mem_singleton.1 member)
  induction numbers with
  | nil => exact fun char member => absurd member (by simp [Text.spaced])
  | cons first rest ih =>
    cases rest with
    | nil => simpa only [Text.spaced, List.map_cons, List.map_nil, String.intercalate_singleton] using repr first
    | cons second others =>
      rw [spaced_cons_cons]
      exact ((repr first).append space).append ih

theorem wordsOf_spaced (numbers : List Nat) :
    wordsOf (spaced numbers).toList = numbers.map fun number => number.repr.toList := by
  induction numbers with
  | nil => simp [spaced, wordsOf_nil]
  | cons first rest ih =>
    cases rest with
    | nil =>
      simp only [spaced, List.map_cons, List.map_nil, String.intercalate_singleton]
      exact wordsOf_repr first
    | cons second others =>
      have parts : (spaced (first :: second :: others)).toList =
          first.repr.toList ++ ' ' :: (spaced (second :: others)).toList := by
        simp [spaced_cons_cons, String.toList_append]
      rw [parts, wordsOf_append_cons (by decide), wordsOf_repr, ih]
      rfl

theorem words_spaced (numbers : List Nat) : words (spaced numbers) = numbers.map Nat.repr := by
  unfold words
  rw [wordsOf_spaced, List.map_map]
  apply List.map_congr_left
  intro number _
  exact String.ofList_toList

theorem words_append_blank {behind : String} {blank : Char} (single : behind.toList = [blank])
    (isSeparator : isBlank blank = true) (text : String) : words (text ++ behind) = words text := by
  rw [words, String.toList_append, single, wordsOf_append_cons isSeparator, wordsOf_nil, List.append_nil, words]

end Text

theorem spells_repr (number : Nat) : Spells number.repr number := by
  refine ⟨number.repr.toList, ?_, fun _ member => Text.isDigit_of_mem_repr member, Or.inl rfl, ?_⟩
  · rw [Nat.toList_repr]
    exact Nat.toDigits_ne_nil
  · rw [Nat.toList_repr, Nat.ofDigitChars_ten_toDigits]

theorem spellsHeader_render (header : Header) : SpellsHeader (Text.encode header.render) header := by
  refine ⟨header.render, _, _, _, Text.decode?_encode _, ?_, spells_repr _, spells_repr _, spells_repr _⟩
  exact Text.words_spaced [header.proposals.toNat, header.maxLength.toNat, header.values.toNat]

/-- The text of a proposal file: the header and the proposals, each on a line of its own. -/
def configText (header : Header) (proposals : List (List Value)) : String :=
  Text.endLines (header.render :: proposals.map ValueLine.render)

/-- A line of values as processes write it: some leave a space behind the last value. -/
def lineOf (values : List Value) (trailing : Bool) : String :=
  if trailing then ValueLine.render values ++ " " else ValueLine.render values

theorem render_eq_spaced (values : List Value) : ValueLine.render values = Text.spaced (values.map UInt32.toNat) := by
  unfold ValueLine.render Text.spaced
  rw [List.map_map]
  rfl

theorem words_lineOf (values : List Value) (trailing : Bool) :
    Text.words (lineOf values trailing) = values.map fun value => value.toNat.repr := by
  unfold lineOf
  rw [render_eq_spaced]
  cases trailing with
  | true =>
    have bare (text : String) : Text.words (text ++ " ") = Text.words text :=
      Text.words_append_blank rfl (by decide) text
    exact (bare _).trans ((Text.words_spaced _).trans (List.map_map ..))
  | false => exact (Text.words_spaced _).trans (List.map_map ..)

theorem spellsSet_lineOf {values : List Value} {set : ValueSet} (trailing : Bool)
    (same : ∀ value, value ∈ set ↔ value ∈ values) : SpellsSet (Text.encode (lineOf values trailing)) set := by
  refine ⟨lineOf values trailing, values, Text.decode?_encode _, ?_, same⟩
  rw [words_lineOf, List.forall₂_map_left_iff, List.forall₂_same]
  exact fun value _ => spells_repr value.toNat

theorem plain_lineOf (values : List Value) (trailing : Bool) : Text.Plain (lineOf values trailing) := by
  have row : Text.Plain (ValueLine.render values) := by
    rw [render_eq_spaced]
    exact Text.Plain.spaced _
  unfold lineOf
  cases trailing with
  | false => exact row
  | true => exact row.append fun char member => Or.inr (List.mem_singleton.1 member)

end AgreementAudit

import AgreementAudit.Proofs.FirstFault
import AgreementAudit.Proofs.FreeWriting

/-! What a line of values says. It depends on the words of the line only, on a good line even on which words there are and
not on their order, and a line that is put together from two says what both of them say. -/
namespace AgreementAudit

namespace ValueSet

theorem ofList_append (left right : List Value) : ofList (left ++ right) = ofList left ∪ ofList right := by
  ext value
  rw [mem_ofList, List.mem_append, mem_union, mem_ofList, mem_ofList]

end ValueSet

namespace Text

theorem words_append_singleton_append {blank : Char} (isSeparator : isBlank blank = true) (left right : String) :
    words (left ++ String.singleton blank ++ right) = words left ++ words right := by
  unfold words
  rw [String.toList_append, String.toList_append, String.toList_singleton, List.append_assoc, List.singleton_append,
    wordsOf_append_cons isSeparator, List.map_append]

theorem Row.isWord {words : List String} {line : List Char} (row : Row words line) : ∀ word ∈ words, IsWord word := by
  induction row with
  | nothing => exact List.forall_mem_nil _
  | blank isBlank behind ih => exact ih
  | word isWord apart behind ih => exact List.forall_mem_cons.2 ⟨isWord, ih⟩

end Text

namespace ValueLine

/-- The union of two answers, or the error of the first that has one. -/
def both (first second : Except InputError ValueSet) : Except InputError ValueSet := do
  let left ← first
  let right ← second
  return left ∪ right

variable {path : Path} {number : Nat} {line other : String} {set : ValueSet}

theorem parse_eq_ok_iff_mem :
    parse path number line = .ok set ↔
      (∀ word ∈ Text.words line, SpellsValue word) ∧
        ∀ value : Value, value ∈ set ↔ ∃ word ∈ Text.words line, Spells word value.toNat := by
  have listed {words : List String} {values : List Value}
      (spelled : List.Forall₂ (fun word value => Spells word value.toNat) words values) (value : Value) :
      value ∈ values ↔ ∃ word ∈ words, Spells word value.toNat := by
    induction spelled with
    | nil => simp
    | @cons word head words values first _ ih =>
      have unique : Spells word value.toNat ↔ value = head := by
        rw [← Text.value?_eq_some_iff, Text.value?_eq_some_iff.2 first, Option.some.injEq, eq_comm]
      rw [List.mem_cons, List.exists_mem_cons_iff, ih, unique]
  rw [parse_eq_ok_iff]
  apply Iff.intro
  · intro read
    obtain ⟨values, spelled, members⟩ := read
    refine ⟨?_, ?_⟩
    · intro word member
      rw [spellsValue_iff]
      exact exists_forall₂_iff.1 ⟨values, spelled⟩ word member
    · intro value
      rw [members, listed spelled]
  · intro good
    obtain ⟨spelled, members⟩ := good
    simp only [spellsValue_iff] at spelled
    obtain ⟨values, spelled⟩ := exists_forall₂_iff.2 spelled
    refine ⟨values, spelled, ?_⟩
    intro value
    rw [members, listed spelled]

theorem parse_of_words_eq (same : Text.words other = Text.words line) :
    parse path number other = parse path number line := by
  unfold parse parseWords
  rw [same]

theorem parse_of_same_words (good : ∀ word ∈ Text.words line, SpellsValue word)
    (same : ∀ word, word ∈ Text.words other ↔ word ∈ Text.words line) :
    parse path number other = parse path number line := by
  obtain ⟨set, read⟩ : ∃ set, parse path number line = .ok set := by
    simp only [spellsValue_iff] at good
    obtain ⟨values, spelled⟩ := exists_forall₂_iff.2 good
    exact ⟨.ofList values, parse_eq_ok_iff.2 ⟨values, spelled, fun _ => ValueSet.mem_ofList⟩⟩
  rw [read]
  rw [parse_eq_ok_iff_mem] at read ⊢
  simpa only [same] using read

theorem parse_append_singleton_append {blank : Char} (isSeparator : Text.isBlank blank = true) (line other : String) :
    parse path number (line ++ String.singleton blank ++ other) =
      both (parse path number line) (parse path number other) := by
  unfold parse parseWords
  rw [Text.words_append_singleton_append isSeparator, List.mapM_append]
  cases (Text.words line).mapM (parseWord path number) with
  | error fault => rfl
  | ok left =>
    cases (Text.words other).mapM (parseWord path number) with
    | error fault => rfl
    | ok right => exact congrArg Except.ok (ValueSet.ofList_append left right)

end ValueLine

/-- A line is read exactly if each of its words spells a value, and then as the set of these values; otherwise the
leftmost word that does not is told, with its place. So the order of the words of a good line and how often each of them
stands there carry no meaning, no line is read differently for the blanks around its words, and two lines with a blank
between them read as the union of both, or as the first that cannot be read. -/
theorem value_lines_exact (path : Path) (number : Nat) (line : String) :
    (∀ set, ValueLine.parse path number line = .ok set ↔
      ∃ words, Text.Row words line.toList ∧ (∀ word ∈ words, SpellsValue word) ∧
        ∀ value : Value, value ∈ set ↔ ∃ word ∈ words, Spells word value.toNat) ∧
    (∀ error, ValueLine.parse path number line = .error error ↔
      ∃ before word after, Text.Row (before ++ word :: after) line.toList ∧
        (∀ earlier ∈ before, SpellsValue earlier) ∧ ¬SpellsValue word ∧ Text.IsWord word ∧
        error = .invalidValue path number word) ∧
    (∀ words other otherWords, Text.Row words line.toList → Text.Row otherWords other.toList →
      (∀ word ∈ words, SpellsValue word) → (∀ word, word ∈ otherWords ↔ word ∈ words) →
      ValueLine.parse path number other = ValueLine.parse path number line) ∧
    (∀ words other, Text.Row words line.toList → Text.Row words other.toList →
      ValueLine.parse path number other = ValueLine.parse path number line) ∧
    ∀ other blank, Text.isBlank blank = true →
      ValueLine.parse path number (line ++ String.singleton blank ++ other) =
        ValueLine.both (ValueLine.parse path number line) (ValueLine.parse path number other) := by
  refine ⟨?_, ?_, ?_, ?_, ?_⟩
  · intro set
    simp only [ValueLine.parse_eq_ok_iff_mem, Text.row_iff, exists_eq_left']
  · intro error
    simp only [ValueLine.parse_eq_error_iff, ← Text.row_iff]
    apply Iff.intro
    · intro fault
      obtain ⟨before, word, after, row, good, bad, same⟩ := fault
      exact ⟨before, word, after, row, good, bad, row.isWord word (by simp), same⟩
    · intro fault
      obtain ⟨before, word, after, row, good, bad, -, same⟩ := fault
      exact ⟨before, word, after, row, good, bad, same⟩
  · intro words other otherWords row otherRow good same
    rw [Text.row_iff] at row otherRow
    subst row otherRow
    exact ValueLine.parse_of_same_words good same
  · intro words other row otherRow
    exact ValueLine.parse_of_words_eq ((Text.row_iff.1 otherRow).trans (Text.row_iff.1 row).symm)
  · intro other blank isSeparator
    exact ValueLine.parse_append_singleton_append isSeparator line other

theorem value_lines_exact_wide :
    ValueLine.parse "logs/proc01.output" 3 "+007\u00a012" = .ok (.ofList [7, 12]) ∧
      ValueLine.parse "logs/proc01.output" 3 "12\r+007 +007 12 " = .ok (.ofList [7, 12]) ∧
      ValueLine.parse "logs/proc01.output" 3 "\t+007\u2028\u3000 12" = .ok (.ofList [7, 12]) ∧
      ValueLine.parse "logs/proc01.output" 3 ("+007\u00a012" ++ " " ++ "5\r") = .ok (.ofList [5, 7, 12]) ∧
      ValueLine.parse "logs/proc01.output" 3 ("+007\u00a012" ++ " " ++ "-1 4294967296") =
        .error (.invalidValue "logs/proc01.output" 3 "-1") := by
  have words : Text.Row ["+007", "12"] "+007\u00a012".toList := Text.row_iff.2 rfl
  have otherWords : Text.Row ["12", "+007", "+007", "12"] "12\r+007 +007 12 ".toList := Text.row_iff.2 rfl
  have wideWords : Text.Row ["+007", "12"] "\t+007\u2028\u3000 12".toList := Text.row_iff.2 rfl
  have seven : SpellsValue "+007" := ⟨7, spells_padded true 2 7, by decide⟩
  have twelve : SpellsValue "12" := ⟨12, spells_padded false 0 12, by decide⟩
  have spelled : ∀ word ∈ ["+007", "12"], SpellsValue word := by simp [seven, twelve]
  have same : ∀ word, word ∈ ["12", "+007", "+007", "12"] ↔ word ∈ ["+007", "12"] := by simp [or_comm]
  have read : ValueLine.parse "logs/proc01.output" 3 "+007\u00a012" = .ok (.ofList [7, 12]) := rfl
  obtain ⟨-, -, shuffled, spread, joined⟩ := value_lines_exact "logs/proc01.output" 3 "+007\u00a012"
  refine ⟨read, ?_, ?_, ?_, ?_⟩
  · exact (shuffled _ _ _ words otherWords spelled same).trans read
  · exact (spread _ _ words wideWords).trans read
  · exact joined "5\r" ' ' (by decide)
  · exact joined "-1 4294967296" ' ' (by decide)

end AgreementAudit

import AgreementAudit.Text.Blank

/-! How a line is cut into words, said as a grammar of its characters. Every line is a row of words in one way, the way
in which its words are read. -/
namespace AgreementAudit.Text

def IsWord (word : String) : Prop := word.toList ≠ [] ∧ ∀ char ∈ word.toList, isBlank char = false

/-- A row of words: blanks may stand anywhere but inside a word, and one at least stands between two words. -/
inductive Row : List String → List Char → Prop
  | nothing : Row [] []
  | blank {char : Char} {words : List String} {line : List Char} (isBlank : isBlank char = true)
      (behind : Row words line) : Row words (char :: line)
  | word {word : String} {words : List String} {line : List Char} (isWord : IsWord word)
      (apart : ∀ char rest, line = char :: rest → isBlank char = true) (behind : Row words line) :
      Row (word :: words) (word.toList ++ line)

theorem wordsOf_cons_blank {char : Char} (blank : isBlank char = true) (line : List Char) :
    wordsOf (char :: line) = wordsOf line := wordsOf_append_cons blank [] line

theorem wordsOf_append_apart {word line : List Char} (nonempty : word ≠ [])
    (solid : ∀ char ∈ word, isBlank char = false) (apart : ∀ char rest, line = char :: rest → isBlank char = true) :
    wordsOf (word ++ line) = word :: wordsOf line := by
  cases line with
  | nil => rw [List.append_nil, wordsOf_solid nonempty solid, wordsOf_nil]
  | cons char rest =>
    have blank : isBlank char = true := apart char rest rfl
    rw [wordsOf_append_cons blank, wordsOf_cons_blank blank, wordsOf_solid nonempty solid, List.singleton_append]

theorem Row.wordsOf_eq {words : List String} {line : List Char} (row : Row words line) :
    wordsOf line = words.map String.toList := by
  induction row with
  | nothing => rfl
  | blank isBlank behind ih => rw [wordsOf_cons_blank isBlank, ih]
  | word isWord apart behind ih => rw [wordsOf_append_apart isWord.1 isWord.2 apart, ih, List.map_cons]

theorem exists_row (line : List Char) : ∃ words, Row words line := by
  induction line with
  | nil => exact ⟨[], .nothing⟩
  | cons char rest ih =>
    obtain ⟨words, row⟩ := ih
    by_cases blank : isBlank char = true
    · exact ⟨words, .blank blank row⟩
    have solid : isBlank char = false := Bool.not_eq_true _ ▸ blank
    have begun (word : List Char) (solidToo : ∀ other ∈ word, isBlank other = false) {others : List String}
        {line : List Char} (apart : ∀ first rest, line = first :: rest → isBlank first = true)
        (behind : Row others line) : ∃ words, Row words (char :: word ++ line) := by
      have isWord : IsWord (String.ofList (char :: word)) := by
        rw [IsWord, String.toList_ofList]
        exact ⟨List.cons_ne_nil _ _, List.forall_mem_cons.2 ⟨solid, solidToo⟩⟩
      have row := Row.word isWord apart behind
      rw [String.toList_ofList] at row
      exact ⟨_, row⟩
    cases row with
    | nothing => exact begun [] (by simp) (by simp) .nothing
    | blank isBlank behind =>
      exact begun [] (by simp) (fun _ _ same => (List.cons.inj same).1 ▸ isBlank) (.blank isBlank behind)
    | word isWord apart behind => exact begun _ isWord.2 apart behind

theorem row_iff {words : List String} {text : String} : Row words text.toList ↔ Text.words text = words := by
  have read {found : List String} (row : Row found text.toList) : Text.words text = found := by
    rw [Text.words, row.wordsOf_eq, List.map_map]
    exact (List.map_congr_left fun word _ => String.ofList_toList).trans (List.map_id found)
  apply Iff.intro
  · exact read
  · intro same
    obtain ⟨found, row⟩ := exists_row text.toList
    rw [← same, read row]
    exact row

end AgreementAudit.Text

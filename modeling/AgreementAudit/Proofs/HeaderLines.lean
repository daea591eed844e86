import AgreementAudit.Proofs.Readback
import AgreementAudit.Proofs.WordCutting
import Mathlib.Data.List.DropRight

/-! The first line of a proposal file. It is accepted if three words spell numbers that fit their fields. What is shown of
any other line has lost the blanks behind it and nothing else, so it is rejected for the same reason. -/
namespace AgreementAudit

namespace Text

/-- What is shown of a text: only blanks are missing behind it, and it ends in none. -/
structure Trims (text shown : String) : Prop where
  blanks : ∃ behind, text.toList = shown.toList ++ behind ∧ ∀ char ∈ behind, isBlank char = true
  bare : ∀ char, shown.toList.getLast? = some char → isBlank char = false

theorem dropBlanksBehind_eq_rdropWhile (chars : List Char) : dropBlanksBehind chars = chars.rdropWhile isBlank := rfl

theorem Trims.toList_eq {text shown : String} (trims : Trims text shown) :
    dropBlanksBehind text.toList = shown.toList := by
  obtain ⟨⟨behind, split, blank⟩, bare⟩ := trims
  have dropped : dropBlanksBehind text.toList = dropBlanksBehind shown.toList := by
    unfold dropBlanksBehind
    rw [split, List.reverse_append, List.dropWhile_append_of_pos]
    intro char member
    exact blank char (List.mem_reverse.1 member)
  rw [dropped, dropBlanksBehind_eq_rdropWhile, List.rdropWhile_eq_self_iff]
  intro nonempty
  rw [bare _ (List.getLast?_eq_some_getLast nonempty)]
  exact Bool.false_ne_true

theorem trims_iff {text shown : String} : Trims text shown ↔ trimEnd text = shown := by
  apply Iff.intro
  · intro trims
    rw [trimEnd, trims.toList_eq, String.ofList_toList]
  · intro same
    have kept : shown.toList = text.toList.rdropWhile isBlank := by
      rw [← same, trimEnd, String.toList_ofList, dropBlanksBehind_eq_rdropWhile]
    refine ⟨⟨text.toList.rtakeWhile isBlank, ?_, ?_⟩, ?_⟩
    · rw [kept, List.rdropWhile_append_rtakeWhile]
    · intro char member
      exact List.mem_rtakeWhile_imp member
    · intro char last
      rw [kept, List.getLast?_eq_some_iff] at last
      obtain ⟨front, split⟩ := last
      have nonempty : text.toList.rdropWhile isBlank ≠ [] := by simp [split]
      have unblank := List.rdropWhile_last_not isBlank text.toList nonempty
      simpa [split] using unblank

theorem trimEnd_trimEnd (text : String) : trimEnd (trimEnd text) = trimEnd text := by
  unfold trimEnd
  rw [String.toList_ofList, dropBlanksBehind_eq_rdropWhile, dropBlanksBehind_eq_rdropWhile,
    List.rdropWhile_idempotent]

theorem wordsOf_blanks {blanks : List Char} (blank : ∀ char ∈ blanks, isBlank char = true) : wordsOf blanks = [] := by
  induction blanks with
  | nil => rfl
  | cons char rest ih =>
    rw [List.forall_mem_cons] at blank
    rw [wordsOf_cons_blank blank.1, ih blank.2]

theorem wordsOf_append_blanks (chars : List Char) {blanks : List Char}
    (blank : ∀ char ∈ blanks, isBlank char = true) : wordsOf (chars ++ blanks) = wordsOf chars := by
  cases blanks with
  | nil => rw [List.append_nil]
  | cons char rest =>
    rw [List.forall_mem_cons] at blank
    rw [wordsOf_append_cons blank.1, wordsOf_blanks blank.2, List.append_nil]

theorem words_trimEnd (text : String) : words (trimEnd text) = words text := by
  obtain ⟨behind, split, blank⟩ := (trims_iff.2 (rfl : trimEnd text = trimEnd text)).blanks
  unfold words
  rw [split, wordsOf_append_blanks _ blank]

end Text

/-- A line of three words for numbers, of which the first two have 64 bits to fit into and the third has 32. -/
def SpellsNumbers (line : String) (proposals maxLength values : Nat) : Prop :=
  ∃ first second third, Text.Row [first, second, third] line.toList ∧
    Spells first proposals ∧ Spells second maxLength ∧ Spells third values ∧
    proposals ≤ 18446744073709551615 ∧ maxLength ≤ 18446744073709551615 ∧ values ≤ 4294967295

namespace Header

variable {path : Path} {line : String} {header : Header} {error : InputError}

theorem parse_eq_ok_iff_numbers :
    parse path line = .ok header ↔ ∃ proposals maxLength values,
      SpellsNumbers line proposals maxLength values ∧
        header = ⟨.ofNat proposals, .ofNat maxLength, .ofNat values⟩ := by
  rw [parse_eq_ok_iff]
  simp only [← Text.row_iff]
  apply Iff.intro
  · intro spelled
    obtain ⟨first, second, third, row, atFirst, atSecond, atThird⟩ := spelled
    have firstFits := header.proposals.toNat_lt
    have secondFits := header.maxLength.toNat_lt
    have thirdFits := header.values.toNat_lt
    refine ⟨_, _, _, ⟨first, second, third, row, atFirst, atSecond, atThird, ?_, ?_, ?_⟩, ?_⟩
    · omega
    · omega
    · omega
    · rw [UInt64.ofNat_toNat, UInt64.ofNat_toNat, UInt32.ofNat_toNat]
  · intro spelled
    obtain ⟨proposals, maxLength, values, numbers, rfl⟩ := spelled
    obtain ⟨first, second, third, row, atFirst, atSecond, atThird, firstFits, secondFits, thirdFits⟩ := numbers
    refine ⟨first, second, third, row, ?_, ?_, ?_⟩
    · rwa [UInt64.toNat_ofNat_of_lt' (Nat.lt_succ_of_le firstFits)]
    · rwa [UInt64.toNat_ofNat_of_lt' (Nat.lt_succ_of_le secondFits)]
    · rwa [UInt32.toNat_ofNat_of_lt' (Nat.lt_succ_of_le thirdFits)]

theorem exists_parse_eq_ok_iff :
    (∃ header, parse path line = .ok header) ↔
      ∃ proposals maxLength values, SpellsNumbers line proposals maxLength values := by
  simp only [parse_eq_ok_iff_numbers]
  apply Iff.intro
  · intro read
    obtain ⟨-, proposals, maxLength, values, numbers, -⟩ := read
    exact ⟨proposals, maxLength, values, numbers⟩
  · intro spelled
    obtain ⟨proposals, maxLength, values, numbers⟩ := spelled
    exact ⟨_, proposals, maxLength, values, numbers, rfl⟩

theorem parse_eq_error_iff :
    parse path line = .error error ↔
      (¬∃ header, parse path line = .ok header) ∧ error = .malformedHeader path (Text.trimEnd line) := by
  unfold parse
  split
  next header read => simp
  next read => simp [eq_comm]

theorem parse_trimEnd (path : Path) (line : String) : parse path (Text.trimEnd line) = parse path line := by
  unfold parse
  rw [Text.words_trimEnd, Text.trimEnd_trimEnd]

theorem parse_render (path : Path) (header : Header) : parse path header.render = .ok header := by
  rw [parse_eq_ok_iff]
  exact ⟨_, _, _, Text.words_spaced [header.proposals.toNat, header.maxLength.toNat, header.values.toNat],
    spells_repr _, spells_repr _, spells_repr _⟩

theorem parse_append_lineFeed (path : Path) (line : String) {header : Header}
    (read : parse path line = .ok header) : parse path (line ++ "\n") = .ok header := by
  rw [parse_eq_ok_iff] at read ⊢
  rwa [Text.words_append_blank rfl (by decide)]

end Header

theorem head?_linesOfText_configText (header : Header) (proposals : List (List Value)) :
    (Text.linesOfText (configText header proposals)).head? = some header.render := by
  unfold Text.linesOfText
  rw [lines_configText, List.filterMap_cons, Text.decode?_encode]
  rfl

/-- A header is read exactly from the lines that spell its three numbers. All other lines are malformed: they are shown
without the blanks behind them, and what is shown reads like the whole line. A written header stands in the first line
of its file and is read back from there, with the end of the line or without. -/
theorem header_lines_exact (path : Path) (line : String) :
    (∀ header, Header.parse path line = .ok header ↔
      ∃ proposals maxLength values, SpellsNumbers line proposals maxLength values ∧
        header = ⟨.ofNat proposals, .ofNat maxLength, .ofNat values⟩) ∧
    (∃ shown, Text.Trims line shown ∧ Header.parse path shown = Header.parse path line ∧
      ∀ error, Header.parse path line = .error error ↔
        (¬∃ proposals maxLength values, SpellsNumbers line proposals maxLength values) ∧
          error = .malformedHeader path shown) ∧
    ∀ (header : Header) (proposals : List (List Value)),
      (Text.linesOfText (configText header proposals)).head? = some header.render ∧
        Header.parse path header.render = .ok header ∧ Header.parse path (header.render ++ "\n") = .ok header := by
  refine ⟨fun header => Header.parse_eq_ok_iff_numbers, ⟨Text.trimEnd line, ?_, ?_, ?_⟩, ?_⟩
  · exact Text.trims_iff.2 rfl
  · exact Header.parse_trimEnd path line
  · intro error
    rw [Header.parse_eq_error_iff, Header.exists_parse_eq_ok_iff]
  · intro header proposals
    have read := Header.parse_render path header
    exact ⟨head?_linesOfText_configText header proposals, read, Header.parse_append_lineFeed path _ read⟩

example :
    Header.parse "c" "\t+007\u00a018446744073709551615 4294967295\r" =
        .ok ⟨7, 18446744073709551615, 4294967295⟩ ∧
      Header.parse "c" " 1 18446744073709551616 1\u3000\t" =
        .error (.malformedHeader "c" " 1 18446744073709551616 1") := by
  exact ⟨rfl, rfl⟩

end AgreementAudit

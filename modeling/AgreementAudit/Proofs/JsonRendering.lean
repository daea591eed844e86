import AgreementAudit.Proofs.JsonGrammar

/-! What is rendered of a document is a text of it: each character is written in one of the ways that the grammar knows, and
the line breaks and indentations stand where white space may. -/
namespace AgreementAudit.Json

theorem head?_toDigits_ne_zero (number : Nat) (positive : 0 < number) :
    (Nat.toDigits 10 number).head? ≠ some '0' := by
  by_cases small : number < 10
  · have leads : ∀ digit < 10, 0 < digit → [Nat.digitChar digit].head? ≠ some '0' := by decide
    rw [Nat.toDigits_of_lt_base small]
    exact leads number small positive
  · rw [Nat.toDigits_of_base_le (by decide) (Nat.not_lt.1 small), List.head?_append_of_ne_nil _ Nat.toDigits_ne_nil]
    exact head?_toDigits_ne_zero (number / 10) (by omega)
termination_by number
decreasing_by omega

theorem numberSpelling_toDigits (number : Nat) : NumberSpelling number (Nat.toDigits 10 number) := by
  refine ⟨Nat.toDigits_ne_nil, ?_, ?_, Nat.ofDigitChars_ten_toDigits⟩
  · intro char member
    exact Nat.isDigit_of_mem_toDigits (by decide) (by decide) member
  · intro zero
    have nothing : number = 0 := by
      by_contra positive
      exact head?_toDigits_ne_zero number (Nat.pos_of_ne_zero positive) zero
    rw [nothing]
    rfl

theorem code?_control : ∀ code < 0x20,
    code? '0' '0' (Nat.digitChar (code / 16)) (Nat.digitChar (code % 16)) = some code := by
  decide

theorem charSpelling_escape (char : Char) : CharSpelling char (escape char) := by
  unfold escape
  split
  next steering =>
    -- A quote and a backslash are their own letters.
    rcases steering with rfl | rfl
    · exact .escaped (.short rfl)
    · exact .escaped (.short rfl)
  next ordinary =>
    rw [not_or] at ordinary
    split
    next same => exact .escaped (.short (congrArg some same.symm))
    split
    next same => exact .escaped (.short (congrArg some same.symm))
    split
    next same => exact .escaped (.short (congrArg some same.symm))
    split
    next same => exact .escaped (.short (congrArg some same.symm))
    split
    next same => exact .escaped (.short (congrArg some same.symm))
    split
    next control => exact .escaped (.code (code?_control _ control))
    next printable => exact .plain (Nat.not_lt.1 printable) ordinary.1 ordinary.2

theorem textSpelling_quoted (text : String) : TextSpelling text (quoted text) := by
  have spelled (chars : List Char) : CharsSpelling chars (chars.flatMap escape) := by
    induction chars with
    | nil => exact .nil
    | cons char rest ih =>
      rw [List.flatMap_cons]
      exact .cons (charSpelling_escape char) ih
  exact .quoted (spelled text.toList)

theorem space_newLine (depth : Nat) : Space (newLine depth) := by
  intro char member
  rcases List.mem_cons.1 member with rfl | blank
  · rfl
  · rw [List.eq_of_mem_replicate blank]
    rfl

theorem space_nil : Space [] := List.forall_mem_nil _

theorem space_blank : Space [' '] := List.forall_mem_singleton.2 rfl

theorem space_lineEnd : Space ['\n'] := List.forall_mem_singleton.2 rfl

theorem itemChars_eq (depth : Nat) (items : List Json) : itemChars depth items = items.map (chars depth) := by
  induction items with
  | nil => rfl
  | cons item rest ih => rw [itemChars, ih, List.map_cons]

def fieldLine (depth : Nat) (field : String × Json) : List Char :=
  quoted field.1 ++ ':' :: ' ' :: chars depth field.2

theorem fieldChars_eq (depth : Nat) (fields : List (String × Json)) :
    fieldChars depth fields = fields.map (fieldLine depth) := by
  induction fields with
  | nil => rfl
  | cons field rest ih =>
    obtain ⟨name, value⟩ := field
    rw [fieldChars, ih, List.map_cons]
    rfl

variable {Entry : Type} {spelling : Entry → List Char → Prop} {line : Entry → List Char}

theorem separated_lines (inner outer : Nat) (entry : Entry) (rest : List Entry)
    (spelled : ∀ other ∈ entry :: rest, spelling other (line other)) :
    Separated spelling (entry :: rest)
      (List.intercalate [','] (((entry :: rest).map line).map (newLine inner ++ ·)) ++ newLine outer) := by
  induction rest generalizing entry with
  | nil =>
    have own := spelled entry List.mem_cons_self
    have last := Separated.last (space_newLine inner) own (space_newLine outer)
    simpa using last
  | cons second rest ih =>
    have own := spelled entry List.mem_cons_self
    have later := ih second (fun other member => spelled other (List.mem_cons_of_mem entry member))
    have whole := Separated.next (space_newLine inner) own space_nil later
    simpa using whole

theorem exists_enclose (depth : Nat) (left right : Char) (entries : List Entry)
    (spelled : ∀ entry ∈ entries, spelling entry (line entry)) :
    ∃ inner, enclose depth left right (entries.map line) = left :: (inner ++ [right]) ∧
      Entries spelling entries inner := by
  cases entries with
  | nil => exact ⟨[], rfl, .nothing space_nil⟩
  | cons entry rest =>
    have separated := separated_lines (depth + 1) depth entry rest spelled
    refine ⟨_, ?_, .listed separated⟩
    rw [enclose, if_neg (by simp), List.append_assoc, List.cons_append, List.append_assoc]

theorem spelling_chars (document : Json) (depth : Nat) : Spelling document (document.chars depth) := by
  induction document using induct generalizing depth with
  | null => exact .null
  | bool value => exact .bool
  | number value => exact .number (numberSpelling_toDigits value)
  | text value => exact .text (textSpelling_quoted value)
  | array items ih =>
    obtain ⟨inner, enclosed, entries⟩ :=
      exists_enclose depth '[' ']' items fun item member => ih item member (depth + 1)
    rw [chars, itemChars_eq, enclosed]
    exact .array entries
  | object fields ih =>
    have spelled : ∀ field ∈ fields, Field Spelling field (fieldLine (depth + 1) field) := by
      intro field member
      exact .named (textSpelling_quoted field.1) space_nil space_blank (ih field member (depth + 1))
    obtain ⟨inner, enclosed, entries⟩ := exists_enclose depth '\x7b' '\x7d' fields spelled
    rw [chars, fieldChars_eq, enclosed]
    exact .object entries

/-- A line that holds what is rendered of a document is a text of it and of no other. -/
theorem isText_endLines_iff {document other : Json} :
    IsText other (Text.endLines [document.render]) ↔ other = document := by
  have line : Text.endLines [document.render] = document.render ++ "\n" := by simp [Text.endLines]
  have padded := Padded.intro space_nil (spelling_chars document 0) space_lineEnd
  have written : IsText document (Text.endLines [document.render]) := by
    rw [line]
    unfold IsText render
    rwa [String.toList_append, String.toList_ofList]
  apply Iff.intro
  · intro isText
    exact isText.unique written
  · rintro rfl
    exact written

end AgreementAudit.Json

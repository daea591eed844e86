import AgreementAudit.Text.Bytes

/-! How a file is cut into lines, said as a grammar of its bytes. Every content is cut in one way, the way in which
its lines are read. -/
namespace AgreementAudit.Text

/-- A line goes up to a line feed, without the one carriage return that may stand in front of that. Behind the last
line feed there is a line only if there is a byte. -/
inductive Cut : Bytes → List Bytes → Prop
  | nothing : Cut [] []
  | unended {line : Bytes} (unbroken : lineFeed ∉ line) (nonempty : line ≠ []) : Cut line [line]
  | feed {line rest : Bytes} {others : List Bytes} (unbroken : lineFeed ∉ line)
      (noReturn : line.getLast? ≠ some carriageReturn) (more : Cut rest others) :
      Cut (line ++ lineFeed :: rest) (line :: others)
  | returnFeed {line rest : Bytes} {others : List Bytes} (unbroken : lineFeed ∉ line) (more : Cut rest others) :
      Cut (line ++ carriageReturn :: lineFeed :: rest) (line :: others)

theorem dropReturn_of_noReturn {line : Bytes} (noReturn : line.getLast? ≠ some carriageReturn) :
    dropReturn line = line := if_neg noReturn

theorem dropReturn_append_return (line : Bytes) : dropReturn (line ++ [carriageReturn]) = line := by
  simp [dropReturn]

theorem lines_append_returnFeed {line : Bytes} (unbroken : lineFeed ∉ line) (rest : Bytes) :
    lines (line ++ carriageReturn :: lineFeed :: rest) = line :: lines rest := by
  have unbrokenToo : lineFeed ∉ line ++ [carriageReturn] := by
    rw [List.mem_append, List.mem_singleton, not_or]
    exact ⟨unbroken, by decide⟩
  rw [List.append_cons line carriageReturn, lines_append_lineFeed unbrokenToo, dropReturn_append_return]

theorem cut_lines (content : Bytes) : Cut content (lines content) := by
  by_cases fed : lineFeed ∈ content
  · obtain ⟨line, rest, rfl, unbroken⟩ := List.eq_append_cons_of_mem fed
    have more : Cut rest (lines rest) := cut_lines rest
    by_cases returned : line.getLast? = some carriageReturn
    · obtain ⟨front, rfl⟩ := List.getLast?_eq_some_iff.1 returned
      have unbrokenFront : lineFeed ∉ front := fun inside => unbroken (List.mem_append_left _ inside)
      rw [← List.append_cons, lines_append_returnFeed unbrokenFront]
      exact .returnFeed unbrokenFront more
    · rw [lines_append_lineFeed unbroken, dropReturn_of_noReturn returned]
      exact .feed unbroken returned more
  · by_cases empty : content = []
    · rw [empty]
      exact .nothing
    · rw [lines_unended fed empty]
      exact .unended fed empty
termination_by content.length
decreasing_by
  simp only [*, List.length_append, List.length_cons]
  omega

theorem cut_iff {content : Bytes} {found : List Bytes} : Cut content found ↔ lines content = found := by
  apply Iff.intro
  · intro cut
    induction cut with
    | nothing => rfl
    | unended unbroken nonempty => exact lines_unended unbroken nonempty
    | feed unbroken noReturn more ih =>
      rw [lines_append_lineFeed unbroken, dropReturn_of_noReturn noReturn, ih]
    | returnFeed unbroken more ih => rw [lines_append_returnFeed unbroken, ih]
  · intro same
    exact same ▸ cut_lines content

theorem lines_eq_nil_iff {content : Bytes} : lines content = [] ↔ content = [] := by
  rw [← cut_iff]
  apply Iff.intro
  · intro cut
    cases cut with
    | nothing => rfl
  · intro empty
    exact empty ▸ .nothing

end AgreementAudit.Text

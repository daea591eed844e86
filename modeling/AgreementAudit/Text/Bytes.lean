/-! Text files as bytes: how their lines are cut and when a line is text. A line ends at a line feed, and
one carriage return in front of it belongs to the ending; a last line may go without. -/
namespace AgreementAudit.Text

abbrev Bytes := List UInt8

def encode (text : String) : Bytes := text.toByteArray.data.toList

def decode? (bytes : Bytes) : Option String := String.fromUTF8? ⟨bytes.toArray⟩

theorem decode?_encode (text : String) : decode? (encode text) = some text := by
  unfold decode? encode String.fromUTF8?
  simp only [Array.toArray_toList]
  rw [dif_pos text.isValidUTF8]
  rfl

def endLines (lines : List String) : String := String.join (lines.map (· ++ "\n"))

def lineFeed : UInt8 := 0x0A

def carriageReturn : UInt8 := 0x0D

def dropReturn (line : Bytes) : Bytes :=
  if line.getLast? = some carriageReturn then line.dropLast else line

/-- The lines of the pieces between line feeds: what follows the last line feed counts only if it holds a byte. -/
def linesOfPieces : List Bytes → List Bytes
  | [] => []
  | [last] => if last = [] then [] else [last]
  | piece :: rest => dropReturn piece :: linesOfPieces rest

def lines (content : Bytes) : List Bytes := linesOfPieces (content.splitOn lineFeed)

def linesOfText (text : String) : List String := (lines (encode text)).filterMap decode?

theorem lines_append_lineFeed {line : Bytes} (unbroken : lineFeed ∉ line) (rest : Bytes) :
    lines (line ++ lineFeed :: rest) = dropReturn line :: lines rest := by
  unfold lines
  rw [List.splitOn_append_cons_self_of_not_mem unbroken]
  cases pieces : rest.splitOn lineFeed with
  | nil => exact absurd pieces (List.splitOn_ne_nil lineFeed rest)
  | cons piece others => rfl

theorem lines_unended {line : Bytes} (unbroken : lineFeed ∉ line) (nonempty : line ≠ []) :
    lines line = [line] := by
  simp [lines, List.splitOn_eq_singleton unbroken, linesOfPieces, nonempty]

end AgreementAudit.Text

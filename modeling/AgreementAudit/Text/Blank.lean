import AgreementAudit.Text.Ranges

/-! White space in the wide sense of the character database, and the words between it. A word is a
maximal run of characters that are not blank, so blanks at either end of a line add no word. -/
namespace AgreementAudit.Text

/-- The code points with the property White_Space, in ascending order. -/
def blankRanges : Ranges :=
  [(0x09, 0x0D), (0x20, 0x20), (0x85, 0x85), (0xA0, 0xA0), (0x1680, 0x1680), (0x2000, 0x200A),
    (0x2028, 0x2029), (0x202F, 0x202F), (0x205F, 0x205F), (0x3000, 0x3000)]

def isBlank (char : Char) : Bool := blankRanges.contains char

def wordsOf (chars : List Char) : List (List Char) :=
  (chars.splitOnP isBlank).filter fun run => !run.isEmpty

def words (text : String) : List String := (wordsOf text.toList).map String.ofList

theorem wordsOf_append_cons {blank : Char} (isSeparator : isBlank blank = true) (left right : List Char) :
    wordsOf (left ++ blank :: right) = wordsOf left ++ wordsOf right := by
  simp [wordsOf, List.splitOnP_append_cons _ _ isSeparator]

theorem wordsOf_nil : wordsOf [] = [] := rfl

theorem wordsOf_solid {run : List Char} (nonempty : run ≠ []) (solid : ∀ char ∈ run, isBlank char = false) :
    wordsOf run = [run] := by
  simp [wordsOf, List.splitOnP_eq_singleton solid, nonempty]

def dropBlanksBehind (chars : List Char) : List Char := (chars.reverse.dropWhile isBlank).reverse

def trimEnd (text : String) : String := String.ofList (dropBlanksBehind text.toList)

def dropBlanksAround (chars : List Char) : List Char := dropBlanksBehind (chars.dropWhile isBlank)

end AgreementAudit.Text

import AgreementAudit.Text.Blank

/-! The smallest pieces of a pattern, and the modes in which they are read. Of characters beyond ASCII no
properties and no cases are known here; what would need them is refused. -/
namespace AgreementAudit.Pattern

/-- Whether blanks and comments are skipped, letters match in either case, and characters of all scripts are
meant rather than bytes. -/
structure Mode where
  spaced : Bool := false
  anyCase : Bool := false
  wide : Bool := true
deriving DecidableEq

/-- Drops blanks and comments. A comment begins with a number sign and lasts to the end of its line. -/
def dropComments (inComment : Bool) : List Char → List Char
  | [] => []
  | char :: rest =>
    if inComment then dropComments (char ≠ '\n') rest
    else if Text.isBlank char then dropComments false rest
    else if char = '#' then dropComments true rest
    else char :: rest

def Mode.skip (mode : Mode) (chars : List Char) : List Char :=
  if mode.spaced then dropComments false chars else chars

inductive Atom
  | literal (char : Char)
  | byte (char : Char)
  | shorthand (negated : Bool)
  | anything
  | edge
  | wordEdge
deriving DecidableEq

namespace Atom

/-- Outside a set, bytes that are no characters cannot be matched, and whole shorthands need bytes. -/
def allowed (mode : Mode) : Atom → Bool
  | .literal _ => !(mode.wide && mode.anyCase)
  | .byte char => if mode.wide then !mode.anyCase else char.toNat < 0x80
  | .shorthand negated => !mode.wide && !negated
  | .anything => mode.wide
  | .edge => true
  | .wordEdge => !mode.wide

/-- A set holds characters and shorthands only, and a set of bytes only those of ASCII. -/
def allowedInSet (mode : Mode) : Atom → Bool
  | .literal char | .byte char => if mode.wide then !mode.anyCase else char.toNat < 0x80
  | .shorthand negated => !mode.wide && !negated
  | .anything | .edge | .wordEdge => false

def char? : Atom → Option Char
  | .literal char | .byte char => some char
  | _ => none

end Atom

def hexDigits : List Char := "0123456789abcdef".toList

def readHex (mode : Mode) : Nat → Nat → List Char → Option (Nat × List Char)
  | 0, value, chars => some (value, chars)
  | count + 1, value, chars =>
    match mode.skip chars with
    | [] => none
    | char :: rest => (hexDigits.idxOf? char.toLower).bind fun digit => readHex mode count (16 * value + digit) rest

def digitsAfter : Char → Option Nat
  | 'x' => some 2
  | 'u' => some 4
  | 'U' => some 8
  | _ => none

def ofLetter? : Char → Option Atom
  | 'd' | 's' | 'w' => some (.shorthand false)
  | 'D' | 'S' | 'W' => some (.shorthand true)
  | 'A' | 'z' => some .edge
  | 'b' | 'B' | '<' | '>' => some .wordEdge
  | 'a' => some (.literal '\x07')
  | 'f' => some (.literal '\x0c')
  | 't' => some (.literal '\t')
  | 'n' => some (.literal '\n')
  | 'r' => some (.literal '\r')
  | 'v' => some (.literal '\x0b')
  | _ => none

def readEscape (mode : Mode) : List Char → Option (Atom × List Char)
  | [] => none
  | char :: rest =>
    match digitsAfter char with
    | some count => do
      let (value, rest) ← readHex mode count 0 rest
      guard value.isValidChar
      let spelled := Char.ofNat value
      return (if count = 2 then .byte spelled else .literal spelled, rest)
    | none =>
      match ofLetter? char with
      | some atom => some (atom, rest)
      | none => if char.toNat < 0x80 ∧ !char.isAlphanum then some (.literal char, rest) else none

end AgreementAudit.Pattern

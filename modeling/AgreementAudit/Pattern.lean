import AgreementAudit.Pattern.CharacterSet
import AgreementAudit.Text.Alphanumeric

/-! Patterns: alternatives of sequences of atoms, sets and groups, any of which may be repeated. Only whether a
text is a pattern is told, not what the pattern matches. -/
namespace AgreementAudit.Pattern

structure Part where
  depth : Nat
  repeatable : Bool := true
deriving DecidableEq

/-- A group that is being read: the mode to go on with behind it, the parts of its last alternative, the last one
first, and how deep the alternatives before that are nested. -/
structure OpenGroup where
  behind : Mode := {}
  parts : List Part := []
  alternatives : List Nat := []

namespace OpenGroup

def add (group : OpenGroup) (part : Part) : OpenGroup := { group with parts := part :: group.parts }

def sequenceDepth (group : OpenGroup) : Nat := depthTogether (group.parts.map Part.depth)

def depth (group : OpenGroup) : Nat := depthTogether (group.sequenceDepth :: group.alternatives)

def alternative (group : OpenGroup) : OpenGroup :=
  { group with parts := [], alternatives := group.sequenceDepth :: group.alternatives }

def repeated? (group : OpenGroup) : Option OpenGroup :=
  match group.parts with
  | [] => none
  | last :: before =>
    if last.repeatable then some { group with parts := ⟨last.depth + 1, true⟩ :: before } else none

end OpenGroup

/-- A pattern that is being read: the current mode, the names of groups, and the groups that are open. -/
structure OpenPattern where
  mode : Mode := {}
  names : List String := []
  group : OpenGroup := {}
  around : List OpenGroup := []

namespace OpenPattern

def add (pattern : OpenPattern) (part : Part) : OpenPattern := { pattern with group := pattern.group.add part }

def opened (pattern : OpenPattern) (mode : Mode) : OpenPattern :=
  { pattern with mode, group := { behind := pattern.mode }, around := pattern.group :: pattern.around }

def closed? (pattern : OpenPattern) : Option OpenPattern :=
  match pattern.around with
  | [] => none
  | parent :: others =>
    some { pattern with
      mode := pattern.group.behind
      group := parent.add ⟨pattern.group.depth + 1, true⟩
      around := others }

end OpenPattern

def isGroupName : List Char → Bool
  | [] => false
  | first :: rest =>
    (first = '_' || Text.isAlphabetic first) &&
      rest.all fun char => ['_', '.', '[', ']'].contains char || Text.isAlphanumeric char

def readNamed (pattern : OpenPattern) (chars : List Char) : Option (OpenPattern × List Char) := do
  let name := chars.takeWhile (· ≠ '>')
  let rest ← (chars.dropWhile (· ≠ '>')).tail?
  guard (isGroupName name ∧ String.ofList name ∉ pattern.names)
  return ({ pattern with names := String.ofList name :: pattern.names }.opened pattern.mode, rest)

/-- Switches are letters, those behind a dash for what is switched off. No sign is written twice, and the dash is
not the last one. -/
def areSwitches (signs : List Char) : Bool :=
  signs.all ("imsUuRx-".toList.contains ·) && signs.eraseDups.length = signs.length &&
    signs.getLast? ≠ some '-'

def Mode.switched (mode : Mode) (signs : List Char) : Mode :=
  let on := signs.takeWhile (· ≠ '-')
  let setting (sign : Char) (current : Bool) : Bool := on.contains sign || current && !signs.contains sign
  { spaced := setting 'x' mode.spaced, anyCase := setting 'i' mode.anyCase, wide := setting 'u' mode.wide }

/-- Switches hold to the end of the group around them, or, in front of a colon, in a group of their own. -/
def readSwitches (pattern : OpenPattern) (chars : List Char) : Option (OpenPattern × List Char) := do
  let isEnd (char : Char) : Bool := char = ':' || char = ')'
  let signs := chars.takeWhile fun char => !isEnd char
  guard (areSwitches signs)
  let mode := pattern.mode.switched signs
  match chars.dropWhile fun char => !isEnd char with
  | ':' :: rest => return (pattern.opened mode, rest)
  | ')' :: rest =>
    guard (signs ≠ [])
    return ({ pattern with mode }.add ⟨0, false⟩, rest)
  | _ => none

def readOpening (pattern : OpenPattern) (chars : List Char) : Option (OpenPattern × List Char) :=
  match pattern.mode.skip chars with
  | '?' :: 'P' :: '<' :: rest => readNamed pattern rest
  | '?' :: '<' :: rest => readNamed pattern rest
  | '?' :: rest => readSwitches pattern rest
  | rest => some (pattern.opened pattern.mode, rest)

def addAtom (pattern : OpenPattern) (atom : Atom) : Option OpenPattern :=
  if atom.allowed pattern.mode then some (pattern.add ⟨0, true⟩) else none

/-- Reads one sign of a pattern and what belongs to it. Counts in braces are not known. -/
def readSign (pattern : OpenPattern) (char : Char) (rest : List Char) : Option (OpenPattern × List Char) :=
  match char with
  | '(' => readOpening pattern rest
  | ')' => pattern.closed?.map (·, rest)
  | '|' => some ({ pattern with group := pattern.group.alternative }, rest)
  | '[' => do
    let (set, rest) ← OpenSet.read pattern.mode rest
    let (depth, rest) ← readSet pattern.mode (rest.length + 1) set [] rest
    return (pattern.add ⟨depth, true⟩, rest)
  | '?' | '*' | '+' =>
    pattern.group.repeated?.map fun group =>
      ({ pattern with group }, if rest.head? = some '?' then rest.tail else rest)
  | '\x7b' => none
  | '\\' => do
    let (atom, rest) ← readEscape pattern.mode rest
    return (← addAtom pattern atom, rest)
  | '.' => (addAtom pattern .anything).map (·, rest)
  | '^' | '$' => (addAtom pattern .edge).map (·, rest)
  | _ => (addAtom pattern (.literal char)).map (·, rest)

/-- Reads a whole pattern and tells how deep it is nested. Each step reads a character at least. -/
def readAll : Nat → OpenPattern → List Char → Option Nat
  | 0, _, _ => none
  | steps + 1, pattern, chars =>
    match pattern.mode.skip chars with
    | [] => if pattern.around.isEmpty then some pattern.group.depth else none
    | char :: rest => do
      let (pattern, rest) ← readSign pattern char rest
      readAll steps pattern rest

def depthLimit : Nat := 250

def isPattern (chars : List Char) : Bool := (readAll (chars.length + 1) {} chars).any (· ≤ depthLimit)

end AgreementAudit.Pattern

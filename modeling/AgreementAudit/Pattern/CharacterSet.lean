import AgreementAudit.Pattern.Atom

/-! Sets of characters between brackets. A set has members, ranges and named sets in it, and sets in brackets of
their own; two signs of one kind between members are an operator. -/
namespace AgreementAudit.Pattern

/-- How deep several parts are nested as one: a single part is not nested any deeper than it is by itself. -/
def depthTogether : List Nat → Nat
  | [] => 0
  | [only] => only
  | several => several.foldl max 0 + 1

/-- A set that is being read: how deep the parts behind the last operator are nested, how deep what stands before
that is, and whether nothing but dashes has been read. -/
structure OpenSet where
  parts : List Nat := []
  before : Option Nat := none
  fresh : Bool := true

namespace OpenSet

def add (set : OpenSet) (depth : Nat) : OpenSet := { set with parts := depth :: set.parts }

def started (set : OpenSet) : OpenSet := { set with fresh := false }

def depth (set : OpenSet) : Nat :=
  match set.before with
  | none => depthTogether set.parts
  | some before => max before (depthTogether set.parts) + 1

def operator (set : OpenSet) : OpenSet := { set with parts := [], before := some set.depth }

/-- A set of bytes cannot be negated, since it would have bytes in it that are no characters. -/
def read (mode : Mode) (chars : List Char) : Option (OpenSet × List Char) :=
  match mode.skip chars with
  | '^' :: rest => if mode.wide then some ({}, rest) else none
  | rest => some ({}, rest)

end OpenSet

def setNames : List String :=
  ["alnum", "alpha", "ascii", "blank", "cntrl", "digit", "graph", "lower", "print", "punct", "space", "upper",
    "word", "xdigit"]

def readSetName : List Char → Option (Bool × List Char)
  | ':' :: rest =>
    let negated := rest.head? = some '^'
    let rest := if negated then rest.tail else rest
    match rest.dropWhile (· ≠ ':') with
    | ':' :: ']' :: behind =>
      if setNames.contains (String.ofList (rest.takeWhile (· ≠ ':'))) then some (negated, behind) else none
    | _ => none
  | _ => none

def namedSetAllowed (mode : Mode) (negated : Bool) : Bool := if mode.wide then !mode.anyCase else !negated

def readMember (mode : Mode) : List Char → Option (Atom × List Char)
  | [] => none
  | '\\' :: rest => readEscape mode rest
  | char :: rest => some (.literal char, rest)

/-- The next character that is read behind a dash. One number sign does not begin a comment there. -/
def behindDash (mode : Mode) (chars : List Char) : Option Char :=
  if mode.spaced then
    let seen := chars.dropWhile Text.isBlank
    let seen := if seen.head? = some '#' then seen.tail.dropWhile Text.isBlank else seen
    seen.head? <|> chars.head?
  else chars.head?

/-- Reads a member of a set or a range. A dash makes no range in front of another one or at the end of the set. -/
def readRange (mode : Mode) (chars : List Char) : Option (List Char) := do
  let (first, rest) ← readMember mode chars
  guard (first.allowedInSet mode)
  match mode.skip rest with
  | [] => none
  | '-' :: behind =>
    if behindDash mode behind = some ']' ∨ behindDash mode behind = some '-' then return '-' :: behind
    let (last, rest) ← readMember mode (mode.skip behind)
    guard (last.allowedInSet mode)
    guard ((← first.char?) ≤ (← last.char?))
    return rest
  | rest => return rest

/-- Reads up to the bracket that closes the outermost set, and tells how deep that is nested. Each step reads a
character at least, so a step for each character is enough. -/
def readSet (mode : Mode) : Nat → OpenSet → List OpenSet → List Char → Option (Nat × List Char)
  | 0, _, _, _ => none
  | steps + 1, set, around, chars =>
    match mode.skip chars with
    | [] => none
    | char :: rest =>
      if set.fresh ∧ (char = '-' ∨ char = ']' ∧ set.parts = []) then
        if (Atom.literal char).allowedInSet mode then
          readSet mode steps { set.add 0 with fresh := char = '-' } around rest
        else none
      else
        let set := set.started
        if char = '[' then
          match readSetName rest with
          | some (negated, rest) =>
            if namedSetAllowed mode negated then readSet mode steps (set.add 0) around rest else none
          | none => do
            let (inner, rest) ← OpenSet.read mode rest
            readSet mode steps inner (set :: around) rest
        else if char = ']' then
          match around with
          | [] => some (set.depth + 1, rest)
          | parent :: others => readSet mode steps (parent.add (set.depth + 1)) others rest
        else if ['&', '-', '~'].contains char ∧ rest.head? = some char then
          readSet mode steps set.operator around rest.tail
        else do readSet mode steps (set.add 0) around (← readRange mode (char :: rest))

end AgreementAudit.Pattern

import AgreementAudit.Pattern
import Mathlib.Data.List.Perm.Basic

/-! Which texts are patterns. Characters, groups, alternatives and repeated parts are read as they are nested, and a text
of these is a pattern as long as it is not nested too deeply. Sets, switches and the names of groups are left aside. -/
namespace AgreementAudit.Pattern

def signs : List Char := ['(', ')', '|', '[', '?', '*', '+', '\x7b', '\\', '.', '^', '$']

/-- How often a part stands: once, or as often as a mark says, which may have a question mark behind it. -/
inductive Times
  | once
  | marked (mark : Char) (isMark : mark = '?' ∨ mark = '*' ∨ mark = '+') (asked : Bool)

def Times.spell : Times → List Char
  | .once => []
  | .marked mark _ asked => mark :: if asked then ['?'] else []

def Times.depth : Times → Nat
  | .once => 0
  | .marked .. => 1

/-- A part of a pattern. A group has a sequence of parts, and others behind bars. -/
inductive Tree
  | plain (char : Char) (isPlain : char ∉ signs) (times : Times)
  | escaped (char : Char) (isMark : char.toNat < 0x80 ∧ char.isAlphanum = false ∧ char ≠ '<' ∧ char ≠ '>')
      (times : Times)
  | group (first : List Tree) (others : List (List Tree)) (times : Times)

namespace Tree

theorem sizeOf_first {tree : Tree} {first : List Tree} (member : tree ∈ first) (others : List (List Tree))
    (times : Times) : sizeOf tree < sizeOf (group first others times) := by
  have inside := List.sizeOf_lt_of_mem member
  rw [group.sizeOf_spec]
  omega

theorem sizeOf_others {tree : Tree} {sequence : List Tree} {others : List (List Tree)} (inSequence : tree ∈ sequence)
    (inOthers : sequence ∈ others) (first : List Tree) (times : Times) :
    sizeOf tree < sizeOf (group first others times) := by
  have inside := List.sizeOf_lt_of_mem inSequence
  have within := List.sizeOf_lt_of_mem inOthers
  rw [group.sizeOf_spec]
  omega

def spell : Tree → List Char
  | .plain char _ times => char :: times.spell
  | .escaped char _ times => '\\' :: char :: times.spell
  | .group first others times =>
    '(' :: (first.flatMap spell ++ others.flatMap fun sequence => '|' :: sequence.flatMap spell) ++ ')' :: times.spell
decreasing_by
  · exact sizeOf_first ‹_› others times
  · exact sizeOf_others ‹_› ‹_› first times

def depth : Tree → Nat
  | .plain _ _ times => times.depth
  | .escaped _ _ times => times.depth
  | .group first others times =>
    depthTogether (depthTogether (first.map depth) :: others.map fun sequence => depthTogether (sequence.map depth)) +
      1 + times.depth
decreasing_by
  · exact sizeOf_first ‹_› others times
  · exact sizeOf_others ‹_› ‹_› first times

theorem induct {motive : Tree → Prop} (plain : ∀ char isPlain times, motive (.plain char isPlain times))
    (escaped : ∀ char isMark times, motive (.escaped char isMark times))
    (group : ∀ first others times, (∀ tree ∈ first, motive tree) →
      (∀ sequence ∈ others, ∀ tree ∈ sequence, motive tree) → motive (.group first others times)) :
    ∀ tree, motive tree
  | .plain char isPlain times => plain char isPlain times
  | .escaped char isMark times => escaped char isMark times
  | .group first others times =>
    group first others times (fun tree _ => induct plain escaped group tree)
      fun _ _ tree _ => induct plain escaped group tree
decreasing_by
  · exact sizeOf_first ‹_› others times
  · exact sizeOf_others ‹_› ‹_› first times

theorem head?_spell (tree : Tree) (rest : List Char) : (tree.spell ++ rest).head? ≠ some '?' := by
  cases tree with
  | plain char isPlain times =>
    rw [spell]
    intro same
    rw [Option.some.inj same] at isPlain
    exact isPlain (by decide)
  | escaped char isMark times =>
    rw [spell]
    exact fun same => absurd (Option.some.inj same) (by decide)
  | group first others times =>
    rw [spell]
    exact fun same => absurd (Option.some.inj same) (by decide)

end Tree

theorem depthTogether_perm {left right : List Nat} (same : left.Perm right) :
    depthTogether left = depthTogether right := by
  match left, right, same, same.length_eq with
  | [], [], _, _ => rfl
  | [first], [second], same, _ => rw [List.singleton_perm_singleton.1 same]
  | first :: second :: others, third :: fourth :: rest, same, _ =>
    exact congrArg Nat.succ (same.foldl_eq 0)

/-- Reading goes over some characters in front of others, in no more steps than they are. -/
def Reads (before : OpenPattern) (chars rest : List Char) (after : OpenPattern) : Prop :=
  ∃ used, used ≤ chars.length ∧ ∀ steps, readAll (used + steps) before (chars ++ rest) = readAll steps after rest

variable {before middle after pattern : OpenPattern} {chars others rest : List Char} {char : Char}

theorem Reads.refl (pattern : OpenPattern) (rest : List Char) : Reads pattern [] rest pattern := by
  refine ⟨0, Nat.le_refl 0, ?_⟩
  intro steps
  rw [Nat.zero_add, List.nil_append]

theorem Reads.trans (first : Reads before chars (others ++ rest) middle) (second : Reads middle others rest after) :
    Reads before (chars ++ others) rest after := by
  obtain ⟨used, few, reads⟩ := first
  obtain ⟨more, fewMore, readsOn⟩ := second
  refine ⟨used + more, ?_, ?_⟩
  · rw [List.length_append]
    exact Nat.add_le_add few fewMore
  · intro steps
    rw [List.append_assoc, Nat.add_assoc, reads, readsOn]

theorem reads_sign (usual : before.mode = {}) (sign : readSign before char (chars ++ rest) = some (after, rest)) :
    Reads before (char :: chars) rest after := by
  refine ⟨1, Nat.le_add_left 1 _, ?_⟩
  intro steps
  rw [Nat.add_comm, readAll, usual]
  simp [Mode.skip, sign]

theorem reads_plain (usual : pattern.mode = {}) (isPlain : char ∉ signs) (rest : List Char) :
    Reads pattern [char] rest (pattern.add ⟨0, true⟩) := by
  apply reads_sign usual
  unfold readSign
  split
  case h_13 => simp [addAtom, Atom.allowed, usual]
  all_goals exact absurd (by decide) isPlain

theorem reads_escaped (usual : pattern.mode = {})
    (isMark : char.toNat < 0x80 ∧ char.isAlphanum = false ∧ char ≠ '<' ∧ char ≠ '>') (rest : List Char) :
    Reads pattern ['\\', char] rest (pattern.add ⟨0, true⟩) := by
  obtain ⟨narrow, mark, notBegin, notEnd⟩ := isMark
  have noDigits : digitsAfter char = none := by
    unfold digitsAfter
    split
    case h_4 => rfl
    all_goals exact absurd mark (by decide)
  have noLetter : ofLetter? char = none := by
    unfold ofLetter?
    split
    case h_11 => exact absurd rfl notBegin
    case h_12 => exact absurd rfl notEnd
    case h_19 => rfl
    all_goals exact absurd mark (by decide)
  apply reads_sign usual
  simp [readSign, readEscape, noDigits, noLetter, narrow, mark, addAtom, Atom.allowed, usual]

theorem readOpening_of_head? (usual : pattern.mode = {}) (noMark : rest.head? ≠ some '?') :
    readOpening pattern rest = some (pattern.opened pattern.mode, rest) := by
  have skipped : pattern.mode.skip rest = rest := by
    rw [usual]
    rfl
  unfold readOpening
  rw [skipped]
  split
  · exact absurd rfl noMark
  · exact absurd rfl noMark
  · exact absurd rfl noMark
  · rfl

theorem reads_times {depth : Nat} (usual : pattern.mode = {}) (times : Times) (apart : rest.head? ≠ some '?') :
    Reads (pattern.add ⟨depth, true⟩) times.spell rest (pattern.add ⟨depth + times.depth, true⟩) := by
  cases times with
  | once => exact .refl _ _
  | marked mark isMark asked =>
    have usualThere : (pattern.add ⟨depth, true⟩).mode = {} := usual
    have again : (pattern.group.add ⟨depth, true⟩).repeated? = some (pattern.group.add ⟨depth + 1, true⟩) := rfl
    have sign (behind : List Char) : readSign (pattern.add ⟨depth, true⟩) mark behind =
        some (pattern.add ⟨depth + 1, true⟩, if behind.head? = some '?' then behind.tail else behind) := by
      rcases isMark with rfl | rfl | rfl
      · simp [readSign, OpenPattern.add, again]
      · simp [readSign, OpenPattern.add, again]
      · simp [readSign, OpenPattern.add, again]
    apply reads_sign usualThere
    rw [sign]
    cases asked with
    | false => simp [apart, Times.depth]
    | true => simp [Times.depth]

/-- A part is read as one that is nested as deep as it is. -/
def Tree.IsRead (tree : Tree) : Prop :=
  ∀ pattern rest, pattern.mode = {} → rest.head? ≠ some '?' →
    Reads pattern tree.spell rest (pattern.add ⟨tree.depth, true⟩)

theorem head?_sequence (sequence : List Tree) (apart : rest.head? ≠ some '?') :
    (sequence.flatMap Tree.spell ++ rest).head? ≠ some '?' := by
  cases sequence with
  | nil => exact apart
  | cons tree others =>
    rw [List.flatMap_cons, List.append_assoc]
    exact tree.head?_spell _

theorem reads_sequence {sequence : List Tree} (each : ∀ tree ∈ sequence, tree.IsRead) (usual : pattern.mode = {})
    (apart : rest.head? ≠ some '?') :
    ∃ parts, Reads pattern (sequence.flatMap Tree.spell) rest
        { pattern with group := { pattern.group with parts := parts ++ pattern.group.parts } } ∧
      parts.map Part.depth = (sequence.map Tree.depth).reverse := by
  induction sequence generalizing pattern with
  | nil => exact ⟨[], .refl pattern rest, rfl⟩
  | cons tree others ih =>
    obtain ⟨parts, reads, depths⟩ := ih (fun other member => each other (List.mem_cons_of_mem _ member))
      (show (pattern.add ⟨tree.depth, true⟩).mode = {} from usual)
    have first := each tree List.mem_cons_self pattern _ usual (head?_sequence others apart)
    refine ⟨parts ++ [⟨tree.depth, true⟩], ?_, ?_⟩
    · rw [List.flatMap_cons, List.append_assoc]
      exact first.trans reads
    · rw [List.map_append, depths, List.map_cons, List.map_cons, List.reverse_cons]
      rfl

/-- The depths of the alternatives of a group so far, the last one first. -/
def OpenGroup.depths (group : OpenGroup) : List Nat := group.sequenceDepth :: group.alternatives

theorem head?_alternatives (sequences : List (List Tree)) (apart : rest.head? ≠ some '?') :
    ((sequences.flatMap fun sequence => '|' :: sequence.flatMap Tree.spell) ++ rest).head? ≠ some '?' := by
  cases sequences with
  | nil => exact apart
  | cons sequence others => exact fun same => absurd (Option.some.inj same) (by decide)

theorem reads_alternatives {sequences : List (List Tree)}
    (each : ∀ sequence ∈ sequences, ∀ tree ∈ sequence, tree.IsRead) (usual : pattern.mode = {})
    (apart : rest.head? ≠ some '?') :
    ∃ group : OpenGroup, Reads pattern (sequences.flatMap fun sequence => '|' :: sequence.flatMap Tree.spell) rest
        { pattern with group } ∧
      group.behind = pattern.group.behind ∧
      group.depths = (sequences.map fun sequence => depthTogether (sequence.map Tree.depth)).reverse ++
        pattern.group.depths := by
  induction sequences generalizing pattern with
  | nil => exact ⟨pattern.group, .refl pattern rest, rfl, rfl⟩
  | cons sequence others ih =>
    let barred : OpenPattern := { pattern with group := pattern.group.alternative }
    have bar (behind : List Char) : Reads pattern ['|'] behind barred := reads_sign usual rfl
    obtain ⟨parts, readsParts, depths⟩ := reads_sequence (each sequence List.mem_cons_self)
      (show barred.mode = {} from usual) (head?_alternatives others apart)
    let filled : OpenPattern := { barred with group := { barred.group with parts := parts ++ barred.group.parts } }
    obtain ⟨group, reads, behind, alternatives⟩ := ih (fun other member => each other (List.mem_cons_of_mem _ member))
      (show filled.mode = {} from usual)
    have last : filled.group.depths = depthTogether (sequence.map Tree.depth) :: pattern.group.depths := by
      change depthTogether ((parts ++ []).map Part.depth) :: pattern.group.depths = _
      rw [List.append_nil, depths, depthTogether_perm (List.reverse_perm _)]
    refine ⟨group, ?_, behind, ?_⟩
    · rw [List.flatMap_cons]
      exact (bar _).trans (readsParts.trans reads)
    · rw [alternatives, last, List.map_cons, List.reverse_cons, List.append_assoc]
      rfl

/-- The alternatives of a group or of a whole pattern: one sequence of parts, and others behind bars. -/
def spellBody (first : List Tree) (others : List (List Tree)) : List Char :=
  first.flatMap Tree.spell ++ others.flatMap fun sequence => '|' :: sequence.flatMap Tree.spell

def bodyDepth (first : List Tree) (others : List (List Tree)) : Nat :=
  depthTogether (depthTogether (first.map Tree.depth) ::
    others.map fun sequence => depthTogether (sequence.map Tree.depth))

theorem reads_body {first : List Tree} {others : List (List Tree)} (firstRead : ∀ tree ∈ first, tree.IsRead)
    (othersRead : ∀ sequence ∈ others, ∀ tree ∈ sequence, tree.IsRead) (usual : pattern.mode = {})
    (fresh : pattern.group.parts = [] ∧ pattern.group.alternatives = []) (apart : rest.head? ≠ some '?') :
    ∃ group : OpenGroup, Reads pattern (spellBody first others) rest { pattern with group } ∧
      group.behind = pattern.group.behind ∧ group.depth = bodyDepth first others := by
  obtain ⟨parts, readsFirst, depths⟩ := reads_sequence firstRead usual (head?_alternatives others apart)
  let filled : OpenPattern := { pattern with group := { pattern.group with parts := parts ++ pattern.group.parts } }
  obtain ⟨group, reads, behind, alternatives⟩ := reads_alternatives othersRead (show filled.mode = {} from usual) apart
  have start : filled.group.depths = [depthTogether (first.map Tree.depth)] := by
    change depthTogether ((parts ++ pattern.group.parts).map Part.depth) :: pattern.group.alternatives = _
    rw [fresh.1, fresh.2, List.append_nil, depths, depthTogether_perm (List.reverse_perm _)]
  refine ⟨group, readsFirst.trans reads, behind, ?_⟩
  rw [start] at alternatives
  change depthTogether group.depths = _
  rw [alternatives, bodyDepth]
  apply depthTogether_perm
  exact (List.perm_append_singleton _ _).trans (.cons _ (List.reverse_perm _))

theorem Tree.isRead (tree : Tree) : tree.IsRead := by
  induction tree using Tree.induct with
  | plain char isPlain times =>
    intro pattern rest usual apart
    rw [spell, depth]
    have reads := (reads_plain usual isPlain (times.spell ++ rest)).trans (reads_times usual times apart)
    rwa [Nat.zero_add] at reads
  | escaped char isMark times =>
    intro pattern rest usual apart
    rw [spell, depth]
    have reads := (reads_escaped usual isMark (times.spell ++ rest)).trans (reads_times usual times apart)
    rwa [Nat.zero_add] at reads
  | group first others times ihFirst ihOthers =>
    intro pattern rest usual apart
    have opens {behind : List Char} (noMark : behind.head? ≠ some '?') :
        Reads pattern ['('] behind (pattern.opened pattern.mode) := by
      exact reads_sign usual (readOpening_of_head? usual noMark)
    have closing : (')' :: (times.spell ++ rest)).head? ≠ some '?' := by
      intro same
      exact absurd (Option.some.inj same) (by decide)
    obtain ⟨group, body, behind, deep⟩ := reads_body ihFirst ihOthers
      (show (pattern.opened pattern.mode).mode = {} from usual) ⟨rfl, rfl⟩ closing
    have start : ((spellBody first others ++ ([')'] ++ times.spell)) ++ rest).head? ≠ some '?' := by
      rw [List.append_assoc, spellBody, List.append_assoc]
      exact head?_sequence first (head?_alternatives others closing)
    let filled : OpenPattern := { pattern.opened pattern.mode with group }
    have closes : Reads filled [')'] (times.spell ++ rest) (pattern.add ⟨group.depth + 1, true⟩) := by
      apply reads_sign (show filled.mode = {} from usual)
      simp [filled, readSign, OpenPattern.closed?, OpenPattern.opened, OpenPattern.add, behind]
    have ends : Reads (pattern.opened pattern.mode) (spellBody first others ++ ([')'] ++ times.spell)) rest _ :=
      body.trans (closes.trans (reads_times usual times apart))
    rw [deep] at ends
    rw [spell, depth]
    exact (opens start).trans ends

/-- A text of parts is a pattern unless these are nested too deeply. -/
theorem isPattern_spellBody (first : List Tree) (others : List (List Tree)) :
    isPattern (spellBody first others) = decide (bodyDepth first others ≤ depthLimit) := by
  obtain ⟨group, ⟨used, few, reads⟩, -, deep⟩ := reads_body (fun tree _ => tree.isRead)
    (fun _ _ tree _ => tree.isRead) (show OpenPattern.mode {} = {} from rfl) ⟨rfl, rfl⟩
    (show ([] : List Char).head? ≠ some '?' by decide)
  have read : readAll ((spellBody first others).length + 1) {} (spellBody first others) =
      some (bodyDepth first others) := by
    obtain ⟨left, enough⟩ := Nat.exists_eq_add_of_le few
    have whole := reads (left + 1)
    rw [List.append_nil] at whole
    rw [enough, Nat.add_assoc, whole, ← deep]
    rfl
  rw [isPattern, read]
  rfl

example : isPattern (List.replicate depthLimit '(' ++ List.replicate depthLimit ')') = true ∧
    isPattern (List.replicate (depthLimit + 1) '(' ++ List.replicate (depthLimit + 1) ')') = false := by
  decide +kernel

end AgreementAudit.Pattern

import AgreementAudit.EventFilter.Setting
import AgreementAudit.Proofs.Spelling

/-! How the entries of a setting of the log are read. Rules have spellings, for parts of the program and for what is
asked in brackets, and an entry is read back as the rule that it spells. An entry makes no sense if its level is none,
or if the value that it asks for is neither a number nor a pattern. -/
namespace AgreementAudit

namespace Verbosity

def name : Verbosity → String
  | none => "off"
  | some .error => "error"
  | some .warn => "warn"
  | some .info => "info"
  | some .debug => "debug"

theorem ofName?_name (verbosity : Verbosity) : ofName? verbosity.name = some verbosity := by
  cases verbosity with
  | none => decide +kernel
  | some level =>
    cases level with
    | _ => decide +kernel

end Verbosity

namespace EventFilter

/-- A piece of an entry: neither blanks nor commas are in it, and none of some marks. -/
def Without (marks : List Char) (text : String) : Prop :=
  ∀ char ∈ text.toList, Text.isBlank char = false ∧ char ≠ ',' ∧ char ∉ marks

instance (marks : List Char) (text : String) : Decidable (Without marks text) :=
  List.decidableBAll _ text.toList

theorem without_append {marks : List Char} {front back : String} :
    Without marks (front ++ back) ↔ Without marks front ∧ Without marks back := by
  unfold Without
  rw [String.toList_append, List.forall_mem_append]

theorem Without.noComma {marks : List Char} {text : String} (without : Without marks text) : ',' ∉ text.toList :=
  fun member => (without ',' member).2.1 rfl

theorem Without.mono {marks : List Char} {text : String} (without : Without marks text) : Without [] text :=
  fun char member => ⟨(without char member).1, (without char member).2.1, List.not_mem_nil⟩

/-- A name that can be the beginning of an entry, or all of it. -/
structure IsEntryName (name : String) : Prop where
  begins : ∃ first rest, name.toList = first :: rest ∧ beginsName first = true
  inner : Without ['=', '['] name

theorem isEntryName_name (verbosity : Verbosity) : IsEntryName verbosity.name := by
  refine ⟨?_, ?_⟩
  · cases verbosity with
    | none => exact ⟨'o', "ff".toList, by decide⟩
    | some level =>
      cases level with
      | error => exact ⟨'e', "rror".toList, by decide⟩
      | warn => exact ⟨'w', "arn".toList, by decide⟩
      | info => exact ⟨'i', "nfo".toList, by decide⟩
      | debug => exact ⟨'d', "ebug".toList, by decide⟩
  · cases verbosity with
    | none => decide +kernel
    | some level =>
      cases level with
      | _ => decide +kernel

/-- What stands behind the equals sign of an entry. -/
inductive SpellsLevel : Verbosity → String → Prop
  | everything : SpellsLevel .everything ""
  | named (verbosity : Verbosity) : SpellsLevel verbosity verbosity.name

/-- The end of an entry behind a bracket. -/
inductive SpellsEnd : Verbosity → String → Prop
  | missing : SpellsEnd .everything ""
  | level {verbosity : Verbosity} {text : String} (spelled : SpellsLevel verbosity text) :
      SpellsEnd verbosity ("=" ++ text)

def spanOf (name : String) : Option String := if name = "" then none else some name

def IsSpan (span : String) : Prop := Without [']', '\x7b'] span

def IsFieldPiece (piece : String) : Prop := Without ['=', '\x7d'] piece

/-- What is asked for in brackets, by span, field and value. -/
inductive SpellsAsked : Option String → Option String → Option String → String → Prop
  | span {span : String} (isSpan : IsSpan span) : SpellsAsked (some span) none none span
  | field {span field : String} (isSpan : IsSpan span) (isField : IsFieldPiece field) (named : field ≠ "") :
      SpellsAsked (spanOf span) (some field) none (span ++ "\x7b" ++ field ++ "\x7d")
  | value {span field value : String} (isSpan : IsSpan span) (isField : IsFieldPiece field)
      (isValue : IsFieldPiece value)
      (accepted : (Text.isDecimal value.toList || Pattern.isPattern value.toList) = true) :
      SpellsAsked (spanOf span) (some field) (some value) (span ++ "\x7b" ++ (field ++ "=" ++ value) ++ "\x7d")

/-- What stands in front of a bracket: nothing, or the name of a part. -/
inductive SpellsFront : Option String → String → Prop
  | missing : SpellsFront none ""
  | part {name : String} (isName : IsEntryName name) : SpellsFront (some name) name

/-- How rules are spelled. -/
inductive SpellsRule : FilterRule → String → Prop
  | everywhere (verbosity : Verbosity) : SpellsRule { verbosity } verbosity.name
  | wholePart {name : String} (isName : IsEntryName name) (other : Verbosity.ofName? name = none) :
      SpellsRule { part := some name, verbosity := .everything } name
  | part {name text : String} {verbosity : Verbosity} (isName : IsEntryName name)
      (spelled : SpellsLevel verbosity text) : SpellsRule { part := some name, verbosity } (name ++ ("=" ++ text))
  | asked {part span field value : Option String} {front asked behind : String} {verbosity : Verbosity}
      (begins : SpellsFront part front) (asks : SpellsAsked span field value asked)
      (ends : SpellsEnd verbosity behind) :
      SpellsRule { part, span, field, value, verbosity } (front ++ ("[" ++ (asked ++ "]" ++ behind)))

/-- Entries that make no sense: for a level that there is not, and for a value that is neither a number nor a
pattern. -/
inductive Senseless : String → Prop
  | level {name text : String} (isName : IsEntryName name) (solid : Without [] text) (named : text ≠ "")
      (other : Verbosity.ofName? text = none) : Senseless (name ++ ("=" ++ text))
  | value {part : Option String} {front span field value behind : String} (begins : SpellsFront part front)
      (isSpan : IsSpan span) (isField : IsFieldPiece field) (isValue : IsFieldPiece value) (solid : Without [] behind)
      (refused : (Text.isDecimal value.toList || Pattern.isPattern value.toList) = false) :
      Senseless (front ++ ("[" ++ (span ++ "\x7b" ++ (field ++ "=" ++ value) ++ "\x7d" ++ behind)))

namespace Reading

def width (chars : List Char) : Nat := (String.ofList chars).utf8ByteSize

theorem width_append (front back : List Char) : width (front ++ back) = width front + width back := by
  simp [width, String.ofList_append, String.utf8ByteSize_append]

theorem width_singleton (char : Char) : width [char] = char.utf8Size := by
  simp [width]

theorem split_append (front back : List Char) : split (front ++ back) (width front) = .ok (front, back) := by
  induction front with
  | nil => simp [width, split]
  | cons char rest ih =>
    obtain ⟨before, positive⟩ : ∃ before, char.utf8Size + width rest = before + 1 :=
      Nat.exists_eq_succ_of_ne_zero (Nat.ne_of_gt (Nat.add_pos_left char.utf8Size_pos _))
    have whole : ¬before + 1 < char.utf8Size := by omega
    have left : before + 1 - char.utf8Size = width rest := by omega
    rw [← List.singleton_append, width_append, width_singleton, positive, List.singleton_append, List.cons_append,
      split, if_neg whole, left, ih]
    · rfl
    · exact Nat.succ_ne_zero before

/-- An entry that has been read up to some place. -/
def behind (before rest : List Char) : Reading := ⟨before ++ rest, width before, rest⟩

theorem cut_behind (before piece rest : List Char) :
    (behind before (piece ++ rest)).cut (width (before ++ piece)) = .ok (String.ofList piece) := by
  unfold cut behind
  rw [← List.append_assoc, split_append]
  change (split (before ++ piece) (width before) >>= _) = _
  rw [split_append]
  rfl

theorem upTo_behind {marks : List Char} {mark : Char} (isMark : mark ∈ marks) {piece : List Char}
    (unmarked : ∀ char ∈ piece, char ∉ marks) (before rest : List Char) :
    (behind before (piece ++ mark :: rest)).upTo marks =
      .ok (String.ofList piece, mark, behind (before ++ piece ++ [mark]) rest) := by
  have inside : ∀ char ∈ piece, (!marks.contains char) = true := by
    intro char member
    simpa using unmarked char member
  have run : (piece ++ mark :: rest).takeWhile (fun char => !marks.contains char) = piece := by
    rw [List.takeWhile_append_of_pos inside, List.takeWhile_cons_of_neg (by simpa using isMark), List.append_nil]
  have left : (piece ++ mark :: rest).dropWhile (fun char => !marks.contains char) = mark :: rest := by
    rw [List.dropWhile_append_of_pos inside, List.dropWhile_cons_of_neg (by simpa using isMark)]
  have cutOut := cut_behind before piece (mark :: rest)
  rw [width_append] at cutOut
  unfold upTo
  simp only [behind, run, left] at cutOut ⊢
  change (cut _ (width before + width piece) >>= _) = _
  rw [cutOut]
  simp [bind, Except.bind, pure, Except.pure, width, Nat.add_assoc]

theorem pass_behind (before : List Char) (mark : Char) (rest : List Char) :
    (behind before (mark :: rest)).pass mark = .ok (behind (before ++ [mark]) rest) := by
  simp [pass, behind, width_append, width_singleton]

theorem verbosity_behind (before : List Char) (text : String) :
    (behind before text.toList).verbosity =
      if text = "" then .ok .everything
      else match Verbosity.ofName? text with
        | some verbosity => .ok verbosity
        | none => .error .malformed := by
  have piece := cut_behind before text.toList []
  rw [List.append_nil, String.ofList_toList] at piece
  unfold Reading.verbosity
  change (cut _ (width (before ++ text.toList)) >>= _) = _
  rw [piece]
  rfl

theorem verbosity_of_spells {verbosity : Verbosity} {text : String} (spelled : SpellsLevel verbosity text)
    (before : List Char) : (behind before text.toList).verbosity = .ok verbosity := by
  rw [verbosity_behind]
  cases spelled with
  | everything => rfl
  | named verbosity =>
    have nonempty : verbosity.name ≠ "" := by
      obtain ⟨⟨first, others, chars, -⟩, -⟩ := isEntryName_name verbosity
      intro empty
      rw [empty] at chars
      cases chars
    rw [if_neg nonempty, Verbosity.ofName?_name]

theorem closing_behind {verbosity : Verbosity} {text : String} (ends : SpellsEnd verbosity text)
    (before : List Char) : (behind before text.toList).closing = .ok verbosity := by
  cases ends with
  | missing => rfl
  | @level _ text spelled =>
    have chars : ("=" ++ text).toList = '=' :: text.toList := by simp
    rw [chars]
    change (pass _ '=' >>= _) = _
    rw [pass_behind]
    exact verbosity_of_spells spelled _

theorem field_of_name {name : String} (isField : IsFieldPiece name) (named : name ≠ "") :
    field name = .ok (name, none) := by
  have noSign : '=' ∉ name.toList := fun member => (isField '=' member).2.2 (by decide)
  have split : name.toList.splitOn '=' = [name.toList] := by
    have pieces := List.splitOn_intercalate '=' (List.forall_mem_singleton.2 noSign) (List.cons_ne_nil name.toList [])
    rwa [List.intercalate_singleton] at pieces
  unfold field
  rw [split]
  cases chars : name.toList with
  | nil => exact absurd (String.toList_inj.1 (chars.trans String.toList_empty.symm)) named
  | cons first rest =>
    dsimp only
    rw [← chars, String.ofList_toList]

theorem field_of_value {name value : String} (isField : IsFieldPiece name) (isValue : IsFieldPiece value) :
    field (name ++ "=" ++ value) =
      if Text.isDecimal value.toList || Pattern.isPattern value.toList then .ok (name, some value)
      else .error .malformed := by
  have noSign : '=' ∉ name.toList := fun member => (isField '=' member).2.2 (by decide)
  have noSignBehind : '=' ∉ value.toList := fun member => (isValue '=' member).2.2 (by decide)
  have split : (name ++ "=" ++ value).toList.splitOn '=' = [name.toList, value.toList] := by
    have signless : ∀ piece ∈ [name.toList, value.toList], '=' ∉ piece := by simp [noSign, noSignBehind]
    have pieces := List.splitOn_intercalate '=' signless (List.cons_ne_nil _ _)
    have joined : (name ++ "=" ++ value).toList = ['='].intercalate [name.toList, value.toList] := by
      simp [List.intercalate_cons_cons]
    rw [joined, pieces]
  obtain ⟨front, rfl⟩ : ∃ front, name = String.ofList front := ⟨name.toList, String.ofList_toList.symm⟩
  rw [String.toList_ofList] at split
  unfold field
  rw [split]
  cases front with
  | nil =>
    dsimp only
    rw [String.ofList_toList]
  | cons first rest =>
    dsimp only
    rw [String.ofList_toList]

theorem unclosed_value {name value : String} (isField : IsFieldPiece name) (isValue : IsFieldPiece value) :
    '\x7d' ∉ (name ++ "=" ++ value).toList := by
  have front : '\x7d' ∉ name.toList := fun member => (isField _ member).2.2 (by decide)
  have back : '\x7d' ∉ value.toList := fun member => (isValue _ member).2.2 (by decide)
  simp [front, back]

section Bracket

variable {span piece text : String} {part : Option String} {before : List Char} {verbosity : Verbosity}

theorem bracket_of_brace {rest : List Char} (isSpan : IsSpan span) (unclosed : '\x7d' ∉ piece.toList) :
    bracket part (behind before (span.toList ++ '\x7b' :: (piece.toList ++ '\x7d' :: rest))) =
      field piece >>= fun asked => do
        let reading := behind (before ++ span.toList ++ ['\x7b'] ++ piece.toList ++ ['\x7d']) rest
        return { part, span := spanOf span, field := some asked.1, value := asked.2,
                 verbosity := ← (← reading.pass ']').closing } := by
  have spanEnds : ∀ char ∈ span.toList, char ∉ [']', '\x7b'] := fun char member => (isSpan char member).2.2
  have pieceEnds : ∀ char ∈ piece.toList, char ∉ ['\x7d'] := by
    intro char member listed
    rw [List.mem_singleton.1 listed] at member
    exact unclosed member
  unfold bracket
  rw [upTo_behind (by decide) spanEnds]
  change (upTo _ _ >>= _) = _
  rw [upTo_behind (by decide) pieceEnds, String.ofList_toList, String.ofList_toList]
  rfl

theorem bracket_of_field {name : String} {value : Option String} (isSpan : IsSpan span)
    (unclosed : '\x7d' ∉ piece.toList) (read : field piece = .ok (name, value)) (ends : SpellsEnd verbosity text) :
    bracket part (behind before (span.toList ++ '\x7b' :: (piece.toList ++ '\x7d' :: (']' :: text.toList)))) =
      .ok { part, span := spanOf span, field := some name, value, verbosity } := by
  rw [bracket_of_brace isSpan unclosed, read]
  refine bind_eq_ok_iff.2 ⟨(name, value), rfl, ?_⟩
  refine bind_eq_ok_iff.2 ⟨_, pass_behind _ ']' _, ?_⟩
  exact bind_eq_ok_iff.2 ⟨verbosity, closing_behind ends _, rfl⟩

theorem bracket_of_asked {span field value : Option String} {asked : String}
    (asks : SpellsAsked span field value asked) (ends : SpellsEnd verbosity text) :
    bracket part (behind before (asked ++ "]" ++ text).toList) = .ok { part, span, field, value, verbosity } := by
  cases asks with
  | span isSpan =>
    have chars : (asked ++ "]" ++ text).toList = asked.toList ++ ']' :: text.toList := by simp
    have spanEnds : ∀ char ∈ asked.toList, char ∉ [']', '\x7b'] := fun char member => (isSpan char member).2.2
    unfold bracket
    rw [chars, upTo_behind (by decide) spanEnds, String.ofList_toList]
    change (closing _ >>= _) = _
    rw [closing_behind ends]
    rfl
  | @field span field isSpan isField named =>
    have chars : (span ++ "\x7b" ++ field ++ "\x7d" ++ "]" ++ text).toList =
        span.toList ++ '\x7b' :: (field.toList ++ '\x7d' :: (']' :: text.toList)) := by simp
    have unclosed : '\x7d' ∉ field.toList := fun member => (isField _ member).2.2 (by decide)
    rw [chars, bracket_of_field isSpan unclosed (field_of_name isField named) ends]
  | @value span field value isSpan isField isValue accepted =>
    have chars : (span ++ "\x7b" ++ (field ++ "=" ++ value) ++ "\x7d" ++ "]" ++ text).toList =
        span.toList ++ '\x7b' :: ((field ++ "=" ++ value).toList ++ '\x7d' :: (']' :: text.toList)) := by simp
    have read := field_of_value isField isValue
    rw [if_pos accepted] at read
    rw [chars, bracket_of_field isSpan (unclosed_value isField isValue) read ends]

end Bracket

end Reading

theorem dropBlanksAround_eq {entry : String} (solid : Without [] entry) :
    Text.dropBlanksAround entry.toList = entry.toList := by
  have same {chars : List Char} (solid : ∀ char ∈ chars, Text.isBlank char = false) :
      chars.dropWhile Text.isBlank = chars := by
    cases chars with
    | nil => rfl
    | cons char rest => rw [List.dropWhile_cons_of_neg (by simp [solid char List.mem_cons_self])]
  have front : ∀ char ∈ entry.toList, Text.isBlank char = false := fun char member => (solid char member).1
  unfold Text.dropBlanksAround Text.dropBlanksBehind
  rw [same front, same fun char member => front char (List.mem_reverse.1 member), List.reverse_reverse]

theorem ruleOfEntry_of_begins {entry : String} (solid : Without [] entry)
    (begins : ∃ first rest, entry.toList = first :: rest ∧ beginsName first = true) :
    ruleOfEntry entry.toList = Reading.named (.behind [] entry.toList) := by
  obtain ⟨first, rest, chars, named⟩ := begins
  have notBracket : first ≠ '[' := by
    intro bracket
    rw [bracket] at named
    exact absurd named (by decide +kernel)
  unfold ruleOfEntry
  rw [dropBlanksAround_eq solid, chars]
  dsimp only
  rw [if_neg notBracket, if_pos named]
  rfl

theorem named_of_inner {name : String} (inner : Without ['=', '['] name) :
    Reading.named (.behind [] name.toList) =
      match Verbosity.ofName? name with
      | some verbosity => .ok { verbosity }
      | none => .ok { part := some name, verbosity := .everything } := by
  have unmarked : name.toList.all (fun char => char ≠ '=' ∧ char ≠ '[') = true := by
    rw [List.all_eq_true]
    intro char member
    simpa using (inner char member).2.2
  unfold Reading.named Reading.behind
  dsimp only
  rw [if_pos unmarked, List.nil_append, String.ofList_toList]
  rfl

theorem named_of_marked {name : String} (inner : Without ['=', '['] name) (mark : Char) (isMark : mark ∈ ['=', '['])
    (rest : List Char) :
    Reading.named (.behind [] (name.toList ++ mark :: rest)) =
      if mark = '=' then do
        return { part := some name, verbosity := ← (Reading.behind (name.toList ++ [mark]) rest).verbosity }
      else Reading.bracket (some name) (.behind (name.toList ++ [mark]) rest) := by
  have marked : ¬(name.toList ++ mark :: rest).all (fun char => char ≠ '=' ∧ char ≠ '[') = true := by
    simp only [List.mem_cons, List.not_mem_nil, or_false] at isMark
    rcases isMark with rfl | rfl
    · simp
    · simp
  have unmarked : ∀ char ∈ name.toList, char ∉ ['=', '['] := fun char member => (inner char member).2.2
  have front := Reading.upTo_behind isMark unmarked [] rest
  rw [List.nil_append, String.ofList_toList] at front
  unfold Reading.named
  rw [if_neg (by exact marked)]
  change (Reading.upTo _ _ >>= _) = _
  rw [front]
  rfl

theorem IsEntryName.begins_append {name : String} (isName : IsEntryName name) (behind : String) :
    ∃ first rest, (name ++ behind).toList = first :: rest ∧ beginsName first = true := by
  obtain ⟨first, rest, chars, named⟩ := isName.begins
  exact ⟨first, rest ++ behind.toList, by rw [String.toList_append, chars, List.cons_append], named⟩

theorem ruleOfEntry_of_level {name text : String} (isName : IsEntryName name) (solid : Without [] text) :
    ruleOfEntry (name ++ ("=" ++ text)).toList = do
      return { part := some name, verbosity := ← (Reading.behind (name.toList ++ ['=']) text.toList).verbosity } := by
  have chars : (name ++ ("=" ++ text)).toList = name.toList ++ '=' :: text.toList := by simp
  have whole : Without [] (name ++ ("=" ++ text)) :=
    without_append.2 ⟨isName.inner.mono, without_append.2 ⟨by decide, solid⟩⟩
  rw [ruleOfEntry_of_begins whole (isName.begins_append _), chars, named_of_marked isName.inner '=' (by decide)]
  rfl

theorem ruleOfEntry_of_bracket {part : Option String} {front rest : String} (begins : SpellsFront part front)
    (solid : Without [] rest) :
    ruleOfEntry (front ++ ("[" ++ rest)).toList =
      Reading.bracket part (.behind (front.toList ++ ['[']) rest.toList) := by
  have behind : Without [] ("[" ++ rest) := without_append.2 ⟨by decide, solid⟩
  cases begins with
  | missing =>
    have chars : ("" ++ ("[" ++ rest)).toList = '[' :: rest.toList := by simp
    unfold ruleOfEntry
    rw [dropBlanksAround_eq (without_append.2 ⟨by decide, behind⟩), chars]
    rfl
  | part isName =>
    have chars : (front ++ ("[" ++ rest)).toList = front.toList ++ '[' :: rest.toList := by simp
    have whole := without_append.2 ⟨isName.inner.mono, behind⟩
    rw [ruleOfEntry_of_begins whole (isName.begins_append _), chars, named_of_marked isName.inner '[' (by decide)]
    rfl

theorem SpellsLevel.solid {verbosity : Verbosity} {text : String} (spelled : SpellsLevel verbosity text) :
    Without [] text := by
  cases spelled with
  | everything => decide
  | named verbosity => exact (isEntryName_name verbosity).inner.mono

theorem SpellsEnd.solid {verbosity : Verbosity} {text : String} (ends : SpellsEnd verbosity text) :
    Without [] text := by
  cases ends with
  | missing => decide
  | level spelled => exact without_append.2 ⟨by decide, spelled.solid⟩

theorem SpellsFront.solid {part : Option String} {front : String} (begins : SpellsFront part front) :
    Without [] front := by
  cases begins with
  | missing => decide
  | part isName => exact isName.inner.mono

theorem solid_value {span field value : String} (isSpan : IsSpan span) (isField : IsFieldPiece field)
    (isValue : IsFieldPiece value) : Without [] (span ++ "\x7b" ++ (field ++ "=" ++ value) ++ "\x7d") := by
  simp only [without_append]
  exact ⟨⟨⟨isSpan.mono, by decide⟩, ⟨isField.mono, by decide⟩, isValue.mono⟩, by decide⟩

theorem SpellsAsked.solid {span field value : Option String} {asked : String}
    (asks : SpellsAsked span field value asked) : Without [] asked := by
  cases asks with
  | span isSpan => exact isSpan.mono
  | field isSpan isField _ =>
    simp only [without_append]
    exact ⟨⟨⟨isSpan.mono, by decide⟩, isField.mono⟩, by decide⟩
  | value isSpan isField isValue _ => exact solid_value isSpan isField isValue

theorem ruleOfEntry_of_spells {rule : FilterRule} {entry : String} (spelled : SpellsRule rule entry) :
    ruleOfEntry entry.toList = .ok rule := by
  cases spelled with
  | everywhere verbosity =>
    obtain ⟨begins, inner⟩ := isEntryName_name verbosity
    rw [ruleOfEntry_of_begins inner.mono begins, named_of_inner inner, Verbosity.ofName?_name]
  | wholePart isName other =>
    rw [ruleOfEntry_of_begins isName.inner.mono isName.begins, named_of_inner isName.inner, other]
  | part isName spelled =>
    rw [ruleOfEntry_of_level isName spelled.solid, Reading.verbosity_of_spells spelled]
    rfl
  | asked begins asks ends =>
    have bracket : Without [] "]" := by decide
    have solid := without_append.2 ⟨without_append.2 ⟨asks.solid, bracket⟩, ends.solid⟩
    rw [ruleOfEntry_of_bracket begins solid, Reading.bracket_of_asked asks ends]

theorem ruleOfEntry_of_senseless {entry : String} (senseless : Senseless entry) :
    ruleOfEntry entry.toList = .error .malformed := by
  cases senseless with
  | level isName solid named other =>
    rw [ruleOfEntry_of_level isName solid, Reading.verbosity_behind, if_neg named, other]
    rfl
  | @value _ _ span field value behind begins isSpan isField isValue solid refused =>
    have chars : (span ++ "\x7b" ++ (field ++ "=" ++ value) ++ "\x7d" ++ behind).toList =
        span.toList ++ '\x7b' :: ((field ++ "=" ++ value).toList ++ '\x7d' :: behind.toList) := by simp
    have fails : Reading.field (field ++ "=" ++ value) = .error .malformed := by
      rw [Reading.field_of_value isField isValue, refused]
      rfl
    rw [ruleOfEntry_of_bracket begins (without_append.2 ⟨solid_value isSpan isField isValue, solid⟩), chars,
      Reading.bracket_of_brace isSpan (Reading.unclosed_value isField isValue), fails]
    rfl

theorem SpellsRule.apart {rule : FilterRule} {entry : String} (spelled : SpellsRule rule entry) :
    ',' ∉ entry.toList ∧ entry.toList ≠ [] := by
  have begun {name : String} (begins : ∃ first rest, name.toList = first :: rest ∧ beginsName first = true) :
      name.toList ≠ [] := by
    obtain ⟨first, rest, chars, -⟩ := begins
    rw [chars]
    exact List.cons_ne_nil first rest
  have bracket : Without [] "]" := by decide
  cases spelled with
  | everywhere verbosity =>
    obtain ⟨begins, inner⟩ := isEntryName_name verbosity
    exact ⟨inner.noComma, begun begins⟩
  | wholePart isName _ => exact ⟨isName.inner.noComma, begun isName.begins⟩
  | part isName spelled => exact ⟨by simp [isName.inner.noComma, spelled.solid.noComma], by simp⟩
  | asked begins asks ends =>
    exact ⟨by simp [begins.solid.noComma, asks.solid.noComma, ends.solid.noComma], by simp⟩

theorem Senseless.apart {entry : String} (senseless : Senseless entry) : ',' ∉ entry.toList ∧ entry.toList ≠ [] := by
  cases senseless with
  | level isName solid _ _ => exact ⟨by simp [isName.inner.noComma, solid.noComma], by simp⟩
  | value begins isSpan isField isValue solid _ =>
    have asked := (solid_value isSpan isField isValue).noComma
    simp only [String.toList_append, List.mem_append, not_or] at asked ⊢
    exact ⟨⟨begins.solid.noComma, by decide, asked, solid.noComma⟩, by simp⟩

end EventFilter

end AgreementAudit

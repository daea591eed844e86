import AgreementAudit.Json
import AgreementAudit.Proofs.Delimiting

/-! The texts of a JSON document, said as a grammar. White space may stand around all parts, and a character of a text may
be written in several ways, yet no text is one of two documents. Numbers are natural numbers only, since a report holds
no others. -/
namespace AgreementAudit.Json

open Text (Stops stops_nil stops_cons run_append_inj)

def isSpace (char : Char) : Bool := [' ', '\t', '\n', '\r'].contains char

def Space (chars : List Char) : Prop := ∀ char ∈ chars, isSpace char = true

/-- A row of digits, in which a zero is in front of no other digit. -/
structure NumberSpelling (number : Nat) (chars : List Char) : Prop where
  nonempty : chars ≠ []
  digits : ∀ char ∈ chars, char.isDigit = true
  unpadded : chars.head? = some '0' → chars = ['0']
  value : Nat.ofDigitChars 10 chars 0 = number

def hexDigit? (char : Char) : Option Nat :=
  if char.isDigit then some (char.toNat - 0x30)
  else if 'a' ≤ char ∧ char ≤ 'f' then some (char.toNat - 0x57)
  else if 'A' ≤ char ∧ char ≤ 'F' then some (char.toNat - 0x37)
  else none

def code? (first second third fourth : Char) : Option Nat := do
  let first ← hexDigit? first
  let second ← hexDigit? second
  let third ← hexDigit? third
  let fourth ← hexDigit? fourth
  return 0x1000 * first + 0x100 * second + 0x10 * third + fourth

def shortEscape? : Char → Option Char
  | '\x22' => some '\x22'
  | '\x5c' => some '\x5c'
  | '/' => some '/'
  | 'b' => some '\x08'
  | 'f' => some '\x0c'
  | 'n' => some '\n'
  | 'r' => some '\r'
  | 't' => some '\t'
  | _ => none

/-- What may stand behind a backslash: a letter, the code of a character, or that of both halves of a character beyond
`0xFFFF`, of which each carries ten bits. -/
inductive Escape : Char → List Char → Prop
  | short {char letter : Char} (shortened : shortEscape? letter = some char) : Escape char [letter]
  | code {char a b c d : Char} (coded : code? a b c d = some char.toNat) : Escape char ['u', a, b, c, d]
  | halves {char a b c d e f g h : Char} {high low : Nat} (highFits : high < 0x400) (lowFits : low < 0x400)
      (highCoded : code? a b c d = some (0xD800 + high)) (lowCoded : code? e f g h = some (0xDC00 + low))
      (joined : char.toNat = 0x10000 + 0x400 * high + low) :
      Escape char ['u', a, b, c, d, backslash, 'u', e, f, g, h]

inductive CharSpelling : Char → List Char → Prop
  | plain {char : Char} (printable : 0x20 ≤ char.toNat) (noQuote : char ≠ quote) (noBackslash : char ≠ backslash) :
      CharSpelling char [char]
  | escaped {char : Char} {chars : List Char} (escape : Escape char chars) : CharSpelling char (backslash :: chars)

inductive CharsSpelling : List Char → List Char → Prop
  | nil : CharsSpelling [] []
  | cons {char : Char} {text own others : List Char} (first : CharSpelling char own)
      (later : CharsSpelling text others) : CharsSpelling (char :: text) (own ++ others)

inductive TextSpelling : String → List Char → Prop
  | quoted {text : String} {inner : List Char} (spelled : CharsSpelling text.toList inner) :
      TextSpelling text (quote :: (inner ++ [quote]))

section Entries

variable {Entry : Type}

inductive Padded (spelling : Entry → List Char → Prop) (entry : Entry) : List Char → Prop
  | intro {front own back : List Char} (inFront : Space front) (spelled : spelling entry own) (behind : Space back) :
      Padded spelling entry (front ++ (own ++ back))

inductive Separated (spelling : Entry → List Char → Prop) : List Entry → List Char → Prop
  | last {entry : Entry} {front own back : List Char} (inFront : Space front) (spelled : spelling entry own)
      (behind : Space back) : Separated spelling [entry] (front ++ (own ++ back))
  | next {entry : Entry} {entries : List Entry} {front own back others : List Char} (inFront : Space front)
      (spelled : spelling entry own) (behind : Space back) (more : Separated spelling entries others) :
      Separated spelling (entry :: entries) (front ++ (own ++ back) ++ ',' :: others)

inductive Entries (spelling : Entry → List Char → Prop) : List Entry → List Char → Prop
  | nothing {blanks : List Char} (space : Space blanks) : Entries spelling [] blanks
  | listed {entries : List Entry} {chars : List Char} (separated : Separated spelling entries chars) :
      Entries spelling entries chars

end Entries

inductive Field (spelling : Json → List Char → Prop) : String × Json → List Char → Prop
  | named {name : String} {value : Json} {nameChars back front own : List Char} (named : TextSpelling name nameChars)
      (behind : Space back) (inFront : Space front) (spelled : spelling value own) :
      Field spelling (name, value) (nameChars ++ (back ++ ':' :: (front ++ own)))

inductive Spelling : Json → List Char → Prop
  | null : Spelling .null "null".toList
  | bool {value : Bool} : Spelling (.bool value) (if value then "true".toList else "false".toList)
  | number {number : Nat} {chars : List Char} (spelled : NumberSpelling number chars) : Spelling (.number number) chars
  | text {text : String} {chars : List Char} (spelled : TextSpelling text chars) : Spelling (.text text) chars
  | array {items : List Json} {inner : List Char} (entries : Entries Spelling items inner) :
      Spelling (.array items) ('[' :: (inner ++ [']']))
  | object {fields : List (String × Json)} {inner : List Char} (entries : Entries (Field Spelling) fields inner) :
      Spelling (.object fields) ('\x7b' :: (inner ++ ['\x7d']))

/-- A text of a document has nothing around it but white space. -/
def IsText (document : Json) (text : String) : Prop := Padded Spelling document text.toList

theorem induct {motive : Json → Prop} (null : motive .null) (bool : ∀ value, motive (.bool value))
    (number : ∀ value, motive (.number value)) (text : ∀ value, motive (.text value))
    (array : ∀ items, (∀ item ∈ items, motive item) → motive (.array items))
    (object : ∀ fields, (∀ field ∈ fields, motive field.2) → motive (.object fields)) :
    ∀ document, motive document
  | .null => null
  | .bool value => bool value
  | .number value => number value
  | .text value => text value
  | .array items => array items fun item _ => induct null bool number text array object item
  | .object fields => object fields fun field member =>
    have inside : sizeOf field < sizeOf fields := List.sizeOf_lt_of_mem member
    have within : sizeOf field.2 < sizeOf field := by
      cases field with
      | mk name value =>
        change sizeOf value < sizeOf (name, value)
        rw [Prod.mk.sizeOf_spec]
        omega
    induct null bool number text array object field.2

section Unambiguous

variable {rest behind : List Char}

theorem toNat_ne_half (char : Char) {part : Nat} (fits : part < 0x400) :
    char.toNat ≠ 0xD800 + part ∧ char.toNat ≠ 0xDC00 + part := by
  have valid : char.toNat < 0xD800 ∨ 0xDFFF < char.toNat ∧ char.toNat < 0x110000 := char.valid
  omega

theorem Escape.append_inj {char other : Char} {own chars : List Char} (escape : Escape char own)
    (otherEscape : Escape other chars) (same : own ++ rest = chars ++ behind) : char = other ∧ rest = behind := by
  cases escape with
  | short shortened =>
    cases otherEscape with
    | short otherShortened =>
      obtain ⟨rfl, rests⟩ := List.cons.inj same
      exact ⟨Option.some.inj (shortened.symm.trans otherShortened), rests⟩
    | code => cases (List.cons.inj same).1 ▸ shortened
    | halves => cases (List.cons.inj same).1 ▸ shortened
  | code coded =>
    cases otherEscape with
    | short shortened => cases (List.cons.inj same).1 ▸ shortened
    | code otherCoded =>
      simp only [List.cons_append, List.nil_append, List.cons.injEq, true_and] at same
      obtain ⟨rfl, rfl, rfl, rfl, rests⟩ := same
      exact ⟨Char.toNat_inj.1 (Option.some.inj (coded.symm.trans otherCoded)), rests⟩
    | halves highFits lowFits highCoded lowCoded joined =>
      simp only [List.cons_append, List.nil_append, List.cons.injEq, true_and] at same
      obtain ⟨rfl, rfl, rfl, rfl, -⟩ := same
      -- Four digits alone name a character, but the first four of a pair only a half of one.
      exact absurd (Option.some.inj (coded.symm.trans highCoded)) (toNat_ne_half char highFits).1
  | halves highFits lowFits highCoded lowCoded joined =>
    cases otherEscape with
    | short shortened => cases (List.cons.inj same).1 ▸ shortened
    | code otherCoded =>
      simp only [List.cons_append, List.nil_append, List.cons.injEq, true_and] at same
      obtain ⟨rfl, rfl, rfl, rfl, -⟩ := same
      exact absurd (Option.some.inj (otherCoded.symm.trans highCoded)) (toNat_ne_half other highFits).1
    | halves _ _ otherHighCoded otherLowCoded otherJoined =>
      simp only [List.cons_append, List.nil_append, List.cons.injEq, true_and] at same
      obtain ⟨rfl, rfl, rfl, rfl, rfl, rfl, rfl, rfl, rests⟩ := same
      have highs := Option.some.inj (highCoded.symm.trans otherHighCoded)
      have lows := Option.some.inj (lowCoded.symm.trans otherLowCoded)
      refine ⟨Char.toNat_inj.1 ?_, rests⟩
      omega

theorem CharSpelling.append_inj {char other : Char} {own chars : List Char} (spelled : CharSpelling char own)
    (otherSpelled : CharSpelling other chars) (same : own ++ rest = chars ++ behind) :
    char = other ∧ rest = behind := by
  cases spelled with
  | plain _ _ noBackslash =>
    cases otherSpelled with
    | plain => exact List.cons.inj same
    | escaped => exact absurd (List.cons.inj same).1 noBackslash
  | escaped escape =>
    cases otherSpelled with
    | plain _ _ noBackslash => exact absurd (List.cons.inj same).1.symm noBackslash
    | escaped otherEscape => exact escape.append_inj otherEscape (List.cons.inj same).2

theorem CharSpelling.append_ne_quote {char : Char} {own : List Char} (spelled : CharSpelling char own) :
    own ++ rest ≠ quote :: behind := by
  intro same
  cases spelled with
  | plain _ noQuote _ => exact noQuote (List.cons.inj same).1
  | escaped => exact absurd (List.cons.inj same).1 (by decide)

theorem CharsSpelling.append_inj {text other own chars : List Char} (spelled : CharsSpelling text own)
    (otherSpelled : CharsSpelling other chars) (same : own ++ quote :: rest = chars ++ quote :: behind) :
    text = other ∧ rest = behind := by
  induction spelled generalizing other chars with
  | nil =>
    cases otherSpelled with
    | nil => exact ⟨rfl, (List.cons.inj same).2⟩
    | cons first later =>
      rw [List.append_assoc] at same
      exact absurd same.symm first.append_ne_quote
  | cons first later ih =>
    rw [List.append_assoc] at same
    cases otherSpelled with
    | nil => exact absurd same first.append_ne_quote
    | cons otherFirst otherLater =>
      rw [List.append_assoc] at same
      obtain ⟨rfl, others⟩ := first.append_inj otherFirst same
      obtain ⟨rfl, rests⟩ := ih otherLater others
      exact ⟨rfl, rests⟩

theorem TextSpelling.append_inj {text other : String} {own chars : List Char} (spelled : TextSpelling text own)
    (otherSpelled : TextSpelling other chars) (same : own ++ rest = chars ++ behind) :
    text = other ∧ rest = behind := by
  cases spelled with
  | quoted inside =>
    cases otherSpelled with
    | quoted otherInside =>
      rw [List.cons_append, List.cons_append, List.append_assoc, List.append_assoc] at same
      obtain ⟨texts, rests⟩ := inside.append_inj otherInside (List.cons.inj same).2
      exact ⟨String.toList_inj.1 texts, rests⟩

theorem NumberSpelling.append_inj {number other : Nat} {own chars : List Char} (spelled : NumberSpelling number own)
    (otherSpelled : NumberSpelling other chars) (stops : Stops Char.isDigit rest)
    (otherStops : Stops Char.isDigit behind) (same : own ++ rest = chars ++ behind) :
    number = other ∧ rest = behind := by
  obtain ⟨rfl, rests⟩ := run_append_inj spelled.digits otherSpelled.digits stops otherStops same
  exact ⟨spelled.value.symm.trans otherSpelled.value, rests⟩

structure Ends (tail : List Char) : Prop where
  unspaced : Stops isSpace tail
  undigited : Stops Char.isDigit tail

theorem ends_nil : Ends [] := ⟨stops_nil _, stops_nil _⟩

theorem ends_comma (tail : List Char) : Ends (',' :: tail) := ⟨stops_cons rfl _, stops_cons rfl _⟩

def IsClosing (char : Char) : Prop := char = ']' ∨ char = '\x7d'

theorem IsClosing.ends {closing : Char} (closes : IsClosing closing) (tail : List Char) : Ends (closing :: tail) := by
  rcases closes with rfl | rfl
  · exact ⟨stops_cons rfl _, stops_cons rfl _⟩
  · exact ⟨stops_cons rfl _, stops_cons rfl _⟩

theorem IsClosing.ne_comma {closing : Char} (closes : IsClosing closing) : closing ≠ ',' := by
  rcases closes with rfl | rfl
  · decide
  · decide

theorem isDigit_of_isSpace {char : Char} (blank : isSpace char = true) : char.isDigit = false := by
  simp only [isSpace, List.contains_cons, List.contains_nil, Bool.or_false, Bool.or_eq_true, beq_iff_eq] at blank
  rcases blank with rfl | rfl | rfl | rfl
  · rfl
  · rfl
  · rfl
  · rfl

theorem Space.stops_append {back tail : List Char} (space : Space back) (ends : Ends tail) :
    Stops Char.isDigit (back ++ tail) := by
  cases back with
  | nil => exact ends.undigited
  | cons char others => exact stops_cons (isDigit_of_isSpace (space char List.mem_cons_self)) _

section Entries

variable {Entry : Type} {spelling : Entry → List Char → Prop} {entry other : Entry} {entries others : List Entry}
  {own chars : List Char}

/-- An entry is told from what stands behind it, if that does not begin with a digit. -/
def TellsApart (spelling : Entry → List Char → Prop) (entry : Entry) : Prop :=
  ∀ ⦃other own chars rest behind⦄, spelling entry own → spelling other chars → Stops Char.isDigit rest →
    Stops Char.isDigit behind → own ++ rest = chars ++ behind → entry = other ∧ rest = behind

def BeginsOpenly (spelling : Entry → List Char → Prop) : Prop :=
  ∀ ⦃entry own⦄, spelling entry own → ∃ first others, own = first :: others ∧ isSpace first = false ∧ ¬IsClosing first

theorem BeginsOpenly.stops (begins : BeginsOpenly spelling) (spelled : spelling entry own) (tail : List Char) :
    Stops isSpace (own ++ tail) := by
  obtain ⟨first, others, rfl, unspaced, -⟩ := begins spelled
  exact stops_cons unspaced _

theorem Padded.append_inj (begins : BeginsOpenly spelling) (apart : TellsApart spelling entry)
    (padded : Padded spelling entry own) (otherPadded : Padded spelling other chars) (ends : Ends rest)
    (otherEnds : Ends behind) (same : own ++ rest = chars ++ behind) : entry = other ∧ rest = behind := by
  obtain ⟨inFront, spelled, inBack⟩ := padded
  obtain ⟨otherInFront, otherSpelled, otherInBack⟩ := otherPadded
  rw [List.append_assoc, List.append_assoc, List.append_assoc, List.append_assoc] at same
  obtain ⟨-, behindFront⟩ :=
    run_append_inj inFront otherInFront (begins.stops spelled _) (begins.stops otherSpelled _) same
  obtain ⟨entries, behindEntry⟩ :=
    apart spelled otherSpelled (inBack.stops_append ends) (otherInBack.stops_append otherEnds) behindFront
  obtain ⟨-, tails⟩ := run_append_inj inBack otherInBack ends.unspaced otherEnds.unspaced behindEntry
  exact ⟨entries, tails⟩

theorem Separated.append_inj {closing : Char} (closes : IsClosing closing) (begins : BeginsOpenly spelling)
    (apart : ∀ entry ∈ entries, TellsApart spelling entry) (separated : Separated spelling entries own)
    (otherSeparated : Separated spelling others chars) (same : own ++ closing :: rest = chars ++ closing :: behind) :
    entries = others ∧ rest = behind := by
  -- Behind the first entry stands the bracket or a comma, whichever list it is in.
  induction separated generalizing others chars with
  | last inFront spelled inBack =>
    have padded : Padded spelling _ _ := .intro inFront spelled inBack
    have first := apart _ List.mem_cons_self
    cases otherSeparated with
    | last otherInFront otherSpelled otherInBack =>
      have otherPadded : Padded spelling _ _ := .intro otherInFront otherSpelled otherInBack
      obtain ⟨rfl, tails⟩ := padded.append_inj begins first otherPadded (closes.ends _) (closes.ends _) same
      exact ⟨rfl, (List.cons.inj tails).2⟩
    | next otherInFront otherSpelled otherInBack more =>
      have otherPadded : Padded spelling _ _ := .intro otherInFront otherSpelled otherInBack
      rw [List.append_assoc (_ ++ _) (',' :: _)] at same
      obtain ⟨-, tails⟩ := padded.append_inj begins first otherPadded (closes.ends _) (ends_comma _) same
      exact absurd (List.cons.inj tails).1 closes.ne_comma
  | next inFront spelled inBack more ih =>
    have padded : Padded spelling _ _ := .intro inFront spelled inBack
    have first := apart _ List.mem_cons_self
    rw [List.append_assoc (_ ++ _) (',' :: _)] at same
    cases otherSeparated with
    | last otherInFront otherSpelled otherInBack =>
      have otherPadded : Padded spelling _ _ := .intro otherInFront otherSpelled otherInBack
      obtain ⟨-, tails⟩ := padded.append_inj begins first otherPadded (ends_comma _) (closes.ends _) same
      exact absurd (List.cons.inj tails).1.symm closes.ne_comma
    | next otherInFront otherSpelled otherInBack otherMore =>
      have otherPadded : Padded spelling _ _ := .intro otherInFront otherSpelled otherInBack
      rw [List.append_assoc (_ ++ _) (',' :: _)] at same
      obtain ⟨rfl, tails⟩ := padded.append_inj begins first otherPadded (ends_comma _) (ends_comma _) same
      obtain ⟨rfl, rests⟩ :=
        ih (fun entry member => apart entry (List.mem_cons_of_mem _ member)) otherMore (List.cons.inj tails).2
      exact ⟨rfl, rests⟩

theorem Separated.append_ne_blanks {closing : Char} (closes : IsClosing closing) (begins : BeginsOpenly spelling)
    (separated : Separated spelling entries own) (space : Space chars) :
    own ++ rest ≠ chars ++ closing :: behind := by
  have notAlone {entry : Entry} {front own : List Char} (inFront : Space front) (spelled : spelling entry own)
      (rest : List Char) : front ++ (own ++ rest) ≠ chars ++ closing :: behind := by
    intro same
    obtain ⟨-, tails⟩ := run_append_inj inFront space (begins.stops spelled _) (closes.ends _).unspaced same
    obtain ⟨first, others, rfl, -, opens⟩ := begins spelled
    exact opens ((List.cons.inj tails).1 ▸ closes)
  cases separated with
  | last inFront spelled inBack =>
    rw [List.append_assoc, List.append_assoc]
    exact notAlone inFront spelled _
  | next inFront spelled inBack more =>
    rw [List.append_assoc, List.append_assoc, List.append_assoc]
    exact notAlone inFront spelled _

theorem Entries.append_inj {closing : Char} (closes : IsClosing closing) (begins : BeginsOpenly spelling)
    (apart : ∀ entry ∈ entries, TellsApart spelling entry) (spelled : Entries spelling entries own)
    (otherSpelled : Entries spelling others chars) (same : own ++ closing :: rest = chars ++ closing :: behind) :
    entries = others ∧ rest = behind := by
  cases spelled with
  | nothing space =>
    cases otherSpelled with
    | nothing otherSpace =>
      obtain ⟨-, tails⟩ :=
        run_append_inj space otherSpace (closes.ends _).unspaced (closes.ends _).unspaced same
      exact ⟨rfl, (List.cons.inj tails).2⟩
    | listed separated => exact absurd same.symm (separated.append_ne_blanks closes begins space)
  | listed separated =>
    cases otherSpelled with
    | nothing space => exact absurd same (separated.append_ne_blanks closes begins space)
    | listed otherSeparated => exact separated.append_inj closes begins apart otherSeparated same

end Entries

theorem TextSpelling.begins {text : String} {own : List Char} (spelled : TextSpelling text own) :
    ∃ others, own = quote :: others := by
  obtain ⟨inside⟩ := spelled
  exact ⟨_, rfl⟩

inductive Shape
  | null
  | bool (value : Bool)
  | number
  | text
  | array
  | object

def shape : Json → Shape
  | .null => .null
  | .bool value => .bool value
  | .number _ => .number
  | .text _ => .text
  | .array _ => .array
  | .object _ => .object

def shapeFrom : Char → Shape
  | 'n' => .null
  | 't' => .bool true
  | 'f' => .bool false
  | '\x22' => .text
  | '[' => .array
  | '\x7b' => .object
  | _ => .number

theorem shapeFrom_of_isDigit {char : Char} (digit : char.isDigit = true) : shapeFrom char = .number := by
  unfold shapeFrom
  split
  · exact absurd digit (by decide)
  · exact absurd digit (by decide)
  · exact absurd digit (by decide)
  · exact absurd digit (by decide)
  · exact absurd digit (by decide)
  · exact absurd digit (by decide)
  · rfl

theorem isSpace_of_isDigit {char : Char} (digit : char.isDigit = true) : isSpace char = false := by
  apply Bool.eq_false_iff.2
  intro blank
  rw [isDigit_of_isSpace blank] at digit
  exact Bool.false_ne_true digit

theorem not_isClosing_of_isDigit {char : Char} (digit : char.isDigit = true) : ¬IsClosing char := by
  intro closes
  rcases closes with rfl | rfl
  · exact absurd digit (by decide)
  · exact absurd digit (by decide)

theorem Spelling.begins {document : Json} {own : List Char} (spelled : Spelling document own) :
    ∃ first others, own = first :: others ∧ shapeFrom first = document.shape ∧ isSpace first = false ∧
      ¬IsClosing first := by
  cases spelled with
  | null => exact ⟨'n', _, rfl, rfl, rfl, by unfold IsClosing; decide⟩
  | @bool value =>
    cases value with
    | true => exact ⟨'t', _, rfl, rfl, rfl, by unfold IsClosing; decide⟩
    | false => exact ⟨'f', _, rfl, rfl, rfl, by unfold IsClosing; decide⟩
  | number number =>
    obtain ⟨first, others, rfl⟩ := List.exists_cons_of_ne_nil number.nonempty
    have digit := number.digits first List.mem_cons_self
    exact ⟨first, others, rfl, shapeFrom_of_isDigit digit, isSpace_of_isDigit digit, not_isClosing_of_isDigit digit⟩
  | text text =>
    obtain ⟨others, rfl⟩ := text.begins
    exact ⟨quote, others, rfl, rfl, rfl, by unfold IsClosing; decide⟩
  | array => exact ⟨'[', _, rfl, rfl, rfl, by unfold IsClosing; decide⟩
  | object => exact ⟨'\x7b', _, rfl, rfl, rfl, by unfold IsClosing; decide⟩

theorem Spelling.beginsOpenly : BeginsOpenly Spelling := by
  intro document own spelled
  obtain ⟨first, others, split, -, unspaced, opens⟩ := spelled.begins
  exact ⟨first, others, split, unspaced, opens⟩

theorem Field.beginsOpenly : BeginsOpenly (Field Spelling) := by
  intro field own spelled
  obtain ⟨named, -, -, -⟩ := spelled
  obtain ⟨others, rfl⟩ := named.begins
  exact ⟨quote, _, rfl, rfl, by unfold IsClosing; decide⟩

theorem Field.tellsApart {field : String × Json} (apart : TellsApart Spelling field.2) :
    TellsApart (Field Spelling) field := by
  intro other own chars rest behind spelled otherSpelled stops otherStops same
  obtain ⟨named, inBack, inFront, valued⟩ := spelled
  obtain ⟨otherNamed, otherInBack, otherInFront, otherValued⟩ := otherSpelled
  simp only [List.append_assoc, List.cons_append] at same
  obtain ⟨rfl, behindName⟩ := named.append_inj otherNamed same
  obtain ⟨-, atColon⟩ := run_append_inj inBack otherInBack (stops_cons rfl _) (stops_cons rfl _) behindName
  obtain ⟨-, atValue⟩ := run_append_inj inFront otherInFront (Spelling.beginsOpenly.stops valued _)
    (Spelling.beginsOpenly.stops otherValued _) (List.cons.inj atColon).2
  obtain ⟨rfl, rests⟩ := apart valued otherValued stops otherStops atValue
  exact ⟨rfl, rests⟩

theorem Spelling.shape_eq {document other : Json} {own chars : List Char} (spelled : Spelling document own)
    (otherSpelled : Spelling other chars) (same : own ++ rest = chars ++ behind) : document.shape = other.shape := by
  obtain ⟨first, others, rfl, shaped, -⟩ := spelled.begins
  obtain ⟨otherFirst, otherOthers, rfl, otherShaped, -⟩ := otherSpelled.begins
  obtain ⟨rfl, -⟩ := List.cons.inj same
  exact shaped.symm.trans otherShaped

/-- The first character of a document tells its shape, and the documents inside it tell where it ends. -/
theorem Spelling.tellsApart (document : Json) : TellsApart Spelling document := by
  induction document using induct with
  | null =>
    intro other own chars rest behind spelled otherSpelled stops otherStops same
    have shapes := spelled.shape_eq otherSpelled same
    cases other with
    | null =>
      cases spelled
      cases otherSpelled
      exact ⟨rfl, List.append_cancel_left same⟩
    | _ => cases shapes
  | bool value =>
    intro other own chars rest behind spelled otherSpelled stops otherStops same
    have shapes := spelled.shape_eq otherSpelled same
    cases other with
    | bool otherValue =>
      cases shapes
      cases spelled
      cases otherSpelled
      exact ⟨rfl, List.append_cancel_left same⟩
    | _ => cases shapes
  | number value =>
    intro other own chars rest behind spelled otherSpelled stops otherStops same
    have shapes := spelled.shape_eq otherSpelled same
    cases other with
    | number otherValue =>
      cases spelled with
      | number digits =>
        cases otherSpelled with
        | number otherDigits =>
          -- A number has no end of its own, so here it counts that no digit stands behind it.
          obtain ⟨rfl, rests⟩ := digits.append_inj otherDigits stops otherStops same
          exact ⟨rfl, rests⟩
    | _ => cases shapes
  | text value =>
    intro other own chars rest behind spelled otherSpelled stops otherStops same
    have shapes := spelled.shape_eq otherSpelled same
    cases other with
    | text otherValue =>
      cases spelled with
      | text quoted =>
        cases otherSpelled with
        | text otherQuoted =>
          obtain ⟨rfl, rests⟩ := quoted.append_inj otherQuoted same
          exact ⟨rfl, rests⟩
    | _ => cases shapes
  | array items ih =>
    intro other own chars rest behind spelled otherSpelled stops otherStops same
    have shapes := spelled.shape_eq otherSpelled same
    cases other with
    | array otherItems =>
      cases spelled with
      | array entries =>
        cases otherSpelled with
        | array otherEntries =>
          rw [List.cons_append, List.cons_append, List.append_assoc, List.append_assoc] at same
          obtain ⟨rfl, rests⟩ :=
            entries.append_inj (Or.inl rfl) Spelling.beginsOpenly ih otherEntries (List.cons.inj same).2
          exact ⟨rfl, rests⟩
    | _ => cases shapes
  | object fields ih =>
    intro other own chars rest behind spelled otherSpelled stops otherStops same
    have shapes := spelled.shape_eq otherSpelled same
    cases other with
    | object otherFields =>
      cases spelled with
      | object entries =>
        cases otherSpelled with
        | object otherEntries =>
          rw [List.cons_append, List.cons_append, List.append_assoc, List.append_assoc] at same
          obtain ⟨rfl, rests⟩ := entries.append_inj (Or.inr rfl) Field.beginsOpenly
            (fun field member => Field.tellsApart (ih field member)) otherEntries (List.cons.inj same).2
          exact ⟨rfl, rests⟩
    | _ => cases shapes

/-- A text is one of no more than one document. -/
theorem IsText.unique {document other : Json} {text : String} (isText : IsText document text)
    (otherIsText : IsText other text) : document = other :=
  (isText.append_inj Spelling.beginsOpenly (Spelling.tellsApart document) otherIsText ends_nil ends_nil rfl).1

end Unambiguous

end AgreementAudit.Json

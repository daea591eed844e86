import AgreementAudit.EventFilter
import AgreementAudit.Pattern
import AgreementAudit.Text.Decimal

/-! Filters as they are spelled in a setting: the rules are entries between commas. An entry is the verbosity of
the whole program, or the name of a part of it with or without an equals sign and a verbosity; a span, and in
braces a field with or without its value, may stand in brackets behind the name or in its place. -/
namespace AgreementAudit.EventFilter

inductive Fault
  | malformed
  | dividesCharacter
deriving DecidableEq

/-- An entry as far as it has been read: the bytes behind which reading goes on, and what is left. Blanks around
an entry are not read, but cuts are made at the same distances from the start of the whole entry. -/
structure Reading where
  entry : List Char
  place : Nat
  rest : List Char

namespace Reading

def split : List Char → Nat → Except Fault (List Char × List Char)
  | chars, 0 => .ok ([], chars)
  | [], _ + 1 => .error .dividesCharacter
  | char :: rest, bytes =>
    if bytes < char.utf8Size then .error .dividesCharacter
    else do
      let (front, back) ← split rest (bytes - char.utf8Size)
      return (char :: front, back)

def cut (reading : Reading) (stop : Nat) : Except Fault String := do
  let (front, _) ← split reading.entry stop
  let (_, piece) ← split front reading.place
  return String.ofList piece

def upTo (reading : Reading) (marks : List Char) : Except Fault (String × Char × Reading) :=
  match reading.rest.dropWhile fun char => !marks.contains char with
  | [] => .error .malformed
  | mark :: rest => do
    let run := reading.rest.takeWhile fun char => !marks.contains char
    let stop := reading.place + (String.ofList run).utf8ByteSize
    let piece ← reading.cut stop
    return (piece, mark, { reading with place := stop + mark.utf8Size, rest })

/-- A verbosity takes all that is left of the entry. Everything is shown if nothing is left. -/
def verbosity (reading : Reading) : Except Fault Verbosity := do
  let name ← reading.cut (String.ofList reading.entry).utf8ByteSize
  if name = "" then return .everything
  match Verbosity.ofName? name with
  | some verbosity => return verbosity
  | none => throw .malformed

def pass (reading : Reading) (mark : Char) : Except Fault Reading :=
  match reading.rest with
  | [] => .error .malformed
  | char :: rest =>
    if char = mark then .ok { reading with place := reading.place + mark.utf8Size, rest }
    else .error .malformed

def closing (reading : Reading) : Except Fault Verbosity := do
  if reading.rest = [] then return .everything
  (← reading.pass '=').verbosity

/-- A field name, and the value behind an equals sign: a number or a pattern. What follows another equals sign
has no meaning. -/
def field (text : String) : Except Fault (String × Option String) :=
  match text.toList.splitOn '=' with
  | [] | [[]] => .error .malformed
  | [name] => .ok (String.ofList name, none)
  | name :: value :: _ =>
    if Text.isDecimal value || Pattern.isPattern value then .ok (String.ofList name, some (String.ofList value))
    else .error .malformed

def bracket (part : Option String) (reading : Reading) : Except Fault FilterRule := do
  let (name, mark, reading) ← reading.upTo [']', '\x7b']
  if mark = ']' then return { part, span := some name, verbosity := ← reading.closing }
  let span := if name = "" then none else some name
  let (asked, _, reading) ← reading.upTo ['\x7d']
  let (name, value) ← field asked
  return { part, span, field := some name, value, verbosity := ← (← reading.pass ']').closing }

/-- The rule of an entry that begins with a name. Without a mark in it, the entry as a whole is a verbosity or
else the name of a part. -/
def named (reading : Reading) : Except Fault FilterRule := do
  if reading.rest.all fun char => char ≠ '=' ∧ char ≠ '[' then
    let name := String.ofList reading.entry
    match Verbosity.ofName? name with
    | some verbosity => return { verbosity }
    | none => return { part := some name, verbosity := .everything }
  let (part, mark, reading) ← reading.upTo ['=', '[']
  if mark = '=' then return { part := some part, verbosity := ← reading.verbosity }
  bracket (some part) reading

end Reading

def beginsName (char : Char) : Bool := Text.isAlphanumeric char || ['-', '_', ':'].contains char

def ruleOfEntry (entry : List Char) : Except Fault FilterRule :=
  match Text.dropBlanksAround entry with
  | [] => .error .malformed
  | first :: rest =>
    if first = '[' then Reading.bracket none ⟨entry, first.utf8Size, rest⟩
    else if beginsName first then Reading.named ⟨entry, 0, first :: rest⟩
    else .error .malformed

/-- The filter of a setting. Warnings are shown if there is none or an entry is malformed, and errors if it has no
entries. There is no filter if an entry would have to be cut within a character. -/
def ofSetting : Option String → Except Halt EventFilter
  | none => .ok (everywhere (some .warn))
  | some setting =>
    match ((setting.toList.splitOn ',').filter (· ≠ [])).mapM ruleOfEntry with
    | .ok [] => .ok (everywhere (some .error))
    | .ok rules => .ok ⟨rules⟩
    | .error .malformed => .ok (everywhere (some .warn))
    | .error .dividesCharacter => .error .dividedCharacter

end AgreementAudit.EventFilter

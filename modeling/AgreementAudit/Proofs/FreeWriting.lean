import AgreementAudit.Proofs.LogReading
import AgreementAudit.Proofs.Writing

/-! Writers are free in much: in the order of the values and how often each of them stands there, in signs and zeros in
front of the digits, in the blanks and in how a line ends. Whatever they choose, what was written is what is read. -/
namespace AgreementAudit

namespace Text

theorem exists_append_return {text : String} (last : (encode text).getLast? = some carriageReturn) :
    ∃ kept, text = kept ++ "\r" := by
  rw [encode_eq_flatMap] at last
  rcases List.eq_nil_or_concat text.toList with empty | ⟨front, char, split⟩
  · rw [empty] at last
    cases last
  rw [List.concat_eq_append] at split
  rw [split, List.flatMap_append, List.flatMap_singleton,
    List.getLast?_append_of_ne_nil _ String.utf8EncodeChar_ne_nil] at last
  have code := (mem_utf8EncodeChar_iff (by decide)).1 (List.mem_of_getLast? last)
  obtain rfl : char = '\r' := Char.toNat_inj.1 code
  refine ⟨String.ofList front, ?_⟩
  rw [← String.toList_inj, split, String.toList_append, String.toList_ofList]
  rfl

theorem exists_dropReturn_encode (text : String) :
    ∃ kept, dropReturn (encode text) = encode kept ∧ words kept = words text := by
  by_cases last : (encode text).getLast? = some carriageReturn
  · obtain ⟨kept, rfl⟩ := exists_append_return last
    have returned : encode "\r" = [carriageReturn] := rfl
    refine ⟨kept, ?_, (words_append_blank rfl (by decide) kept).symm⟩
    rw [encode_append, returned, dropReturn_append_return]
  · exact ⟨text, dropReturn_of_noReturn last, rfl⟩

def padded (signed : Bool) (zeros number : Nat) : String :=
  (if signed then "+" else "") ++ String.ofList (List.replicate zeros '0') ++ number.repr

end Text

theorem spells_padded (signed : Bool) (zeros number : Nat) : Spells (Text.padded signed zeros number) number := by
  refine ⟨List.replicate zeros '0' ++ number.repr.toList, ?_, ?_, ?_, ?_⟩
  · rw [Nat.toList_repr]
    simp
  · intro char member
    rcases List.mem_append.1 member with zero | digit
    · rw [List.eq_of_mem_replicate zero]
      rfl
    · exact Text.isDigit_of_mem_repr digit
  · cases signed with
    | false => exact Or.inl (by simp [Text.padded, String.toList_append])
    | true => exact Or.inr (by simp [Text.padded, String.toList_append])
  · rw [Nat.ofDigitChars_append, Nat.ofDigitChars_replicate_zero, Nat.mul_zero, Nat.toList_repr,
      Nat.ofDigitChars_ten_toDigits]

inductive LineEnd
  | feed
  | returnFeed

def LineEnd.text : LineEnd → String
  | .feed => "\n"
  | .returnFeed => "\r\n"

/-- A line as someone writes it: any text that stays on its line, and an ending. -/
structure FreeLine where
  text : String
  ending : LineEnd
  unbroken : '\n' ∉ text.toList

namespace FreeLine

def join (lines : List FreeLine) : String := String.join (lines.map fun line => line.text ++ line.ending.text)

/-- A line writes a set if its words spell values of the set and all of them, in any order and any number of times. -/
def Writes (line : FreeLine) (set : ValueSet) : Prop :=
  ∃ (words : List String) (values : List Value), Text.Row words line.text.toList ∧
    List.Forall₂ (fun word value => Spells word value.toNat) words values ∧ ∀ value, value ∈ set ↔ value ∈ values

def WritesHeader (line : FreeLine) (header : Header) : Prop :=
  ∃ proposals maxLength values, Text.Row [proposals, maxLength, values] line.text.toList ∧
    Spells proposals header.proposals.toNat ∧ Spells maxLength header.maxLength.toNat ∧
    Spells values header.values.toNat

theorem unbroken_encode (line : FreeLine) : Text.lineFeed ∉ Text.encode line.text := by
  rw [Text.mem_encode_iff (by decide)]
  intro found
  obtain ⟨char, member, code⟩ := found
  obtain rfl : char = '\n' := Char.toNat_inj.1 code
  exact line.unbroken member

theorem lines_encode_join (line : FreeLine) (rest : List FreeLine) :
    ∃ kept, Text.words kept = Text.words line.text ∧
      Text.lines (Text.encode (join (line :: rest))) = Text.encode kept :: Text.lines (Text.encode (join rest)) := by
  have parts : Text.encode (join (line :: rest)) =
      Text.encode line.text ++ (Text.encode line.ending.text ++ Text.encode (join rest)) := by
    rw [join, List.map_cons, String.join_cons, Text.encode_append, Text.encode_append, List.append_assoc]
    rfl
  rw [parts]
  cases line.ending with
  | feed =>
    obtain ⟨kept, dropped, same⟩ := Text.exists_dropReturn_encode line.text
    refine ⟨kept, same, ?_⟩
    rw [← dropped]
    exact Text.lines_append_lineFeed line.unbroken_encode _
  | returnFeed => exact ⟨line.text, rfl, Text.lines_append_returnFeed line.unbroken_encode _⟩

theorem Writes.spellsSet {line : FreeLine} {set : ValueSet} (writes : line.Writes set) {kept : String}
    (same : Text.words kept = Text.words line.text) : SpellsSet (Text.encode kept) set := by
  obtain ⟨words, values, row, spelled, members⟩ := writes
  refine ⟨kept, values, Text.decode?_encode kept, ?_, members⟩
  rwa [same, Text.row_iff.1 row]

theorem WritesHeader.spellsHeader {line : FreeLine} {header : Header} (writes : line.WritesHeader header)
    {kept : String} (same : Text.words kept = Text.words line.text) : SpellsHeader (Text.encode kept) header := by
  obtain ⟨proposals, maxLength, values, row, spelled⟩ := writes
  exact ⟨kept, proposals, maxLength, values, Text.decode?_encode kept, same.trans (Text.row_iff.1 row), spelled⟩

theorem spellsSets_of_writes {rows : List FreeLine} {sets : List ValueSet} (written : List.Forall₂ Writes rows sets) :
    List.Forall₂ SpellsSet (Text.lines (Text.encode (join rows))) sets := by
  induction written with
  | nil => exact .nil
  | @cons row set rows sets writes _ ih =>
    obtain ⟨kept, same, cut⟩ := lines_encode_join row rows
    rw [cut]
    exact .cons (writes.spellsSet same) ih

end FreeLine

/-- What anyone writes is what is read: the sets line by line, and a header in front of them where there is one. -/
theorem reading_undoes_writing {rows : List FreeLine} {sets : List ValueSet}
    (written : List.Forall₂ FreeLine.Writes rows sets) :
    (∀ (fs : FileSystem) (path : Path), fs.contentOf path = .ok (Text.encode (FreeLine.join rows)) →
      DecisionLog.read fs path = .ok ⟨path, sets⟩) ∧
    ∀ (first : FreeLine) (header : Header) (fs : FileSystem) (path : Path), first.WritesHeader header →
      header.proposals.toNat < 384307168202282326 →
      fs.contentOf path = .ok (Text.encode (FreeLine.join (first :: rows))) →
      ProposalFile.read fs path =
        ⟨ProposalFile.countEvents ⟨path, header, sets⟩, .ok ⟨path, header, sets⟩⟩ := by
  have valued := FreeLine.spellsSets_of_writes written
  refine ⟨?_, ?_⟩
  · intro fs path held
    rw [DecisionLog.read_of_content held, DecisionLog.ofContent_eq_ok_iff]
    exact ⟨rfl, valued⟩
  · intro first header fs path headed fits held
    obtain ⟨kept, same, cut⟩ := FreeLine.lines_encode_join first rows
    rw [ProposalFile.read_of_content held,
      ProposalFile.ofContent_of_spelled cut (headed.spellsHeader same) valued, if_pos (le_listRoom_iff.2 fits)]

def oddHeader : FreeLine := ⟨" 0004\t+2  09 ", .returnFeed, by decide⟩

def oddLines : List FreeLine :=
  [⟨"\u00a0+007 12\u20287\r", .returnFeed, by decide⟩, ⟨"", .feed, by decide⟩, ⟨"4294967295\r", .feed, by decide⟩,
    ⟨"\x0b", .returnFeed, by decide⟩]

def oddSets : List ValueSet := [.ofList [7, 12], .ofList [], .ofList [4294967295], .ofList []]

def oddFiles : FileSystem :=
  .ofNodes [
    (Location.root.enter "odd.output", .file (Text.encode (FreeLine.join oddLines))),
    (Location.root.enter "odd.config", .file (Text.encode (FreeLine.join (oddHeader :: oddLines))))]

theorem reading_undoes_writing_odd :
    DecisionLog.read oddFiles "odd.output" = .ok ⟨"odd.output", oddSets⟩ ∧
      ProposalFile.read oddFiles "odd.config" = ⟨[], .ok ⟨"odd.config", ⟨4, 2, 9⟩, oddSets⟩⟩ := by
  have largest : Spells "4294967295" (4294967295 : Value).toNat := spells_padded false 0 4294967295
  have written : List.Forall₂ FreeLine.Writes oddLines oddSets := by
    refine .cons ?_ (.cons ?_ (.cons ?_ (.cons ?_ .nil)))
    · refine ⟨["+007", "12", "7"], [7, 12, 7], Text.row_iff.2 rfl, ?_, ?_⟩
      · exact .cons (spells_padded true 2 7) (.cons (spells_padded false 0 12) (.cons (spells_padded false 0 7) .nil))
      · intro value
        simp only [ValueSet.mem_ofList, List.mem_cons, List.not_mem_nil, or_false]
        tauto
    · exact ⟨[], [], Text.row_iff.2 rfl, .nil, fun _ => ValueSet.mem_ofList⟩
    · exact ⟨["4294967295"], [4294967295], Text.row_iff.2 rfl, .cons largest .nil, fun _ => ValueSet.mem_ofList⟩
    · exact ⟨[], [], Text.row_iff.2 rfl, .nil, fun _ => ValueSet.mem_ofList⟩
  have headed : oddHeader.WritesHeader ⟨4, 2, 9⟩ :=
    ⟨"0004", "+2", "09", Text.row_iff.2 rfl, spells_padded false 3 4, spells_padded true 0 2, spells_padded false 1 9⟩
  obtain ⟨readOutput, readConfig⟩ := reading_undoes_writing written
  exact ⟨readOutput oddFiles "odd.output" rfl,
    readConfig oddHeader ⟨4, 2, 9⟩ oddFiles "odd.config" headed (by decide) rfl⟩

end AgreementAudit

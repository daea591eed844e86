import AgreementAudit.Loading
import Mathlib.Data.List.Forall2

/-! The lines of the two kinds of files as a grammar: which words spell a number, which lines a header or a
set of values. Reading a line succeeds exactly on a line of the grammar, with what the line spells. -/
namespace AgreementAudit

open Text (Bytes)

/-- A word spells a number if it is a row of digits with that value, behind a plus sign or not. -/
def Spells (word : String) (number : Nat) : Prop :=
  ∃ digits : List Char, digits ≠ [] ∧ (∀ char ∈ digits, char.isDigit = true) ∧
    (word.toList = digits ∨ word.toList = '+' :: digits) ∧ Nat.ofDigitChars 10 digits 0 = number

/-- A line spells a header if it holds three words, one for each number. -/
def SpellsHeader (line : Bytes) (header : Header) : Prop :=
  ∃ text proposals maxLength values, Text.decode? line = some text ∧
    Text.words text = [proposals, maxLength, values] ∧ Spells proposals header.proposals.toNat ∧
    Spells maxLength header.maxLength.toNat ∧ Spells values header.values.toNat

/-- A line spells a set if each of its words spells a value and the set holds just these values. -/
def SpellsSet (line : Bytes) (set : ValueSet) : Prop :=
  ∃ (text : String) (values : List Value), Text.decode? line = some text ∧
    List.Forall₂ (fun word value => Spells word value.toNat) (Text.words text) values ∧
    ∀ value, value ∈ set ↔ value ∈ values

namespace Text

theorem natural?_eq_some_iff {word : String} {number : Nat} :
    natural? word.toList = some number ↔ Spells word number := by
  simp only [natural?, Spells]
  apply Iff.intro
  · intro found
    split at found
    next shape =>
      obtain ⟨nonempty, digits⟩ := shape
      refine ⟨unsigned word.toList, nonempty, List.all_eq_true.1 digits, ?_, Option.some.inj found⟩
      unfold unsigned
      split
      next rest signed => exact Or.inr signed
      next => exact Or.inl rfl
    next => cases found
  · intro spells
    obtain ⟨digits, nonempty, allDigits, spelled, value⟩ := spells
    have stripped : unsigned word.toList = digits := by
      rcases spelled with plain | signed
      · rw [plain, unsigned_of_isDigit allDigits]
      · rw [signed, unsigned]
    rw [stripped]
    simp only [ne_eq, nonempty, not_false_eq_true, List.all_eq_true, true_and, value]
    exact if_pos allDigits

theorem value?_eq_some_iff {word : String} {value : Value} :
    value? word = some value ↔ Spells word value.toNat := by
  unfold value?
  rw [Option.bind_eq_some_iff]
  apply Iff.intro
  · intro read
    obtain ⟨number, found, fitted⟩ := read
    split at fitted
    next fits =>
      have same : value.toNat = number := by
        rw [← Option.some.inj fitted, UInt32.toNat_ofNatLT]
      exact same ▸ natural?_eq_some_iff.1 found
    next => cases fitted
  · intro spelled
    refine ⟨value.toNat, natural?_eq_some_iff.2 spelled, ?_⟩
    rw [dif_pos value.toNat_lt_size]
    exact congrArg some (UInt32.toNat_inj.1 UInt32.toNat_ofNatLT)

theorem count?_eq_some_iff {word : String} {count : UInt64} :
    count? word = some count ↔ Spells word count.toNat := by
  unfold count?
  rw [Option.bind_eq_some_iff]
  apply Iff.intro
  · intro read
    obtain ⟨number, found, fitted⟩ := read
    split at fitted
    next fits =>
      have same : count.toNat = number := by
        rw [← Option.some.inj fitted, UInt64.toNat_ofNatLT]
      exact same ▸ natural?_eq_some_iff.1 found
    next => cases fitted
  · intro spelled
    refine ⟨count.toNat, natural?_eq_some_iff.2 spelled, ?_⟩
    rw [dif_pos count.toNat_lt_size]
    exact congrArg some (UInt64.toNat_inj.1 UInt64.toNat_ofNatLT)

end Text

section Steps

variable {Item Answer Next Fault Other : Type}

theorem bind_eq_ok_iff {first : Except Fault Answer} {next : Answer → Except Fault Next} {last : Next} :
    first >>= next = .ok last ↔ ∃ answer, first = .ok answer ∧ next answer = .ok last := by
  cases first with
  | error fault => simp [bind, Except.bind]
  | ok answer => simp [bind, Except.bind]

theorem bind_eq_error_iff {first : Except Fault Answer} {next : Answer → Except Fault Next} {fault : Fault} :
    first >>= next = .error fault ↔
      first = .error fault ∨ ∃ answer, first = .ok answer ∧ next answer = .error fault := by
  cases first with
  | error found => simp [bind, Except.bind]
  | ok answer => simp [bind, Except.bind]

theorem mapError_eq_ok_iff {result : Except Fault Answer} {change : Fault → Other} {answer : Answer} :
    result.mapError change = .ok answer ↔ result = .ok answer := by
  cases result with
  | error fault => simp [Except.mapError]
  | ok found => simp [Except.mapError]

theorem mapError_eq_error_iff {result : Except Fault Answer} {change : Fault → Other} {fault : Other} :
    result.mapError change = .error fault ↔ ∃ found, result = .error found ∧ change found = fault := by
  cases result with
  | error found => simp [Except.mapError]
  | ok answer => simp [Except.mapError]

theorem mapM_eq_ok_iff {step : Item → Except Fault Answer} {items : List Item} {answers : List Answer} :
    items.mapM step = .ok answers ↔ List.Forall₂ (fun item answer => step item = .ok answer) items answers := by
  induction items generalizing answers with
  | nil =>
    rw [List.mapM_nil, List.forall₂_nil_left_iff]
    exact ⟨fun same => (Except.ok.inj same).symm, fun same => same ▸ rfl⟩
  | cons item rest ih =>
    rw [List.mapM_cons, List.forall₂_cons_left_iff, bind_eq_ok_iff]
    apply Iff.intro
    · intro all
      obtain ⟨answer, first, later⟩ := all
      obtain ⟨others, found, same⟩ := bind_eq_ok_iff.1 later
      exact ⟨answer, others, first, ih.1 found, (Except.ok.inj same).symm⟩
    · intro each
      obtain ⟨answer, others, first, found, rfl⟩ := each
      exact ⟨answer, first, bind_eq_ok_iff.2 ⟨others, ih.2 found, rfl⟩⟩

theorem mapM_eq_error_iff {step : Item → Except Fault Answer} {items : List Item} {fault : Fault} :
    items.mapM step = .error fault ↔
      ∃ before failing after, items = before ++ failing :: after ∧
        (∀ item ∈ before, ∃ answer, step item = .ok answer) ∧ step failing = .error fault := by
  induction items with
  | nil => simp [pure, Except.pure]
  | cons item rest ih =>
    rw [List.mapM_cons, bind_eq_error_iff]
    apply Iff.intro
    · intro fails
      rcases fails with first | ⟨answer, accepted, later⟩
      · exact ⟨[], item, rest, rfl, fun _ member => absurd member List.not_mem_nil, first⟩
      rcases bind_eq_error_iff.1 later with found | ⟨answers, -, ended⟩
      · obtain ⟨before, failing, after, rfl, silent, fault⟩ := ih.1 found
        exact ⟨item :: before, failing, after, rfl, List.forall_mem_cons.2 ⟨⟨answer, accepted⟩, silent⟩, fault⟩
      · cases ended
    · intro split
      obtain ⟨before, failing, after, parts, silent, fault⟩ := split
      cases before with
      | nil =>
        obtain ⟨rfl, -⟩ := List.cons.inj parts
        exact Or.inl fault
      | cons first before =>
        obtain ⟨rfl, behind⟩ := List.cons.inj parts
        obtain ⟨⟨answer, accepted⟩, quiet⟩ := List.forall_mem_cons.1 silent
        have later := ih.2 ⟨before, failing, after, behind, quiet, fault⟩
        exact Or.inr ⟨answer, accepted, bind_eq_error_iff.2 (Or.inl later)⟩

end Steps

theorem Header.parse_eq_ok_iff {path : Path} {line : String} {header : Header} :
    Header.parse path line = .ok header ↔
      ∃ proposals maxLength values, Text.words line = [proposals, maxLength, values] ∧
        Spells proposals header.proposals.toNat ∧ Spells maxLength header.maxLength.toNat ∧
        Spells values header.values.toNat := by
  have accepted : Header.parse path line = .ok header ↔ ofWords? (Text.words line) = some header := by
    unfold parse
    split
    next found read => rw [read, Except.ok.injEq, Option.some.injEq]
    next read => simp [read]
  rw [accepted]
  apply Iff.intro
  · intro read
    unfold ofWords? at read
    split at read
    next proposals maxLength values words =>
      simp only [Option.bind_eq_bind, Option.bind_eq_some_iff] at read
      obtain ⟨first, atFirst, second, atSecond, third, atThird, same⟩ := read
      obtain rfl := Option.some.inj same
      exact ⟨proposals, maxLength, values, words, Text.count?_eq_some_iff.1 atFirst,
        Text.count?_eq_some_iff.1 atSecond, Text.value?_eq_some_iff.1 atThird⟩
    next => cases read
  · intro spelled
    obtain ⟨proposals, maxLength, values, words, atFirst, atSecond, atThird⟩ := spelled
    rw [words, ofWords?, Text.count?_eq_some_iff.2 atFirst, Text.count?_eq_some_iff.2 atSecond,
      Text.value?_eq_some_iff.2 atThird]
    rfl

theorem ValueLine.parseWord_eq_ok_iff {path : Path} {line : Nat} {word : String} {value : Value} :
    ValueLine.parseWord path line word = .ok value ↔ Spells word value.toNat := by
  rw [← Text.value?_eq_some_iff, parseWord]
  split
  next found read => rw [read, Except.ok.injEq, Option.some.injEq]
  next read => simp [read]

theorem ValueLine.parse_eq_ok_iff {path : Path} {line : Nat} {text : String} {set : ValueSet} :
    ValueLine.parse path line text = .ok set ↔
      ∃ values : List Value, List.Forall₂ (fun word value => Spells word value.toNat) (Text.words text) values ∧
        ∀ value, value ∈ set ↔ value ∈ values := by
  unfold parse parseWords
  rw [bind_eq_ok_iff]
  simp only [mapM_eq_ok_iff, parseWord_eq_ok_iff]
  apply Iff.intro
  · intro read
    obtain ⟨values, spelled, same⟩ := read
    obtain rfl := Except.ok.inj same
    exact ⟨values, spelled, fun value => ValueSet.mem_ofList⟩
  · intro found
    obtain ⟨values, spelled, members⟩ := found
    have same : ValueSet.ofList values = set := ValueSet.ext fun value => by
      rw [ValueSet.mem_ofList, members]
    exact ⟨values, spelled, congrArg Except.ok same⟩

theorem readHeader_eq_ok_iff (path : Path) {line : Bytes} {header : Header} :
    readHeader path line = .ok header ↔ SpellsHeader line header := by
  unfold readHeader SpellsHeader
  split
  next undecoded => simp [undecoded]
  next text decoded => simp [decoded, mapError_eq_ok_iff, Header.parse_eq_ok_iff]

theorem readValues_eq_ok_iff {path : Path} {numbered : Bytes × Nat} {set : ValueSet} :
    readValues path numbered = .ok set ↔ SpellsSet numbered.1 set := by
  unfold readValues SpellsSet
  split
  next undecoded => simp [undecoded]
  next text decoded => simp [decoded, mapError_eq_ok_iff, ValueLine.parse_eq_ok_iff]

theorem readSets_eq_ok_iff (path : Path) (first : Nat) {lines : List Bytes} {sets : List ValueSet} :
    readSets path first lines = .ok sets ↔ List.Forall₂ SpellsSet lines sets := by
  unfold readSets
  rw [mapM_eq_ok_iff]
  simp only [readValues_eq_ok_iff]
  conv_rhs => rw [← List.zipIdx_map_fst first lines, List.forall₂_map_left_iff]

end AgreementAudit

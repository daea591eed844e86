import AgreementAudit.Proofs.DeclaredCount
import AgreementAudit.Proofs.LineCutting
import AgreementAudit.Proofs.WordCutting

/-! What reading a log answers to any content at all. Either every line is what it has to be, or the first line that
is not decides, and nothing behind that line has a part in the answer. -/
namespace AgreementAudit

open Text (Bytes)

/-- A word spells a value if the number that it spells fits into 32 bits. -/
def SpellsValue (word : String) : Prop := ∃ number, Spells word number ∧ number < 4294967296

def IsValueLine (line : Bytes) : Prop :=
  ∃ text words, Text.decode? line = some text ∧ Text.Row words text.toList ∧ ∀ word ∈ words, SpellsValue word

/-- What there is to say about a line that is none of values. That it is no text goes before what its words are. -/
inductive LineFault (path : Path) (number : Nat) (line : Bytes) : Failure → Prop
  | notText (undecoded : Text.decode? line = none) : LineFault path number line (.refused .reading path .notText)
  | badWord {text word : String} {before after : List String} (decoded : Text.decode? line = some text)
      (row : Text.Row (before ++ word :: after) text.toList) (good : ∀ earlier ∈ before, SpellsValue earlier)
      (bad : ¬SpellsValue word) : LineFault path number line (.input (.invalidValue path number word))

/-- The fault of the first line that is none of values. The lines are numbered from the number given. -/
inductive FirstFault (path : Path) (first : Nat) : List Bytes → Failure → Prop
  | intro {before after : List Bytes} {bad : Bytes} {failure : Failure} (good : ∀ line ∈ before, IsValueLine line)
      (fault : LineFault path (first + before.length) bad failure) :
      FirstFault path first (before ++ bad :: after) failure

theorem spellsValue_iff {word : String} : SpellsValue word ↔ ∃ value : Value, Spells word value.toNat := by
  apply Iff.intro
  · intro spelled
    obtain ⟨number, spells, fits⟩ := spelled
    refine ⟨UInt32.ofNat number, ?_⟩
    rwa [UInt32.toNat_ofNat_of_lt' fits]
  · intro spelled
    obtain ⟨value, spells⟩ := spelled
    exact ⟨value.toNat, spells, value.toNat_lt⟩

theorem exists_forall₂_iff {Item Answer : Type} {related : Item → Answer → Prop} {items : List Item} :
    (∃ answers, List.Forall₂ related items answers) ↔ ∀ item ∈ items, ∃ answer, related item answer := by
  induction items with
  | nil => simp
  | cons item rest ih =>
    rw [List.forall_mem_cons, ← ih]
    simp only [List.forall₂_cons_left_iff]
    apply Iff.intro
    · intro found
      obtain ⟨-, answer, answers, first, others, -⟩ := found
      exact ⟨⟨answer, first⟩, answers, others⟩
    · intro found
      obtain ⟨⟨answer, first⟩, answers, others⟩ := found
      exact ⟨answer :: answers, answer, answers, first, others, rfl⟩

theorem isValueLine_iff {line : Bytes} : IsValueLine line ↔ ∃ set, SpellsSet line set := by
  simp only [IsValueLine, SpellsSet, spellsValue_iff, ← exists_forall₂_iff, Text.row_iff]
  apply Iff.intro
  · intro good
    obtain ⟨text, words, decoded, rfl, values, spelled⟩ := good
    exact ⟨.ofList values, text, values, decoded, spelled, fun _ => ValueSet.mem_ofList⟩
  · intro good
    obtain ⟨-, text, values, decoded, spelled, -⟩ := good
    exact ⟨text, Text.words text, decoded, rfl, values, spelled⟩

theorem ValueLine.parseWord_eq_error_iff {path : Path} {number : Nat} {word : String} {error : InputError} :
    ValueLine.parseWord path number word = .error error ↔
      ¬SpellsValue word ∧ error = .invalidValue path number word := by
  simp only [spellsValue_iff, ← Text.value?_eq_some_iff]
  unfold parseWord
  split
  next found read => simp [read]
  next read => simp [read, eq_comm]

theorem ValueLine.parse_eq_error_iff {path : Path} {number : Nat} {text : String} {error : InputError} :
    ValueLine.parse path number text = .error error ↔
      ∃ before word after, Text.words text = before ++ word :: after ∧ (∀ earlier ∈ before, SpellsValue earlier) ∧
        ¬SpellsValue word ∧ error = .invalidValue path number word := by
  have noLater : ∀ values : List Value,
      (pure (ValueSet.ofList values) : Except InputError ValueSet) ≠ .error error := fun _ made => nomatch made
  unfold parse parseWords
  rw [bind_eq_error_iff]
  simp only [noLater, and_false, exists_false, or_false, mapM_eq_error_iff, parseWord_eq_ok_iff,
    parseWord_eq_error_iff, ← spellsValue_iff]

theorem readValues_eq_error_iff {path : Path} {line : Bytes} {number : Nat} {failure : Failure} :
    readValues path (line, number) = .error failure ↔ LineFault path number line failure := by
  unfold readValues
  dsimp only
  split
  next undecoded =>
    apply Iff.intro
    · intro refused
      obtain rfl := Except.error.inj refused
      exact .notText undecoded
    · intro fault
      cases fault with
      | notText => rfl
      | badWord decoded => cases undecoded.symm.trans decoded
  next text decoded =>
    rw [mapError_eq_error_iff]
    simp only [ValueLine.parse_eq_error_iff]
    apply Iff.intro
    · intro fails
      obtain ⟨_, ⟨before, word, after, split, good, bad, rfl⟩, rfl⟩ := fails
      exact .badWord decoded (Text.row_iff.2 split) good bad
    · intro fault
      cases fault with
      | notText undecoded => cases undecoded.symm.trans decoded
      | badWord sameDecoded row good bad =>
        obtain rfl := Option.some.inj (sameDecoded.symm.trans decoded)
        exact ⟨_, ⟨_, _, _, Text.row_iff.1 row, good, bad, rfl⟩, rfl⟩

theorem readSets_eq_error_iff {path : Path} {first : Nat} {lines : List Bytes} {failure : Failure} :
    readSets path first lines = .error failure ↔ FirstFault path first lines failure := by
  have accepts (before : List Bytes) :
      (∀ numbered ∈ before.zipIdx first, ∃ set, readValues path numbered = .ok set) ↔
        ∀ line ∈ before, IsValueLine line := by
    simp only [readValues_eq_ok_iff, ← isValueLine_iff]
    conv_rhs => rw [← List.zipIdx_map_fst first before, List.forall_mem_map]
  unfold readSets
  rw [mapM_eq_error_iff]
  apply Iff.intro
  · intro fails
    obtain ⟨_, ⟨bad, number⟩, _, split, silent, fault⟩ := fails
    obtain ⟨before, behind, rfl, rfl, rest⟩ := List.zipIdx_eq_append_iff.1 split
    obtain ⟨_, after, rfl, same, -⟩ := List.zipIdx_eq_cons_iff.1 rest.symm
    obtain ⟨rfl, rfl⟩ := Prod.mk.inj same
    exact .intro ((accepts before).1 silent) (readValues_eq_error_iff.1 fault)
  · intro found
    cases found with
    | @intro before after bad _ good fault =>
      refine ⟨before.zipIdx first, (bad, first + before.length), after.zipIdx (first + before.length + 1), ?_,
        (accepts before).2 good, readValues_eq_error_iff.2 fault⟩
      rw [List.zipIdx_append, List.zipIdx_cons]

theorem readSets_append_bad {bad : Bytes} (spoiled : ¬IsValueLine bad) (path : Path) (first : Nat)
    (before after later : List Bytes) :
    readSets path first (before ++ bad :: after) = readSets path first (before ++ bad :: later) := by
  obtain ⟨failure, fails⟩ : ∃ failure, readValues path (bad, first + before.length) = .error failure := by
    cases read : readValues path (bad, first + before.length) with
    | error failure => exact ⟨failure, rfl⟩
    | ok set => exact absurd (isValueLine_iff.2 ⟨set, readValues_eq_ok_iff.1 read⟩) spoiled
  unfold readSets
  rw [List.zipIdx_append, List.zipIdx_append, List.zipIdx_cons, List.zipIdx_cons, List.mapM_append, List.mapM_append,
    List.mapM_cons, List.mapM_cons, fails]
  rfl

end AgreementAudit

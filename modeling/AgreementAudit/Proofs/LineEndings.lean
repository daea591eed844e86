import AgreementAudit.Proofs.FreeWriting

/-! Line endings carry no meaning. One more carriage return in front of each line feed either belongs to the ending of its
line or stays as a blank at the end of the line, and such a blank changes neither whether a line is text nor its words nor
what is shown of a malformed header. -/
namespace AgreementAudit

namespace Text

/-- A carriage return more in front of each line feed, also where one is already. -/
def putReturns (content : Bytes) : Bytes :=
  content.flatMap fun byte => if byte = lineFeed then [carriageReturn, lineFeed] else [byte]

theorem putReturns_of_unbroken {line : Bytes} (unbroken : lineFeed ∉ line) : putReturns line = line := by
  induction line with
  | nil => rfl
  | cons byte rest ih =>
    rw [List.mem_cons, not_or] at unbroken
    rw [putReturns, List.flatMap_cons, if_neg (Ne.symm unbroken.1)]
    exact congrArg (byte :: ·) (ih unbroken.2)

theorem putReturns_append (left right : Bytes) : putReturns (left ++ right) = putReturns left ++ putReturns right :=
  List.flatMap_append

theorem putReturns_append_lineFeed {line : Bytes} (unbroken : lineFeed ∉ line) (rest : Bytes) :
    putReturns (line ++ lineFeed :: rest) = line ++ carriageReturn :: lineFeed :: putReturns rest := by
  rw [putReturns_append, putReturns_of_unbroken unbroken, putReturns, List.flatMap_cons, if_pos rfl]
  rfl

/-- The same line, or the line with a carriage return left at its end. -/
def Returned (line other : Bytes) : Prop := other = line ∨ other = line ++ [carriageReturn]

theorem Cut.returned {content : Bytes} {found : List Bytes} (cut : Cut content found) :
    List.Forall₂ Returned found (lines (putReturns content)) := by
  induction cut with
  | nothing => exact .nil
  | unended unbroken nonempty =>
    rw [putReturns_of_unbroken unbroken, lines_unended unbroken nonempty]
    exact .cons (Or.inl rfl) .nil
  | feed unbroken noReturn more ih =>
    rw [putReturns_append_lineFeed unbroken, lines_append_returnFeed unbroken]
    exact .cons (Or.inl rfl) ih
  | @returnFeed line rest others unbroken more ih =>
    have unbrokenToo : lineFeed ∉ line ++ [carriageReturn] := by
      rw [List.mem_append, List.mem_singleton, not_or]
      exact ⟨unbroken, by decide⟩
    rw [List.append_cons line carriageReturn, putReturns_append_lineFeed unbrokenToo,
      lines_append_returnFeed unbrokenToo]
    exact .cons (Or.inr rfl) ih

theorem decode?_eq_some_iff {bytes : Bytes} {text : String} : decode? bytes = some text ↔ bytes = encode text := by
  apply Iff.intro
  · intro decoded
    unfold decode? String.fromUTF8? at decoded
    split at decoded
    next valid =>
      obtain rfl := Option.some.inj decoded
      rfl
    next invalid => cases decoded
  · intro same
    rw [same, decode?_encode]

theorem decode?_append_return (line : Bytes) :
    decode? (line ++ [carriageReturn]) = (decode? line).map (· ++ "\r") := by
  have returned (text : String) : encode (text ++ "\r") = encode text ++ [carriageReturn] := encode_append text "\r"
  cases decoded : decode? line with
  | some text =>
    rw [decode?_eq_some_iff.1 decoded, ← returned]
    exact decode?_encode _
  | none =>
    rw [Option.map_none, Option.eq_none_iff_forall_ne_some]
    intro whole found
    have spelled := decode?_eq_some_iff.1 found
    obtain ⟨kept, rfl⟩ : ∃ kept, whole = kept ++ "\r" := by
      apply exists_append_return
      rw [← spelled, List.getLast?_concat]
    rw [returned] at spelled
    have same : decode? line = some kept := decode?_eq_some_iff.2 (List.append_cancel_right spelled)
    cases decoded.symm.trans same

theorem words_append_return (text : String) : words (text ++ "\r") = words text :=
  words_append_blank rfl (by decide) text

theorem trimEnd_append_return (text : String) : trimEnd (text ++ "\r") = trimEnd text := by
  have split : (text ++ "\r").toList = text.toList ++ ['\r'] := String.toList_append
  unfold trimEnd dropBlanksBehind
  rw [split, List.reverse_append, List.reverse_singleton, List.singleton_append, List.dropWhile_cons_of_pos (by decide)]

end Text

open Text (Bytes Returned carriageReturn)

variable {path : Path} {line other : Bytes} {lines others : List Bytes}

theorem readValues_append_return (path : Path) (line : Bytes) (number : Nat) :
    readValues path (line ++ [carriageReturn], number) = readValues path (line, number) := by
  unfold readValues
  dsimp only
  rw [Text.decode?_append_return]
  cases Text.decode? line with
  | none => rfl
  | some text => simp only [Option.map_some, ValueLine.parse, ValueLine.parseWords, Text.words_append_return]

theorem readHeader_append_return (path : Path) (line : Bytes) :
    readHeader path (line ++ [carriageReturn]) = readHeader path line := by
  unfold readHeader
  rw [Text.decode?_append_return]
  cases Text.decode? line with
  | none => rfl
  | some text => simp only [Option.map_some, Header.parse, Text.words_append_return, Text.trimEnd_append_return]

theorem readValues_of_returned (returned : Returned line other) (path : Path) (number : Nat) :
    readValues path (other, number) = readValues path (line, number) := by
  rcases returned with rfl | rfl
  · rfl
  · exact readValues_append_return path line number

theorem readHeader_of_returned (returned : Returned line other) (path : Path) :
    readHeader path other = readHeader path line := by
  rcases returned with rfl | rfl
  · rfl
  · exact readHeader_append_return path line

theorem readSets_of_returned (returned : List.Forall₂ Returned lines others) (path : Path) (first : Nat) :
    readSets path first others = readSets path first lines := by
  unfold readSets
  induction returned generalizing first with
  | nil => rfl
  | cons head _ ih =>
    rw [List.zipIdx_cons, List.zipIdx_cons, List.mapM_cons, List.mapM_cons, readValues_of_returned head, ih]

theorem ProposalFile.ofLines_of_returned (returned : List.Forall₂ Returned lines others) (path : Path) :
    ofLines path others = ofLines path lines := by
  cases returned with
  | nil => rfl
  | cons head rest => rw [ofLines, ofLines, readHeader_of_returned head, readSets_of_returned rest]

/-- A file reads the same, with its faults and warnings, when each of its line feeds gets one more carriage return. -/
theorem reading_ignores_returns {fs otherFiles : FileSystem} {path : Path} {content : Bytes}
    (held : fs.contentOf path = .ok content) (otherHeld : otherFiles.contentOf path = .ok (Text.putReturns content)) :
    ProposalFile.read otherFiles path = ProposalFile.read fs path ∧
      DecisionLog.read otherFiles path = DecisionLog.read fs path := by
  have returned := (Text.cut_lines content).returned
  refine ⟨?_, ?_⟩
  · rw [ProposalFile.read_of_content held, ProposalFile.read_of_content otherHeld, ProposalFile.ofContent,
      ProposalFile.ofContent, ProposalFile.ofLines_of_returned returned]
  · rw [DecisionLog.read_of_content held, DecisionLog.read_of_content otherHeld, DecisionLog.ofContent,
      DecisionLog.ofContent, readSets_of_returned returned]

def returnFiles (change : Bytes → Bytes) : FileSystem :=
  .ofNodes [
    (Location.root.enter "bare.config", .file (change (Text.encode "2 3 \r\r\nx\n"))),
    (Location.root.enter "half.output", .file (change (Text.encode "4 \r\n" ++ [0xC3, 0x0A]))),
    (Location.root.enter "odd.config", .file (change (Text.encode "3 2 9\r\n0\r1\n\n4\r")))]

theorem reading_ignores_returns_odd :
    ProposalFile.read (returnFiles Text.putReturns) "bare.config" =
        .fail (.input (.malformedHeader "bare.config" "2 3")) ∧
      DecisionLog.read (returnFiles Text.putReturns) "half.output" =
        .error (.refused .reading "half.output" .notText) ∧
      ProposalFile.read (returnFiles Text.putReturns) "odd.config" =
        ProposalFile.read (returnFiles id) "odd.config" ∧
      DecisionLog.read (returnFiles Text.putReturns) "odd.config" =
        .ok ⟨"odd.config", [.ofList [2, 3, 9], .ofList [0, 1], .ofList [], .ofList [4]]⟩ := by
  have same (path : Path) (content : Bytes) (held : (returnFiles id).contentOf path = .ok content)
      (otherHeld : (returnFiles Text.putReturns).contentOf path = .ok (Text.putReturns content)) :=
    reading_ignores_returns held otherHeld
  have bare := same "bare.config" (Text.encode "2 3 \r\r\nx\n") rfl rfl
  have half := same "half.output" (Text.encode "4 \r\n" ++ [0xC3, 0x0A]) rfl rfl
  have odd := same "odd.config" (Text.encode "3 2 9\r\n0\r1\n\n4\r") rfl rfl
  exact ⟨bare.1, half.2, odd.1, odd.2⟩

end AgreementAudit

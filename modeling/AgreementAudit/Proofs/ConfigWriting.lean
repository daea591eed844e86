import AgreementAudit.Generator
import AgreementAudit.Proofs.BufferedWriting

/-! What writing one config file leaves. The file holds the header and the proposals drawn for it, or, if the draws or
the writes come to an end too early, a beginning of what was to be written. -/
namespace AgreementAudit

open FileSystem (ChangesContent)
open Text (Bytes)
open Writer (Writes)

variable {State : Type} {sampler : Sampler State} {parameters : GeneratorParameters} {header : Header}
  {path : Path} {fs created : FileSystem} {state next last : State} {values : UInt32} {maxLength : UInt64}
  {number count : Nat}

theorem drawProposals_cons {proposal : List Value} {proposals : List (List Value)}
    (first : drawProposal sampler values maxLength state = .ok (proposal, next))
    (others : drawProposals sampler values maxLength count next = .ok (proposals, last)) :
    drawProposals sampler values maxLength (count + 1) state = .ok (proposal :: proposals, last) := by
  rw [drawProposals, first]
  change (drawProposals sampler values maxLength count next >>= fun _ => _) = _
  rw [others]
  rfl

def proposalLines (proposals : List (List Value)) : Bytes :=
  Text.encode (Text.endLines (proposals.map ValueLine.render))

theorem proposalLines_cons (proposal : List Value) (proposals : List (List Value)) :
    proposalLines (proposal :: proposals) =
      (Text.encode (ValueLine.render proposal) ++ [Text.lineFeed]) ++ proposalLines proposals := by
  rw [proposalLines, List.map_cons, Text.encode_endLines_cons, List.append_assoc]
  rfl

theorem encode_configText (header : Header) (proposals : List (List Value)) :
    Text.encode (configText header proposals) =
      (Text.encode header.render ++ [Text.lineFeed]) ++ proposalLines proposals := by
  rw [configText, Text.encode_endLines_cons, List.append_assoc]
  rfl

/-- How writing so many proposals ends: all of them are drawn and written, or a write of those drawn is refused, or
they cannot all be drawn. -/
inductive WritesProposals (sampler : Sampler State) (values : UInt32) (maxLength : UInt64) (count : Nat) (state : State)
    (before after : Writer) : Except Failure State → Prop
  | whole {proposals : List (List Value)} {last : State}
      (drawn : drawProposals sampler values maxLength count state = .ok (proposals, last))
      (writes : Writes (proposalLines proposals) before after (.ok ())) :
      WritesProposals sampler values maxLength count state before after (.ok last)
  | broken {made : Nat} {proposals : List (List Value)} {next : State} {refusal : Refusal} (few : made ≤ count)
      (drawn : drawProposals sampler values maxLength made state = .ok (proposals, next))
      (writes : Writes (proposalLines proposals) before after (.error refusal)) :
      WritesProposals sampler values maxLength count state before after (.error (.unwritten refusal))
  | undrawn {made : Nat} {proposals : List (List Value)} {next : State} {failure : Failure} (few : made ≤ count)
      (drawn : drawProposals sampler values maxLength made state = .ok (proposals, next))
      (fails : drawProposals sampler values maxLength count state = .error failure)
      (writes : Writes (proposalLines proposals) before after (.ok ())) :
      WritesProposals sampler values maxLength count state before after (.error failure)

theorem WritesProposals.cons {before middle after : Writer} {proposal : List Value} {result : Except Failure State}
    (first : drawProposal sampler values maxLength state = .ok (proposal, next))
    (line : Writes (Text.encode (ValueLine.render proposal) ++ [Text.lineFeed]) before middle (.ok ()))
    (others : WritesProposals sampler values maxLength count next middle after result) :
    WritesProposals sampler values maxLength (count + 1) state before after result := by
  cases others with
  | whole drawn writes =>
    refine .whole (drawProposals_cons first drawn) ?_
    rw [proposalLines_cons]
    exact line.trans writes
  | broken few drawn writes =>
    refine .broken (Nat.succ_le_succ few) (drawProposals_cons first drawn) ?_
    rw [proposalLines_cons]
    exact line.trans writes
  | undrawn few drawn fails writes =>
    refine .undrawn (Nat.succ_le_succ few) (drawProposals_cons first drawn) ?_ ?_
    · rw [drawProposals, first]
      change (drawProposals sampler values maxLength count next >>= fun _ => _) = _
      rw [fails]
      rfl
    · rw [proposalLines_cons]
      exact line.trans writes

theorem writesProposals (sampler : Sampler State) (values : UInt32) (maxLength : UInt64) (count : Nat)
    (writer : Writer) (state : State) :
    WritesProposals sampler values maxLength count state writer
      (writeProposals sampler values maxLength count writer state).1
      (writeProposals sampler values maxLength count writer state).2 := by
  -- The writer and the sampler state are handed on from line to line, so both vary in the induction.
  induction count generalizing writer state with
  | zero => exact .whole rfl (.refl writer)
  | succ count ih =>
    unfold writeProposals
    split
    next failure fails =>
      refine .undrawn (Nat.zero_le _) rfl ?_ (.refl writer)
      rw [drawProposals, fails]
      rfl
    next proposal next drawn =>
      have line := writer.writes_writeLine (ValueLine.render proposal)
      split
      next stopped refusal refused =>
        rw [refused] at line
        refine .broken (Nat.succ_le_succ (Nat.zero_le count)) (drawProposals_cons drawn rfl) ?_
        rw [proposalLines_cons]
        exact line.stop _
      next written done =>
        rw [done] at line
        exact (ih written next).cons drawn line

/-- What a file may hold when it could not be finished: the header and so many of the proposals drawn for it, not
always up to the end. -/
def IsBeginning (sampler : Sampler State) (header : Header) (state : State) (content : Bytes) : Prop :=
  ∃ made proposals next, made ≤ header.proposals.toNat ∧
    drawProposals sampler header.values header.maxLength made state = .ok (proposals, next) ∧
    content <+: Text.encode (configText header proposals)

/-- A write was refused, either the last one, which is told with the path of the file, or one before it. -/
inductive Failure.OfWriting (path : Path) : Failure → Prop
  | last (refusal : Refusal) : OfWriting path (.refused .writing path refusal)
  | earlier (refusal : Refusal) : OfWriting path (.unwritten refusal)

/-- How filling a file ends, and what the file holds then. Writes are refused only by a storage with shortfalls. -/
inductive ConfigEnd (parameters : GeneratorParameters) (sampler : Sampler State) (path : Path) (state : State)
    (created : FileSystem) (content : Bytes) : Except Failure State → Prop
  | whole {proposals : List (List Value)} {last : State}
      (drawn : drawProposals sampler parameters.header.values parameters.header.maxLength
        parameters.header.proposals.toNat state = .ok (proposals, last))
      (holds : content = Text.encode (configText parameters.header proposals)) :
      ConfigEnd parameters sampler path state created content (.ok last)
  | broken {failure : Failure} (writing : failure.OfWriting path) (unsteady : ¬created.Steady)
      (begins : IsBeginning sampler parameters.header state content) :
      ConfigEnd parameters sampler path state created content (.error failure)
  | undrawn {failure : Failure}
      (fails : drawProposals sampler parameters.header.values parameters.header.maxLength
        parameters.header.proposals.toNat state = .error failure)
      (begins : IsBeginning sampler parameters.header state content) :
      ConfigEnd parameters sampler path state created content (.error failure)

theorem isBeginning_of_writes {writer final : Writer} {result : Except Refusal Unit} {made : Nat}
    {proposals : List (List Value)} (empty : writer.sent = []) (few : made ≤ header.proposals.toNat)
    (drawn : drawProposals sampler header.values header.maxLength made state = .ok (proposals, next))
    (writes : Writes (Text.encode (configText header proposals)) writer final result) :
    IsBeginning sampler header state (final.close.contents writer.number) := by
  refine ⟨made, proposals, next, few, drawn, ?_⟩
  have sent := writes.beginning
  rw [empty, List.nil_append] at sent
  exact writes.number ▸ (final.close_spec.2.1.trans sent)

namespace GeneratorParameters

theorem fill_spec (parameters : GeneratorParameters) (sampler : Sampler State) (path : Path) {writer : Writer}
    (state : State) (empty : writer.sent = []) :
    let filled := parameters.fill sampler path writer state
    ChangesContent writer.number writer.files filled.1.close ∧
      ConfigEnd parameters sampler path state writer.files (filled.1.close.contents writer.number) filled.2 := by
  have header := writer.writes_writeLine parameters.header.render
  dsimp only
  unfold fill
  dsimp only
  split
  next stopped refusal refused =>
    rw [refused] at header
    have writes : Writes (Text.encode (configText parameters.header [])) writer stopped (.error refusal) := by
      rw [encode_configText]
      exact header.stop _
    exact ⟨writes.closed, .broken (.earlier refusal) writes.unsteady
      (isBeginning_of_writes empty (Nat.zero_le _) rfl writes)⟩
  next titled done =>
    rw [done] at header
    have ends := writesProposals sampler parameters.header.values parameters.header.maxLength
      parameters.header.proposals.toNat titled state
    have whole {proposals : List (List Value)} {final : Writer} {result : Except Refusal Unit}
        (writes : Writes (proposalLines proposals) titled final result) :
        Writes (Text.encode (configText parameters.header proposals)) writer final result := by
      rw [encode_configText]
      exact header.trans writes
    split
    next stopped failure failed =>
      rw [failed] at ends
      cases ends with
      | broken few drawn writes =>
        exact ⟨(whole writes).closed, .broken (.earlier _) (whole writes).unsteady
          (isBeginning_of_writes empty few drawn (whole writes))⟩
      | undrawn few drawn fails writes =>
        exact ⟨(whole writes).closed, .undrawn fails (isBeginning_of_writes empty few drawn (whole writes))⟩
    next filled last succeeded =>
      rw [succeeded] at ends
      cases ends with
      | whole drawn writes =>
        have flush := filled.writes_flush
        split
        next stopped refusal refused =>
          rw [refused] at flush
          have writes := List.append_nil _ ▸ (whole writes).trans flush
          exact ⟨writes.closed, .broken (.last refusal) writes.unsteady
            (isBeginning_of_writes empty (Nat.le_refl _) drawn writes)⟩
        next flushed finished =>
          rw [finished] at flush
          have writes := List.append_nil _ ▸ (whole writes).trans flush
          have sent := writes.whole rfl
          rw [empty, List.nil_append] at sent
          refine ⟨writes.closed, .whole drawn ?_⟩
          rw [← sent, ← writes.number]
          exact flushed.close_spec.2.2 (Writer.waiting_of_flush finished)

theorem writeConfig_of_refused {refusal : Refusal} (refused : fs.create path = .error refusal) :
    parameters.writeConfig sampler path fs state = (fs, .error (.refused .creating path refusal)) := by
  unfold writeConfig
  rw [refused]

theorem writeConfig_of_created (parameters : GeneratorParameters) (sampler : Sampler State) (state : State)
    (opened : fs.create path = .ok (number, created)) :
    let outcome := parameters.writeConfig sampler path fs state
    ChangesContent number created outcome.1 ∧
      ConfigEnd parameters sampler path state created (outcome.1.contents number) outcome.2 := by
  have empty : Writer.sent { files := created, number, waiting := [] } = [] := by
    rw [Writer.sent, List.append_nil]
    exact (FileSystem.opens_of_create opened).emptied
  have filled := parameters.fill_spec sampler path state empty
  dsimp only at filled ⊢
  unfold writeConfig
  rw [opened]
  dsimp only
  generalize parameters.fill sampler path { files := created, number, waiting := [] } state = outcome at filled ⊢
  exact filled

end GeneratorParameters

end AgreementAudit

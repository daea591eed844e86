import AgreementAudit.Proofs.Touching
import AgreementAudit.Writer

/-! Writing through a buffer. What the file holds, with what waits behind it, is the text so far, or a beginning of it
once something has been refused. No other file is touched, and a storage without shortfalls refuses nothing. -/
namespace AgreementAudit

open FileSystem (ChangesContent)
open Text (Bytes)

/-- The storage does all writes as a whole. -/
def FileSystem.Steady (fs : FileSystem) : Prop := ∀ answer ∈ fs.answers, answer = none

theorem FileSystem.ChangesContent.steady {number : Nat} {before after : FileSystem}
    (change : ChangesContent number before after) (steady : before.Steady) : after.Steady :=
  fun answer member => steady answer (change.answers member)

theorem FileSystem.Steady.not_shortfall {fs : FileSystem} {shortfall : Shortfall} (steady : fs.Steady) :
    some shortfall ∉ fs.answers := by
  intro answered
  cases steady _ answered

namespace Writer

variable {before after middle : Writer} {text more : Bytes} {result : Except Refusal Unit}

/-- What the file holds and what it is still to get. -/
def sent (writer : Writer) : Bytes := writer.files.contents writer.number ++ writer.waiting

/-- What taking a text does: all of it comes behind what was sent before, or, if something is refused, a beginning. -/
structure Writes (text : Bytes) (before after : Writer) (result : Except Refusal Unit) : Prop where
  number : after.number = before.number
  change : ChangesContent before.number before.files after.files
  beginning : after.sent <+: before.sent ++ text
  whole : result = .ok () → after.sent = before.sent ++ text
  steady : before.files.Steady → result = .ok ()

theorem Writes.refl (writer : Writer) : Writes [] writer writer (.ok ()) := by
  have same : writer.sent = writer.sent ++ [] := (List.append_nil _).symm
  exact ⟨rfl, .refl _ _, same ▸ List.prefix_rfl, fun _ => same, fun _ => rfl⟩

theorem Writes.trans (first : Writes text before middle (.ok ())) (second : Writes more middle after result) :
    Writes (text ++ more) before after result := by
  have total : middle.sent ++ more = before.sent ++ (text ++ more) := by
    rw [first.whole rfl, List.append_assoc]
  refine ⟨second.number.trans first.number, first.change.trans (first.number ▸ second.change), ?_, ?_, ?_⟩
  · exact total ▸ second.beginning
  · exact fun succeeded => (second.whole succeeded).trans total
  · exact fun steady => second.steady (first.change.steady steady)

theorem Writes.stop {refusal : Refusal} (stopped : Writes text before after (.error refusal)) (more : Bytes) :
    Writes (text ++ more) before after (.error refusal) := by
  refine ⟨stopped.number, stopped.change, ?_, nofun, fun steady => nomatch stopped.steady steady⟩
  rw [← List.append_assoc]
  exact stopped.beginning.trans (List.prefix_append _ _)

theorem Writes.andThen {step : Writer × Except Refusal Unit} {next : Writer → Writer × Except Refusal Unit}
    (first : Writes text before step.1 step.2)
    (later : ∀ writer, step = (writer, .ok ()) → Writes more writer (next writer).1 (next writer).2) :
    Writes (text ++ more) before (step |> Writer.andThen next).1 (step |> Writer.andThen next).2 := by
  obtain ⟨writer, result⟩ := step
  cases result with
  | error refusal => exact first.stop more
  | ok => exact first.trans (later writer rfl)

theorem writes_flush (writer : Writer) : Writes [] writer writer.flush.1 writer.flush.2 := by
  have appends := writer.files.appends_of_append writer.number writer.waiting
  unfold flush
  generalize writer.files.append writer.number writer.waiting = outcome at appends ⊢
  obtain ⟨files, result⟩ := outcome
  cases appends with
  | whole change holds =>
    have total : files.contents writer.number ++ [] = writer.sent ++ [] := by rw [holds, sent]
    exact ⟨rfl, change, total ▸ List.prefix_rfl, fun _ => total, fun _ => rfl⟩
  | @part shortfall change holds answered =>
    have total : files.contents writer.number ++ writer.waiting.drop shortfall.taken = writer.sent ++ [] := by
      rw [holds, List.append_assoc, List.take_append_drop, List.append_nil, sent]
    exact ⟨rfl, change, total ▸ List.prefix_rfl, nofun, fun steady => absurd answered steady.not_shortfall⟩

theorem waiting_of_flush {writer : Writer} (flushed : writer.flush = (after, .ok ())) : after.waiting = [] := by
  unfold flush at flushed
  split at flushed
  next files whole =>
    obtain ⟨rfl, -⟩ := Prod.mk.inj flushed
    rfl
  next files shortfall part => cases (Prod.mk.inj flushed).2

theorem writes_accept {writer : Writer} {piece : Bytes} (free : capacity ≤ piece.length → writer.waiting = []) :
    Writes piece writer (writer.accept piece).1 (writer.accept piece).2 := by
  unfold accept
  split
  next short =>
    have total : writer.files.contents writer.number ++ (writer.waiting ++ piece) = writer.sent ++ piece :=
      (List.append_assoc ..).symm
    exact ⟨rfl, .refl _ _, total ▸ List.prefix_rfl, fun _ => total, fun _ => rfl⟩
  next long =>
    have empty := free (Nat.not_lt.1 long)
    have appends := writer.files.appends_of_append writer.number piece
    generalize writer.files.append writer.number piece = outcome at appends ⊢
    obtain ⟨files, result⟩ := outcome
    cases appends with
    | whole change holds =>
      have total : files.contents writer.number ++ writer.waiting = writer.sent ++ piece := by
        rw [holds, sent, empty, List.append_nil, List.append_nil]
      exact ⟨rfl, change, total ▸ List.prefix_rfl, fun _ => total, fun _ => rfl⟩
    | @part shortfall change holds answered =>
      have total : files.contents writer.number ++ writer.waiting = writer.sent ++ piece.take shortfall.taken := by
        rw [holds, sent, empty, List.append_nil, List.append_nil]
      have beginning : files.contents writer.number ++ writer.waiting <+: writer.sent ++ piece :=
        total ▸ (List.prefix_append_right_inj _).2 (List.take_prefix _ _)
      exact ⟨rfl, change, beginning, nofun, fun steady => absurd answered steady.not_shortfall⟩

theorem writes_write (writer : Writer) (piece : Bytes) :
    Writes piece writer (writer.write piece).1 (writer.write piece).2 := by
  unfold write
  split
  next full =>
    refine (writes_flush writer).andThen ?_
    intro flushed done
    exact writes_accept fun _ => waiting_of_flush done
  next room =>
    refine writes_accept fun long => List.length_eq_zero_iff.1 ?_
    omega

theorem writes_writeLine (writer : Writer) (line : String) :
    Writes (Text.encode line ++ [Text.lineFeed]) writer (writer.writeLine line).1 (writer.writeLine line).2 :=
  (writer.writes_write (Text.encode line)).andThen fun next _ => next.writes_write [Text.lineFeed]

theorem close_spec (writer : Writer) :
    ChangesContent writer.number writer.files writer.close ∧
      writer.close.contents writer.number <+: writer.sent ∧
      (writer.waiting = [] → writer.close.contents writer.number = writer.sent) := by
  have writes := writer.writes_flush
  have held : writer.close.contents writer.number <+: writer.flush.1.sent := by
    unfold sent
    rw [writes.number]
    exact List.prefix_append _ _
  have all : writer.flush.1.sent <+: writer.sent := by simpa using writes.beginning
  refine ⟨writes.change, held.trans all, ?_⟩
  intro empty
  have nothing : writer.close = writer.files := by
    unfold close flush FileSystem.append
    rw [empty]
    rfl
  rw [nothing, sent, empty, List.append_nil]

theorem Writes.closed (writes : Writes text before after result) :
    ChangesContent before.number before.files after.close :=
  writes.change.trans (writes.number ▸ after.close_spec.1)

theorem Writes.unsteady {refusal : Refusal} (writes : Writes text before after (.error refusal)) :
    ¬before.files.Steady :=
  fun steady => nomatch writes.steady steady

end Writer

end AgreementAudit

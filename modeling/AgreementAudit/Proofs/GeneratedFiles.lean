import AgreementAudit.Proofs.Generation
import AgreementAudit.Proofs.Inclusion
import AgreementAudit.Proofs.Readback
import AgreementAudit.Proofs.Tracing
import Mathlib.Data.List.Nodup

/-! What a fair sampler makes of accepted parameters. Every draw can be made, so only the file system can stop a
generation, and what was drawn for a process is what its file holds and what reading the file gives. -/
namespace AgreementAudit

variable {State : Type} {sampler : Sampler State} {parameters : GeneratorParameters} {header : Header}
  {directory path : Path} {fs : FileSystem} {state : State}

/-- A proposal as a sampler draws it. The numbers drawn are its values, no two of them the same; there is one at least,
and there are not too many. -/
structure Drawn (sampler : Sampler State) (values : Value) (maxLength : Nat) (proposal : List Value) : Prop where
  numbers : ∃ count before between, sampler.upTo maxLength before = (count, between) ∧
    proposal.map UInt32.toNat = (sampler.distinct values.toNat count between).1
  nonempty : 1 ≤ proposal.length
  short : proposal.length ≤ maxLength
  distinct : proposal.Nodup
  below : ∀ value ∈ proposal, value < values

section Draws

variable {values : Value} {maxLength : UInt64}

theorem map_toNat_map_ofNat {numbers : List Nat} (below : ∀ number ∈ numbers, number < values.toNat) :
    (numbers.map UInt32.ofNat).map UInt32.toNat = numbers := by
  rw [List.map_map]
  refine (List.map_congr_left ?_).trans (List.map_id numbers)
  intro number member
  exact UInt32.toNat_ofNat_of_lt' (Nat.lt_trans (below number member) values.toNat_lt)

theorem drawn_of_fair (fair : sampler.Fair) {maxLength count : Nat} {before between : State} (positive : 0 < maxLength)
    (fits : maxLength ≤ values.toNat) (length : sampler.upTo maxLength before = (count, between)) :
    Drawn sampler values maxLength ((sampler.distinct values.toNat count between).1.map UInt32.ofNat) := by
  obtain ⟨nonempty, short⟩ := fair.upTo_range maxLength before positive
  rw [length] at nonempty short
  have enough : count ≤ values.toNat := Nat.le_trans short fits
  have counted := fair.distinct_length values.toNat count between enough
  have below := fair.distinct_below values.toNat count between enough
  have same := map_toNat_map_ofNat below
  refine ⟨⟨count, before, between, length, same⟩, ?_, ?_, ?_, ?_⟩
  · rw [List.length_map, counted]
    exact nonempty
  · rw [List.length_map, counted]
    exact short
  · apply List.Nodup.of_map UInt32.toNat
    rw [same]
    exact fair.distinct_nodup values.toNat count between enough
  · intro value member
    have listed := List.mem_map_of_mem (f := UInt32.toNat) member
    rw [same] at listed
    exact below _ listed

theorem drawProposal_eq_ok (fair : sampler.Fair) (positive : 0 < maxLength.toNat)
    (fits : maxLength.toNat ≤ values.toNat) (state : State) :
    ∃ proposal next, drawProposal sampler values maxLength state = .ok (proposal, next) ∧
      Drawn sampler values maxLength.toNat proposal := by
  cases length : sampler.upTo maxLength.toNat state with
  | mk count middle =>
    refine ⟨_, (sampler.distinct values.toNat count middle).2, ?_, drawn_of_fair fair positive fits length⟩
    have notZero : maxLength ≠ 0 := by
      intro zero
      rw [zero] at positive
      exact absurd positive (by decide)
    have enough : count ≤ values.toNat := by
      have short := (fair.upTo_range maxLength.toNat state positive).2
      rw [length] at short
      exact Nat.le_trans short fits
    rw [drawProposal, if_neg notZero, length]
    exact if_neg (Nat.not_lt.2 enough)

theorem drawProposals_eq_ok (fair : sampler.Fair) (positive : 0 < maxLength.toNat)
    (fits : maxLength.toNat ≤ values.toNat) (count : Nat) (state : State) :
    ∃ proposals next, drawProposals sampler values maxLength count state = .ok (proposals, next) ∧
      ∀ proposal ∈ proposals, Drawn sampler values maxLength.toNat proposal := by
  induction count generalizing state with
  | zero => exact ⟨[], state, rfl, List.forall_mem_nil _⟩
  | succ count ih =>
    obtain ⟨proposal, middle, first, asDrawn⟩ := drawProposal_eq_ok fair positive fits state
    obtain ⟨proposals, next, others, asDrawnToo⟩ := ih middle
    refine ⟨proposal :: proposals, next, ?_, List.forall_mem_cons.2 ⟨asDrawn, asDrawnToo⟩⟩
    exact bind_eq_ok_iff.2 ⟨_, first, bind_eq_ok_iff.2 ⟨_, others, rfl⟩⟩

theorem drawFiles_eq_ok (fair : sampler.Fair) (positive : 0 < header.maxLength.toNat)
    (fits : header.maxLength.toNat ≤ header.values.toNat) (count : Nat) (state : State) :
    ∃ files next, drawFiles sampler header count state = .ok (files, next) ∧
      ∀ proposals ∈ files, ∀ proposal ∈ proposals, Drawn sampler header.values header.maxLength.toNat proposal := by
  induction count generalizing state with
  | zero => exact ⟨[], state, rfl, List.forall_mem_nil _⟩
  | succ count ih =>
    obtain ⟨proposals, middle, first, asDrawn⟩ :=
      drawProposals_eq_ok fair positive fits header.proposals.toNat state
    obtain ⟨files, next, others, asDrawnToo⟩ := ih middle
    refine ⟨proposals :: files, next, ?_, List.forall_mem_cons.2 ⟨asDrawn, asDrawnToo⟩⟩
    exact bind_eq_ok_iff.2 ⟨_, first, bind_eq_ok_iff.2 ⟨_, others, rfl⟩⟩

end Draws

/-- A directory or a file could not be created, or a write was refused. -/
inductive Failure.OfFiles : Failure → Prop
  | creating (path : Path) (refusal : Refusal) : OfFiles (.refused .creating path refusal)
  | writing {path : Path} {failure : Failure} (refused : failure.OfWriting path) : OfFiles failure

namespace GeneratorParameters

theorem validate_eq_ok_iff : parameters.validate = .ok () ↔ parameters.values ≠ 0 ∧ parameters.maxLength ≠ 0 := by
  unfold validate
  split
  next noValue => simp [noValue]
  next someValue =>
    split
    next noLength => simp [noLength]
    next someLength => simp [someValue, someLength]

theorem toNat_effectiveMaxLength :
    parameters.effectiveMaxLength.toNat = min parameters.maxLength.toNat parameters.values.toNat := by
  unfold effectiveMaxLength
  simp only [UInt64.le_iff_toNat_le, UInt32.toNat_toUInt64]
  split
  next short => exact (Nat.min_eq_left short).symm
  next long =>
    rw [UInt32.toNat_toUInt64]
    omega

theorem effectiveMaxLength_pos (valid : parameters.validate = .ok ()) :
    0 < parameters.effectiveMaxLength.toNat := by
  obtain ⟨someValue, someLength⟩ := validate_eq_ok_iff.1 valid
  rw [ne_eq, ← UInt32.toNat_inj] at someValue
  rw [ne_eq, ← UInt64.toNat_inj] at someLength
  rw [toNat_effectiveMaxLength]
  exact Nat.lt_min.2 ⟨Nat.pos_of_ne_zero someLength, Nat.pos_of_ne_zero someValue⟩

theorem effectiveMaxLength_le : parameters.effectiveMaxLength.toNat ≤ parameters.values.toNat := by
  rw [toNat_effectiveMaxLength]
  exact Nat.min_le_right _ _

/-- Why a generation fails. -/
inductive Fault (parameters : GeneratorParameters) (sampler : Sampler State) : Failure → Prop
  | invalid {error : InputError} (rejected : parameters.validate = .error error) :
      Fault parameters sampler (.input error)
  | ofFiles {failure : Failure} (refused : failure.OfFiles) : Fault parameters sampler failure
  | crowded (many : listRoom < parameters.processes.toNat) : Fault parameters sampler (.halted .tooManyEntries)
  | undrawn {state : State} {failure : Failure}
      (fails : drawProposals sampler parameters.header.values parameters.header.maxLength
        parameters.header.proposals.toNat state = .error failure) : Fault parameters sampler failure

end GeneratorParameters

theorem drawn_of_drawFiles {last : State} {processes rounds : Nat} {draws : Nat → Nat → List Value}
    (fair : sampler.Fair) (positive : 0 < header.maxLength.toNat)
    (fits : header.maxLength.toNat ≤ header.values.toNat)
    (drawn : drawFiles sampler header processes state = .ok (table processes rounds draws, last))
    {process round : Nat} (member : process ∈ List.range' 1 processes) (inside : round ∈ List.range' 1 rounds) :
    Drawn sampler header.values header.maxLength.toNat (draws process round) := by
  obtain ⟨files, next, found, asDrawn⟩ := drawFiles_eq_ok fair positive fits processes state
  obtain ⟨rfl, -⟩ := Prod.mk.inj (Except.ok.inj (found.symm.trans drawn))
  exact asDrawn _ (List.mem_map_of_mem member) _ (List.mem_map_of_mem inside)

end AgreementAudit

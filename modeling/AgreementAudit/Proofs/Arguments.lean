import AgreementAudit.Execution
import AgreementAudit.Proofs.Writing

/-! The arguments that ask for the check of a directory, read as the options that they spell. -/
namespace AgreementAudit.CommandLine

/-- A text that can stand as the value of an option: it is not empty, and no option itself. -/
def Accepted (text : String) : Prop := text ≠ "" ∧ Word.ofArgument text = .plain text

def CheckOptions.ofDirectory (directory : Path) (processes : UInt64) : CheckOptions where
  configs := []
  outputs := []
  logDirectory := some directory
  processes := some processes
  allowIncomplete := false
  keepGoing := false

theorem Word.ofArgument_repr (number : Nat) : Word.ofArgument number.repr = .plain number.repr := by
  have dashless : '-' ∉ number.repr.toList := by
    intro member
    exact absurd (Text.isDigit_of_mem_repr member) (by decide)
  unfold Word.ofArgument
  split
  next shape => exact absurd (by simp [shape]) dashless
  next chars _ shape => exact absurd (by simp [shape]) dashless
  next letter rest _ _ shape => exact absurd (by simp [shape]) dashless
  next => rfl

theorem Kind.accept_path {text : String} (nonempty : text ≠ "") : Kind.accept .path text = .ok () :=
  if_neg nonempty

theorem Kind.accept_count (count : UInt64) : Kind.accept .count count.toNat.repr = .ok () := by
  rw [accept, Text.count?_repr]
  rfl

theorem Scan.record_single {scan : Scan} {name : Name} {kind : Kind} {value : String}
    (takesOne : name.arity = .single kind) (first : scan.has name = false) (fits : kind.accept value = .ok ()) :
    scan.record name [value] = .ok (scan.add name [value]) := by
  have accepted : [value].forM kind.accept = .ok () := by
    change (kind.accept value >>= fun _ => _) = _
    rw [fits]
    rfl
  unfold record
  rw [takesOne]
  simp only [List.cons_ne_nil, ↓reduceIte, first, Bool.false_eq_true, accepted]
  rfl

theorem ofArguments_check {directory : Path} (accepted : Accepted directory) (processes : UInt64) :
    Invocation.ofArguments ["check", "--log-dir", directory, "--processes", processes.toNat.repr] =
      .ok { json := false, command := .check (.ofDirectory directory processes) } := by
  obtain ⟨nonempty, plain⟩ := accepted
  have words : ["--log-dir", directory, "--processes", processes.toNat.repr].map Word.ofArgument =
      [.long "log-dir" none, .plain directory, .long "processes" none, .plain processes.toNat.repr] := by
    have first : Word.ofArgument "--log-dir" = .long "log-dir" none := by decide
    have second : Word.ofArgument "--processes" = .long "processes" none := by decide
    rw [List.map_cons, List.map_cons, List.map_cons, List.map_cons, List.map_nil, first, second, plain,
      Word.ofArgument_repr]
  have directorySettled : (Scan.mk [] (some (.logDir, [directory]))).settle =
      .ok ⟨[(.logDir, [directory])], none⟩ := by
    have fresh : Scan.empty.has .logDir = false := rfl
    exact Scan.record_single rfl fresh (Kind.accept_path nonempty)
  have processesSettled :
      (Scan.mk [(.logDir, [directory])] (some (.processes, [processes.toNat.repr]))).settle =
        .ok ⟨[(.logDir, [directory]), (.processes, [processes.toNat.repr])], none⟩ := by
    have fresh : (Scan.mk [(.logDir, [directory])] none).has .processes = false := rfl
    exact Scan.record_single rfl fresh (Kind.accept_count processes)
  have scanned : Scan.empty.run Verb.check.options
      [.long "log-dir" none, .plain directory, .long "processes" none, .plain processes.toNat.repr] =
      .ok ⟨[(.logDir, [directory]), (.processes, [processes.toNat.repr])], none⟩ := by
    change ((Scan.mk [] (some (.logDir, [directory]))).settle >>= fun _ => _) >>= _ = _
    rw [directorySettled]
    exact processesSettled
  have counted : (Scan.mk [(.logDir, [directory]), (.processes, [processes.toNat.repr])] none).optionalCount
      .processes = .ok (some processes) := by
    change ((Text.count? processes.toNat.repr).map _).getD _ = _
    rw [Text.count?_repr]
    rfl
  change Verb.check.invocation false _ = _
  unfold Verb.invocation
  rw [words, scanned]
  change (Verb.check.command _ >>= fun _ => _) = _
  unfold Verb.command
  change ((Scan.optionalCount _ _ >>= fun _ => _) >>= fun _ => _) = _
  rw [counted]
  rfl

end AgreementAudit.CommandLine

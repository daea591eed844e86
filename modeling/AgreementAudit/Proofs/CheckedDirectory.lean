import AgreementAudit.Proofs.Arguments
import AgreementAudit.Proofs.Readback
import AgreementAudit.Proofs.Verdict

/-! The check of a directory as a run. Its exit code tells whether the runs agree that were loaded, and an audit
adds no warning to those of the loading. -/
namespace AgreementAudit

open CommandLine (CheckOptions)

theorem Event.level_ne_warn_of_checker {event : Event} (reported : event.part = .checker) :
    event.level ≠ .warn := by
  intro warned
  cases event with
  | countDisagrees | lengthsTolerated => cases reported
  | processLoaded | logsLoaded | comparing | proposalsWritten => cases warned
  | validityStarted | violationFound | validityDone | universeDone | chainDone | stoppedEarly => cases warned

theorem Comparison.part_of_mem_opening {comparison : Comparison} {event : Event}
    (told : event ∈ comparison.opening) : event.part = .checker := by
  cases comparison with
  | validity run =>
    rw [List.mem_singleton.1 told]
    rfl
  | possible run values => exact absurd told List.not_mem_nil
  | chain left right => exact absurd told List.not_mem_nil

theorem Move.part_of_mem_signals {move : Move} (closes : ∀ closing, move = .close closing → closing.part = .checker)
    {event : Event} (told : .event event ∈ move.signals) : event.part = .checker := by
  cases move with
  | close closing =>
    have same : event = closing := Signal.event.inj (List.mem_singleton.1 told)
    rw [same]
    exact closes closing rfl
  | compare step =>
    simp only [signals, tally, makeComparison] at told
    split at told
    next quiet =>
      have opening : event ∈ step.1.opening := by simpa using told
      exact Comparison.part_of_mem_opening opening
    next violation found =>
      have either : event ∈ step.1.opening ∨
          event = .violationFound violation.property violation.subject violation.round := by
        simpa using told
      rcases either with opening | same
      · exact Comparison.part_of_mem_opening opening
      · rw [same]
        rfl

theorem part_of_mem_signals {runs : List Run} {keepGoing : Bool} {event : Event}
    (told : .event event ∈ (runChecks runs keepGoing).signals) : event.part = .checker := by
  unfold runChecks at told
  rw [walk_eq, walkMoves_eq] at told
  rcases List.mem_append.1 told with inside | last
  · obtain ⟨move, met, member⟩ := List.mem_flatMap.1 inside
    refine Move.part_of_mem_signals ?_ member
    intro closing closes
    obtain ⟨pass, planned, moves⟩ := List.mem_flatMap.1 (mem_of_mem_reached met)
    have ends : closing = pass.closing := by
      rw [closes, Pass.moves, List.mem_append, List.mem_map] at moves
      simpa using moves
    rw [ends]
    simp only [plan, List.mem_cons, List.not_mem_nil, or_false] at planned
    rcases planned with rfl | rfl | rfl
    · rfl
    · rfl
    · rfl
  · split at last
    next =>
      have same : event = .stoppedEarly _ := Signal.event.inj (List.mem_singleton.1 last)
      rw [same]
      rfl
    next => exact absurd last List.not_mem_nil

namespace CommandLine.CheckOptions

variable {options : CheckOptions} {fs : FileSystem} {loading : List Event}

theorem exitCode_of_load {runs : List Run} (json : Bool) (loaded : options.load fs = ⟨loading, .ok runs⟩) :
    ((options.execute json fs).ending.exitCode = 0 ↔ Agreement runs) ∧
      ((options.execute json fs).ending.exitCode = 1 ↔ ¬Agreement runs) := by
  have ending : (options.execute json fs).ending =
      if (runChecks runs options.keepGoing).report.verdict = .passed then .succeeded else .violated := by
    unfold execute
    rw [loaded]
    simp only [CheckReport.passed, decide_eq_true_iff]
  have passes : (runChecks runs options.keepGoing).report.verdict = .passed ↔ Agreement runs :=
    runChecks_passed_iff_agreement
  rw [ending, ← passes]
  split
  next passed => simp [passed, Ending.exitCode]
  next failed => simp [failed, Ending.exitCode]

theorem level_ne_warn_of_audit {runs : List Run} {keepGoing json : Bool} {event : Event}
    (told : let audit := runChecks runs keepGoing
      Effect.report event ∈ audit.signals.map (effectOf json) ++
        printReport json audit.report.passed audit.report.json audit.report.lines) : event.level ≠ .warn := by
  rcases List.mem_append.1 told with inAudit | printed
  · obtain ⟨signal, member, shown⟩ := List.mem_map.1 inAudit
    cases signal with
    | event other =>
      obtain rfl := Effect.report.inj shown
      exact Event.level_ne_warn_of_checker (part_of_mem_signals member)
    | progress progress =>
      cases json with
      | false => cases shown
      | true =>
        obtain rfl := Effect.report.inj shown
        intro warned
        cases warned
  · unfold printReport at printed
    split at printed
    next => cases List.mem_singleton.1 printed
    next =>
      obtain ⟨line, -, same⟩ := List.mem_map.1 printed
      cases same

/-- A check warns of what it was warned of while it loaded. -/
theorem level_ne_warn_of_load {runs : List Run} (json : Bool) (loaded : options.load fs = ⟨loading, .ok runs⟩)
    (calm : ∀ event ∈ loading, event.level ≠ .warn) :
    ∀ event ∈ (options.execute json fs).events, event.level ≠ .warn := by
  intro event told
  obtain ⟨effect, done, reported⟩ := List.mem_filterMap.1 told
  cases effect with
  | print line => cases reported
  | report same =>
    obtain rfl := Option.some.inj reported
    unfold execute at done
    rw [loaded] at done
    dsimp only at done
    rw [List.append_assoc] at done
    rcases List.mem_append.1 done with inLoading | behind
    · obtain ⟨other, member, same⟩ := List.mem_map.1 inLoading
      obtain rfl := Effect.report.inj same
      exact calm _ member
    · exact level_ne_warn_of_audit behind

theorem load_ofDirectory {directory : Path} {processes : UInt64} {told : Nat → Event} {run : Nat → Run}
    (fits : processes.toNat ≤ recordRoom)
    (each : ∀ index ∈ List.range' 1 processes.toNat,
      Run.load fs false (.ofDirectory directory index) = ⟨[told index], .ok (run index)⟩) :
    (ofDirectory directory processes).load fs =
      ⟨(List.range' 1 processes.toNat).map told ++ [.logsLoaded processes.toNat],
        .ok ((List.range' 1 processes.toNat).map run)⟩ := by
  have found : (ofDirectory directory processes).records = .ok (Record.inDirectory directory processes.toNat) := by
    change (reserve recordRoom processes.toNat >>= fun _ => _) = _
    rw [reserve_bind, if_pos fits]
    rfl
  have loaded : Run.loadAll fs false (Record.inDirectory directory processes.toNat) =
      ⟨(List.range' 1 processes.toNat).map told, .ok ((List.range' 1 processes.toNat).map run)⟩ := by
    have steps : ∀ record ∈ Record.inDirectory directory processes.toNat,
        Run.load fs false record = ⟨[told record.index], .ok (run record.index)⟩ := by
      intro record member
      obtain ⟨index, listed, same⟩ := List.mem_map.1 member
      rw [← same]
      exact each index listed
    unfold Run.loadAll
    rw [Traced.mapM_of_ok steps, Record.inDirectory, List.flatMap_map, List.map_map]
    simp only [Record.ofDirectory, Function.comp_def, ← List.map_eq_flatMap]
  have listed : Traced.ofExcept (ofDirectory directory processes).records =
      pure (Record.inDirectory directory processes.toNat) := by
    rw [found]
    rfl
  unfold load
  rw [listed, pure_bind]
  change (Run.loadAll fs false _ >>= fun _ => _) = _
  rw [loaded, Traced.bind_of_ok rfl]
  simp [Traced.report, Traced.bind_of_ok, Traced.pure_def]

theorem execute_of_crowded {directory : Path} {processes : UInt64} (crowded : recordRoom < processes.toNat)
    (json : Bool) :
    (ofDirectory directory processes).execute json fs = .halted .tooManyEntries fs := by
  have unfound : (ofDirectory directory processes).records = .error (.halted .tooManyEntries) := by
    change (reserve recordRoom processes.toNat >>= fun _ => _) = _
    rw [reserve_bind, if_neg (Nat.not_le.2 crowded)]
  unfold execute load
  rw [unfound]
  rfl

end CommandLine.CheckOptions

end AgreementAudit

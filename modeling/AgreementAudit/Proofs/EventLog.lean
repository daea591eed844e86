import Mathlib.Data.Set.Card
import AgreementAudit.Proofs.EventLines
import AgreementAudit.Proofs.MoveEvents
import AgreementAudit.Proofs.ProgressTrace

/-! The log of an audit beside its report. It names the violations, the passes that were closed and the processes whose
validity was checked, and its last event tells whether the audit was stopped. -/
namespace AgreementAudit

/-- An audit that does not keep going has found a violation in the pass of a property or before it. -/
def StoppedBy (runs : List Run) (keepGoing : Bool) (property : Property) : Prop :=
  keepGoing = false ∧ ∃ found ∈ (runChecks runs keepGoing).report.violations, found.property.rank ≤ property.rank

/-- How the log of an audit fits its report. Where all events are asked for, each has its line. The events tell the violations
in order, the passes that were closed, each between its own progress and that of the next pass, the processes whose
validity was checked, each right before the progress of its check, and at last how many comparisons an audit made that
was stopped. -/
structure LogFits (runs : List Run) (keepGoing : Bool) (audit : Audit) : Prop where
  shown : audit.events.filter (EventFilter.everywhere .everything).shows = audit.events
  lines : (EventFilter.everywhere .everything).lines audit.events = audit.events.map Event.shown
  violations : audit.events.filterMap Event.violation? =
    audit.report.violations.map fun found => (found.property, found.subject, found.round)
  closings : audit.events.filter Event.isClosing <+:
    [.validityDone runs.length, .universeDone {value | Proposed runs value}.ncard, .chainDone]
  closed : ∀ property, (∃ event ∈ audit.events, event.closes? = some property) ↔ ¬StoppedBy runs keepGoing property
  between : ∀ before event after property, audit.signals = before ++ .event event :: after →
    event.closes? = some property → ∀ other : Property,
      (other.rank ≤ property.rank → stepsTaken (traceOf before) other = other.total runs.length ∧
        stepsTaken (traceOf after) other = 0) ∧
      (property.rank < other.rank → stepsTaken (traceOf before) other = 0)
  stops : audit.events.filterMap Event.stop? =
    if keepGoing = false ∧ audit.report.verdict = .failed then [audit.report.comparisons] else []
  last : keepGoing = false → audit.report.verdict = .failed →
    audit.signals.getLast? = some (.event (.stoppedEarly audit.report.comparisons))
  starts : audit.events.filterMap Event.start? =
    (runs.take (stepsTaken audit.progress .validity)).map fun run => run.record.index
  preceded : ∀ before entry after, audit.signals = before ++ .progress entry :: after → entry.property = .validity →
    ∃ earlier run, before = earlier ++ [.event (.validityStarted run.record.index)] ∧
      runs[entry.step - 1]? = some run

theorem Verbosity.shows_everything (level : Level) : everything.shows level = true := by
  cases level with
  | _ => rfl

theorem ValueSet.ncard_members (set : ValueSet) : {value | value ∈ set}.ncard = set.size := by
  have asFinset : {value | value ∈ set} = (set.values.toFinset : Set Value) := by
    ext value
    simp [ValueSet.mem_values]
  rw [asFinset, Set.ncard_coe_finset, List.toFinset_card_of_nodup set.nodup_values]
  rfl

section Log

variable {runs : List Run} {keepGoing : Bool}

theorem filter_shows_everything :
    (runChecks runs keepGoing).events.filter (EventFilter.everywhere .everything).shows =
      (runChecks runs keepGoing).events :=
  List.filter_eq_self.2 fun event _ => Verbosity.shows_everything event.level

theorem filterMap_violation_events :
    (runChecks runs keepGoing).events.filterMap Event.violation? =
      (runChecks runs keepGoing).report.violations.map fun found => (found.property, found.subject, found.round) := by
  rw [filterMap_events fun _ _ closes => (Event.silent_of_closes closes).1, filterMap_lastEvents,
    violations_eq_filterMap_movesMade, List.map_filterMap, List.filterMap_eq_flatMap_toList]
  simp [Event.violation?, Violation.event, Option.map_eq_bind]

theorem filterMap_stop_events :
    let report := (runChecks runs keepGoing).report
    (runChecks runs keepGoing).events.filterMap Event.stop? =
      if keepGoing = false ∧ report.verdict = .failed then [report.comparisons] else [] := by
  intro report
  rw [filterMap_events fun _ _ closes => (Event.silent_of_closes closes).2.2, filterMap_lastEvents,
    List.flatMap_eq_nil_iff.2 fun move _ => by simp [Event.stop?, Violation.event], List.nil_append]
  rfl

theorem filterMap_start_events :
    (runChecks runs keepGoing).events.filterMap Event.start? =
      (made keepGoing runs).filterMap fun step => step.1.start? := by
  have ofMove : (made keepGoing runs).filterMap (fun step => step.1.start?) =
      (movesMade keepGoing runs).filterMap Move.start? := by
    rw [← filterMap_step_reached, List.filterMap_filterMap]
    rfl
  rw [filterMap_events fun _ _ closes => (Event.silent_of_closes closes).2.1, filterMap_lastEvents, ofMove,
    List.filterMap_eq_flatMap_toList]
  simp [Event.start?, Violation.event]

theorem starts_eq :
    (made keepGoing runs).filterMap (fun step => step.1.start?) =
      (runs.take (stepsTaken (runChecks runs keepGoing).progress .validity)).map fun run => run.record.index := by
  have whole : (stepsOf runs).filterMap (fun step => step.1.start?) = runs.map fun run => run.record.index := by
    have ofComparison : (stepsOf runs).filterMap (fun step => step.1.start?) = (planned runs).filterMap (·.start?) := by
      rw [← map_fst_steps, List.filterMap_map]
      rfl
    rw [ofComparison, planned_eq]
    simp [List.filterMap_map, Comparison.start?]
  have begins := (begins_made keepGoing runs).filterMap fun step => step.1.start?
  rw [whole] at begins
  have counted : ((made keepGoing runs).filterMap fun step => step.1.start?).length =
      stepsTaken (runChecks runs keepGoing).progress .validity := by
    rw [List.length_filterMap_eq_countP, runChecks_progress, stepsTaken, List.countP_map]
    apply List.countP_congr
    intro step member
    obtain ⟨pass, -, listed⟩ := List.mem_flatMap.1 (mem_of_mem_reached member)
    rw [Function.comp_apply, decide_eq_true_eq, (Pass.of_mem_steps listed).2]
    cases step.1 with
    | validity => exact iff_of_true rfl rfl
    | possible | chain => exact iff_of_false nofun nofun
  -- What begins a list is told by its length, here the number of validity checks in the trace.
  rw [List.map_take, ← counted]
  exact List.prefix_iff_eq_take.1 begins

theorem closed_iff {property : Property} :
    (∃ event ∈ (runChecks runs keepGoing).events, event.closes? = some property) ↔
      ¬StoppedBy runs keepGoing property := by
  have ofMoves : (∃ event ∈ (runChecks runs keepGoing).events, event.closes? = some property) ↔
      ∃ closing, .close closing ∈ movesMade keepGoing runs ∧ closing.closes? = some property := by
    apply Iff.intro
    · rintro ⟨event, told, closes⟩
      exact ⟨event, (closing_mem_events_iff closes).1 told, closes⟩
    · rintro ⟨event, made, closes⟩
      exact ⟨event, (closing_mem_events_iff closes).2 made, closes⟩
  have planned : ∃ closing, .close closing ∈ (plan runs).flatMap Pass.moves ∧ closing.closes? = some property := by
    obtain ⟨pass, listed, closes⟩ := (Pass.exists_closes_iff (plan_isFor runs)).2 (Property.mem_inOrder property)
    exact ⟨_, Pass.close_mem_moves_iff.2 ⟨pass, listed, rfl⟩, closes⟩
  rw [ofMoves, StoppedBy, violations_eq_filterMap_movesMade]
  cases keepGoing with
  | true => exact iff_of_true planned fun stopped => nomatch stopped.1
  | false =>
    -- An audit that stops has one violation, in the pass that its last move belongs to.
    rcases silent_or_split Move.fails ((plan runs).flatMap Pass.moves) with
      silent | ⟨before, failing, after, split, silent, fault⟩
    · have all : movesMade false runs = (plan runs).flatMap Pass.moves := upToFirst_of_silent silent
      have nothing : (movesMade false runs).filterMap Move.violation? = [] := by
        rw [all]
        exact List.filterMap_eq_nil_iff.2 fun move member => Move.fails_eq_false_iff.1 (silent move member)
      rw [nothing, all]
      exact iff_of_true planned fun stopped => nomatch stopped.2
    · cases failing with
      | close => cases fault
      | compare step =>
        obtain ⟨found, finds⟩ := Option.isSome_iff_exists.1 fault
        have made : movesMade false runs = before ++ [.compare step] := by
          rw [movesMade, split]
          exact upToFirst_of_split silent fault
        have nothing : before.filterMap Move.violation? = [] :=
          List.filterMap_eq_nil_iff.2 fun move member => Move.fails_eq_false_iff.1 (silent move member)
        have same : found.property = step.1.property := (Comparison.violation?_eq_some_iff.1 finds).1.property_eq
        rw [made, List.filterMap_append, nothing, filterMap_cons_toList, finds]
        simp [same, closed_before_comparison split]

theorem begins_closings :
    (runChecks runs keepGoing).events.filter Event.isClosing <+:
      [.validityDone runs.length, .universeDone {value | Proposed runs value}.ncard, .chainDone] := by
  have proposed : {value | Proposed runs value}.ncard = (proposedValues (runs.map Run.config)).size := by
    rw [← ValueSet.ncard_members]
    simp only [mem_proposedValues]
  have closings : (((plan runs).flatMap Pass.moves).flatMap Move.events).filter Event.isClosing =
      [.validityDone runs.length, .universeDone {value | Proposed runs value}.ncard, .chainDone] := by
    rw [List.flatMap_assoc, List.filter_flatMap, List.flatMap_congr fun pass _ => pass.filter_closing_events, proposed]
    rfl
  have last : (lastEvents keepGoing (runChecks runs keepGoing).report).filter Event.isClosing = [] := by
    refine List.filter_eq_nil_iff.2 fun event told => ?_
    rw [eq_stoppedEarly_of_mem_lastEvents told]
    exact Bool.false_ne_true
  rw [events_eq, List.filter_append, last, List.append_nil, ← closings]
  exact ((begins_movesMade keepGoing runs).flatMap Move.events).filter _

theorem closed_between {before after : List Signal} {event : Event} {property : Property}
    (split : (runChecks runs keepGoing).signals = before ++ .event event :: after)
    (closes : event.closes? = some property) (other : Property) :
    (other.rank ≤ property.rank → stepsTaken (traceOf before) other = other.total runs.length ∧
      stepsTaken (traceOf after) other = 0) ∧
    (property.rank < other.rank → stepsTaken (traceOf before) other = 0) := by
  obtain ⟨earlier, move, later, unmade, inner, rest, planned, within, rfl, behind⟩ :=
    exists_move_of_signals_eq split fun comparisons last => by
      rw [Signal.event.inj last] at closes
      cases closes
  have told : event ∈ move.events := by
    rw [Move.events, within]
    exact List.mem_filterMap.2 ⟨_, List.mem_append_right _ List.mem_cons_self, rfl⟩
  obtain rfl := Move.eq_close_of_closes told closes
  obtain ⟨rfl, rfl⟩ : inner = [] ∧ rest = [] := by
    rcases List.singleton_eq_append_iff.1 within with ⟨first, only⟩ | ⟨-, nothing⟩
    · exact ⟨first, (List.cons.inj only).2⟩
    · cases nothing
  obtain ⟨property', closes', stands⟩ := closing_stands planned
  obtain rfl : property = property' := Option.some.inj (closes.symm.trans closes')
  obtain ⟨upTo, beyond⟩ := stands other
  rw [List.flatMap_append, traceOf, List.filterMap_append, stepsTaken_append] at beyond
  rw [List.append_nil, upTo, behind, List.nil_append]
  apply And.intro
  · intro earlier
    rw [if_neg (Nat.not_lt.2 earlier)] at beyond
    exact ⟨if_pos earlier, (Nat.add_eq_zero_iff.1 beyond).1⟩
  · intro later
    exact if_neg (Nat.not_le.2 later)

theorem validity_of_mem_schedule {step : Comparison × Progress} (listed : step ∈ schedule runs)
    (validity : step.2.property = .validity) :
    ∃ i : Fin runs.length, step = (.validity (runs.get i),
      ⟨.validity, (runs.get i).config.path, (runs.get i).output.path, i + 1, runs.length⟩) := by
  rcases List.mem_append.1 listed with inFirst | third
  · rcases List.mem_append.1 inFirst with first | second
    · obtain ⟨i, -, rfl⟩ := List.mem_map.1 first
      exact ⟨i, rfl⟩
    · obtain ⟨_, -, rfl⟩ := List.mem_map.1 second
      cases validity
  · obtain ⟨_, -, rfl⟩ := List.mem_map.1 third
    cases validity

theorem start_precedes {before after : List Signal} {entry : Progress}
    (split : (runChecks runs keepGoing).signals = before ++ .progress entry :: after)
    (validity : entry.property = .validity) :
    ∃ earlier run, before = earlier ++ [.event (.validityStarted run.record.index)] ∧
      runs[entry.step - 1]? = some run := by
  obtain ⟨earlier, move, later, unmade, inner, rest, planned, within, rfl, -⟩ :=
    exists_move_of_signals_eq split fun _ last => nomatch last
  cases move with
  | close closing =>
    have member : .progress entry ∈ (Move.close closing).signals := by simp [within]
    cases List.mem_singleton.1 member
  | compare step =>
    have silent (events : List Event) : .progress entry ∉ events.map Signal.event := by simp
    have behind : .progress entry ∉ step.1.violation?.toList.map fun found => Signal.event found.event := by simp
    rw [Move.signals_compare, List.append_cons_inj_of_notMem (silent _) behind] at within
    obtain ⟨rfl, same, -⟩ := within
    obtain rfl := Signal.progress.inj same
    have listed : step ∈ schedule runs := by
      rw [← stepsOf_eq_schedule, stepsOf, ← filterMap_step_moves, planned]
      exact List.mem_filterMap.2 ⟨_, List.mem_append_right _ List.mem_cons_self, rfl⟩
    obtain ⟨i, rfl⟩ := validity_of_mem_schedule listed validity
    exact ⟨_, runs.get i, rfl, List.getElem?_eq_getElem i.isLt⟩

end Log

/-- The log of an audit tells the violations of its report in order, which passes were closed and on which processes
the checks of validity were started, and that the audit was stopped if it was. -/
theorem log_fits (runs : List Run) (keepGoing : Bool) : LogFits runs keepGoing (runChecks runs keepGoing) where
  shown := filter_shows_everything
  lines := by rw [EventFilter.lines_eq, filter_shows_everything]
  violations := filterMap_violation_events
  closings := begins_closings
  closed _ := closed_iff
  between _ _ _ _ := closed_between
  stops := filterMap_stop_events
  last unkept failed := by
    rw [signals_eq, lastEvents, if_pos ⟨unkept, failed⟩]
    exact List.getLast?_concat
  starts := by rw [filterMap_start_events, starts_eq]
  preceded _ _ _ := start_precedes

theorem log_fits_torn :
    StoppedBy tornRuns false .validity ∧
      (¬∃ event ∈ (runChecks tornRuns false).events, event.closes? = some .validity) ∧
      (runChecks tornRuns false).signals.getLast? = some (.event (.stoppedEarly 3)) ∧
      (∃ event ∈ (runChecks tornRuns true).events, event.closes? = some .chainConsistency) ∧
      stepsTaken (traceOf ((runChecks tornRuns true).signals.take 12)) .universeContainment = 3 ∧
      stepsTaken (traceOf ((runChecks tornRuns true).signals.drop 13)) .universeContainment = 0 ∧
      stepsTaken (traceOf ((runChecks tornRuns true).signals.take 12)) .chainConsistency = 0 := by
  have stopped : StoppedBy tornRuns false .validity := ⟨rfl, by decide +kernel⟩
  have failed : (runChecks tornRuns false).report.verdict = .failed := by decide +kernel
  have three : (runChecks tornRuns false).report.comparisons = 3 := by decide +kernel
  have split : (runChecks tornRuns true).signals = (runChecks tornRuns true).signals.take 12 ++
      .event (.universeDone 4) :: (runChecks tornRuns true).signals.drop 13 := by
    decide +kernel
  have between := (log_fits tornRuns true).between _ _ _ .universeContainment split rfl
  refine ⟨stopped, fun closed => ((log_fits tornRuns false).closed _).1 closed stopped, ?_,
    ((log_fits tornRuns true).closed _).2 fun stopped => Bool.noConfusion stopped.1, ?_, ?_, ?_⟩
  · rw [(log_fits tornRuns false).last rfl failed, three]
  · exact ((between .universeContainment).1 (Nat.le_refl _)).1
  · exact ((between .universeContainment).1 (Nat.le_refl _)).2
  · exact (between .chainConsistency).2 (by decide)

end AgreementAudit

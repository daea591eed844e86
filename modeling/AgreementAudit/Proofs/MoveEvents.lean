import AgreementAudit.Proofs.Passes
import AgreementAudit.Proofs.ProcessOrder

/-! What the moves of an audit tell. The log and the progress of an audit are one stream of signals, and every move of
its walk adds to it: a comparison what it opens with, its progress and the violation that it finds, and the end of a
pass the event that tells so. -/
namespace AgreementAudit

def Event.violation? : Event → Option (Property × Path × Nat)
  | .violationFound property subject round => some (property, subject, round)
  | _ => none

def Event.start? : Event → Option Nat
  | .validityStarted index => some index
  | _ => none

def Event.stop? : Event → Option Nat
  | .stoppedEarly comparisons => some comparisons
  | _ => none

def Event.isClosing (event : Event) : Bool := event.closes?.isSome

theorem Event.silent_of_closes {event : Event} {property : Property} (closes : event.closes? = some property) :
    event.violation? = none ∧ event.start? = none ∧ event.stop? = none := by
  cases event with
  | validityDone | universeDone | chainDone => exact ⟨rfl, rfl, rfl⟩
  | _ => cases closes

def Signal.event? : Signal → Option Event
  | .event told => some told
  | .progress _ => none

theorem Signal.filterMap_event (told : List Event) : (told.map Signal.event).filterMap Signal.event? = told := by
  rw [List.filterMap_map]
  exact List.filterMap_some

def traceOf (signals : List Signal) : List Progress := signals.filterMap Signal.progress?

def Violation.event (found : Violation) : Event := .violationFound found.property found.subject found.round

def Comparison.start? : Comparison → Option Nat
  | .validity run => some run.record.index
  | .possible .. => none
  | .chain .. => none

theorem Comparison.opening_eq (comparison : Comparison) :
    comparison.opening = comparison.start?.toList.map .validityStarted := by
  cases comparison with
  | _ => rfl

namespace Move

def events (move : Move) : List Event := move.signals.filterMap Signal.event?

def start? (move : Move) : Option Nat := move.step?.bind fun step => step.1.start?

theorem fails_eq_false_iff {move : Move} : move.fails = false ↔ move.violation? = none := by
  rw [fails, Option.isSome_eq_false_iff, Option.isNone_iff_eq_none]

theorem signals_compare (step : Comparison × Progress) :
    (compare step).signals =
      step.1.opening.map .event ++ .progress step.2 ::
        step.1.violation?.toList.map fun found => .event found.event := by
  simp only [signals, tally, makeComparison]
  cases step.1.violation? with
  | none => rfl
  | some found => exact List.append_assoc _ _ _

theorem events_compare (step : Comparison × Progress) :
    (compare step).events =
      step.1.start?.toList.map .validityStarted ++ step.1.violation?.toList.map Violation.event := by
  have found : (step.1.violation?.toList.map fun found => Signal.event found.event) =
      (step.1.violation?.toList.map Violation.event).map .event := by
    rw [List.map_map]
    rfl
  rw [events, signals_compare, List.filterMap_append, Signal.filterMap_event, List.filterMap_cons_none rfl, found,
    Signal.filterMap_event, Comparison.opening_eq]

theorem eq_close_of_closes {move : Move} {event : Event} {property : Property}
    (told : event ∈ move.events) (closes : event.closes? = some property) : move = close event := by
  cases move with
  | close closing => rw [List.mem_singleton.1 told]
  | compare step =>
    rw [events_compare] at told
    rcases List.mem_append.1 told with started | found
    · obtain ⟨index, -, rfl⟩ := List.mem_map.1 started
      cases closes
    · obtain ⟨violation, -, rfl⟩ := List.mem_map.1 found
      cases closes

end Move

def movesMade (keepGoing : Bool) (runs : List Run) : List Move :=
  reached keepGoing Move.fails ((plan runs).flatMap Pass.moves)

section Places

variable {runs : List Run}

theorem Pass.moves_eq_append {pass : Pass} {inner rest : List Move} {move : Move}
    (split : pass.moves = inner ++ move :: rest) :
    inner = pass.steps.map .compare ∧ move = .close pass.closing ∧ rest = [] ∨
      ∃ kept, pass.steps.map .compare = inner ++ move :: kept ∧ rest = kept ++ [.close pass.closing] := by
  rcases rest.eq_nil_or_concat with rfl | ⟨kept, last, rfl⟩
  · obtain ⟨steps, closing⟩ := List.append_inj' split rfl
    exact Or.inl ⟨steps.symm, (List.cons.inj closing).1.symm, rfl⟩
  · rw [List.concat_eq_append, ← List.cons_append, ← List.append_assoc] at split
    obtain ⟨steps, closing⟩ := List.append_inj' split rfl
    exact Or.inr ⟨kept, steps, by rw [List.concat_eq_append, closing]⟩

theorem Pass.close_mem_moves_iff {passes : List Pass} {closing : Event} :
    .close closing ∈ passes.flatMap moves ↔ ∃ pass ∈ passes, pass.closing = closing := by
  simp [moves, eq_comm]

theorem Pass.close_notMem_comparisons {pass : Pass} {inner kept : List Move} {move : Move}
    (split : pass.steps.map .compare = inner ++ move :: kept) (closing : Event) :
    .close closing ∉ inner ∧ move ≠ .close closing := by
  have comparisons : .close closing ∉ inner ++ move :: kept := by
    rw [← split]
    simp
  exact ⟨fun inside => comparisons (List.mem_append_left _ inside), fun same => comparisons (by simp [same])⟩

theorem Pass.filter_closing_events (pass : Pass) :
    (pass.moves.flatMap Move.events).filter Event.isClosing = [pass.closing].filter Event.isClosing := by
  have comparing : ((pass.steps.map Move.compare).flatMap Move.events).filter Event.isClosing = [] := by
    refine List.filter_eq_nil_iff.2 fun event told closes => ?_
    obtain ⟨move, listed, told⟩ := List.mem_flatMap.1 told
    obtain ⟨property, closes⟩ := Option.isSome_iff_exists.1 closes
    obtain ⟨step, -, rfl⟩ := List.mem_map.1 listed
    cases Move.eq_close_of_closes told closes
  rw [moves, List.flatMap_append, List.filter_append, comparing]
  rfl

theorem Property.rank_le_iff {first second : Property} :
    first.rank ≤ second.rank ↔ first.rank < second.rank ∨ second = first := by
  cases first with
  | _ =>
    cases second with
    | _ => decide

theorem exists_closes_of_close_mem {closing : Event} (member : .close closing ∈ (plan runs).flatMap Pass.moves) :
    ∃ property, closing.closes? = some property := by
  obtain ⟨pass, listed, rfl⟩ := Pass.close_mem_moves_iff.1 member
  obtain ⟨before, after, split⟩ := List.append_of_mem listed
  obtain ⟨property, stands⟩ := exists_standsFor split
  exact ⟨property, stands.isFor.closing⟩

/-- Before a pass is closed, its comparisons and those of the earlier passes are told, and behind it the others. -/
theorem closing_stands {before after : List Move} {closing : Event}
    (split : (plan runs).flatMap Pass.moves = before ++ .close closing :: after) :
    ∃ property, closing.closes? = some property ∧ ∀ other : Property,
      stepsTaken (traceOf (before.flatMap Move.signals)) other =
        (if other.rank ≤ property.rank then other.total runs.length else 0) ∧
      stepsTaken (traceOf (after.flatMap Move.signals)) other =
        if property.rank < other.rank then other.total runs.length else 0 := by
  obtain ⟨earlier, pass, later, inner, rest, passes, within, rfl, rfl⟩ := exists_block_of_flatMap_eq split
  obtain ⟨property, stands⟩ := exists_standsFor passes
  have told (others : List Pass) :
      ((others.flatMap Pass.moves).filterMap Move.step?).map Prod.snd = others.flatMap Pass.entries := by
    rw [filterMap_step_moves, List.map_flatMap]
    rfl
  have own : ((pass.steps.map Move.compare).filterMap Move.step?).map Prod.snd = pass.entries := by
    rw [List.filterMap_map]
    exact congrArg (List.map Prod.snd) List.filterMap_some
  rcases Pass.moves_eq_append within with ⟨rfl, closes, rfl⟩ | ⟨kept, steps, -⟩
  · cases closes
    refine ⟨property, stands.isFor.closing, fun other => ⟨?_, ?_⟩⟩
    · rw [traceOf, filterMap_progress_signals, List.filterMap_append, List.map_append, told, own, stepsTaken_append,
        stands.before, stands.isFor.stepsTaken_entries]
      simp only [Property.rank_le_iff]
      by_cases same : property = other
      · simp [same]
      · simp [same]
    · rw [traceOf, filterMap_progress_signals, List.nil_append, told, stands.after]
  · exact absurd rfl (Pass.close_notMem_comparisons steps closing).2

/-- Before a comparison the passes of the earlier properties are closed, and no others. -/
theorem closed_before_comparison {before after : List Move} {step : Comparison × Progress}
    (split : (plan runs).flatMap Pass.moves = before ++ .compare step :: after) (other : Property) :
    (∃ closing, .close closing ∈ before ∧ closing.closes? = some other) ↔ other.rank < step.1.property.rank := by
  obtain ⟨earlier, pass, later, inner, rest, passes, within, rfl, -⟩ := exists_block_of_flatMap_eq split
  obtain ⟨property, stands⟩ := exists_standsFor passes
  rcases Pass.moves_eq_append within with ⟨-, impossible, -⟩ | ⟨kept, steps, -⟩
  · cases impossible
  · have listed : Move.compare step ∈ pass.steps.map .compare := by
      rw [steps]
      exact List.mem_append_right _ List.mem_cons_self
    obtain ⟨_, member, same⟩ := List.mem_map.1 listed
    obtain rfl := Move.compare.inj same
    rw [stands.isFor.comparisons _ (Pass.of_mem_steps member).1, ← stands.closed]
    have unclosed (closing : Event) : .close closing ∉ inner := (Pass.close_notMem_comparisons steps closing).1
    simp only [List.mem_append, unclosed, or_false, Pass.close_mem_moves_iff]
    apply Iff.intro
    · rintro ⟨closing, ⟨pass, listed, rfl⟩, closes⟩
      exact ⟨pass, listed, closes⟩
    · rintro ⟨pass, listed, closes⟩
      exact ⟨_, ⟨pass, listed, rfl⟩, closes⟩

end Places

def lastEvents (keepGoing : Bool) (report : CheckReport) : List Event :=
  if keepGoing = false ∧ report.verdict = .failed then [.stoppedEarly report.comparisons] else []

theorem filterMap_lastEvents {Image : Type} {image : Event → Option Image} (keepGoing : Bool) (report : CheckReport) :
    (lastEvents keepGoing report).filterMap image =
      if keepGoing = false ∧ report.verdict = .failed then (image (.stoppedEarly report.comparisons)).toList
      else [] := by
  unfold lastEvents
  split
  · rw [filterMap_cons_toList, List.filterMap_nil, List.append_nil]
  · rfl

theorem eq_stoppedEarly_of_mem_lastEvents {keepGoing : Bool} {report : CheckReport} {event : Event}
    (told : event ∈ lastEvents keepGoing report) : event = .stoppedEarly report.comparisons := by
  unfold lastEvents at told
  split at told
  · exact List.mem_singleton.1 told
  · cases told

section Log

variable {runs : List Run} {keepGoing : Bool}

theorem begins_movesMade (keepGoing : Bool) (runs : List Run) :
    movesMade keepGoing runs <+: (plan runs).flatMap Pass.moves := by
  cases keepGoing with
  | true => exact List.prefix_rfl
  | false => exact List.take_prefix _ _

theorem violations_eq_filterMap_movesMade :
    (runChecks runs keepGoing).report.violations = (movesMade keepGoing runs).filterMap Move.violation? := by
  unfold runChecks
  rw [walk_eq, walkMoves_eq]
  rfl

theorem signals_eq :
    (runChecks runs keepGoing).signals =
      (movesMade keepGoing runs).flatMap Move.signals ++
        (lastEvents keepGoing (runChecks runs keepGoing).report).map .event := by
  have stopped : (!keepGoing && ((plan runs).flatMap Pass.moves).any Move.fails) = true ↔
      keepGoing = false ∧ (runChecks runs keepGoing).report.verdict = .failed := by
    rw [runChecks_verdict_failed_iff, violations_eq_filterMap_movesMade, ne_eq, List.filterMap_eq_nil_iff, movesMade]
    simp only [← Move.fails_eq_false_iff, forall_reached_iff]
    -- What the moves are has no part in this, and simp would look into their passes.
    generalize (plan runs).flatMap Pass.moves = moves
    simp
  have last : (lastEvents keepGoing (runChecks runs keepGoing).report).map Signal.event =
      if keepGoing = false ∧ (runChecks runs keepGoing).report.verdict = .failed then
        [.event (.stoppedEarly (runChecks runs keepGoing).report.comparisons)] else [] := by
    unfold lastEvents
    split
    · rfl
    · rfl
  have whole : (runChecks runs keepGoing).signals =
      (walk keepGoing (plan runs)).signals ++ if (walk keepGoing (plan runs)).stopped then
        [.event (.stoppedEarly (runChecks runs keepGoing).report.comparisons)] else [] := rfl
  rw [last]
  simp only [whole, walk_eq, walkMoves_eq, stopped]
  rfl

theorem events_eq :
    (runChecks runs keepGoing).events =
      (movesMade keepGoing runs).flatMap Move.events ++ lastEvents keepGoing (runChecks runs keepGoing).report := by
  change (runChecks runs keepGoing).signals.filterMap Signal.event? = _
  rw [signals_eq, List.filterMap_append, List.filterMap_flatMap, Signal.filterMap_event]
  rfl

theorem filterMap_events {Image : Type} {image : Event → Option Image}
    (silent : ∀ closing property, Event.closes? closing = some property → image closing = none) :
    (runChecks runs keepGoing).events.filterMap image =
      ((movesMade keepGoing runs).flatMap fun move =>
        (move.start?.bind fun index => image (.validityStarted index)).toList ++
          (move.violation?.bind fun found => image found.event).toList) ++
      (lastEvents keepGoing (runChecks runs keepGoing).report).filterMap image := by
  have read {Told : Type} (event : Told → Event) (found : Option Told) :
      (found.toList.map event).filterMap image = (found.bind fun told => image (event told)).toList := by
    cases found with
    | none => rfl
    | some told =>
      rw [Option.toList_some, List.map_singleton, filterMap_cons_toList, List.filterMap_nil, List.append_nil]
      rfl
  have each (move : Move) (made : move ∈ movesMade keepGoing runs) : move.events.filterMap image =
      (move.start?.bind fun index => image (.validityStarted index)).toList ++
        (move.violation?.bind fun found => image found.event).toList := by
    cases move with
    | compare step =>
      rw [Move.events_compare, List.filterMap_append, read, read]
      rfl
    | close closing =>
      obtain ⟨property, closes⟩ := exists_closes_of_close_mem (mem_of_mem_reached made)
      exact List.filterMap_cons_none (silent closing property closes)
  rw [events_eq, List.filterMap_append, List.filterMap_flatMap, List.flatMap_congr each]

theorem closing_mem_events_iff {event : Event} {property : Property} (closes : event.closes? = some property) :
    event ∈ (runChecks runs keepGoing).events ↔ .close event ∈ movesMade keepGoing runs := by
  rw [events_eq, List.mem_append, List.mem_flatMap]
  apply Iff.intro
  · rintro (⟨move, made, told⟩ | last)
    · rw [← Move.eq_close_of_closes told closes]
      exact made
    · rw [eq_stoppedEarly_of_mem_lastEvents last] at closes
      cases closes
  · intro made
    exact Or.inl ⟨_, made, List.mem_cons_self⟩

theorem exists_move_of_signals_eq {before after : List Signal} {here : Signal}
    (split : (runChecks runs keepGoing).signals = before ++ here :: after)
    (notLast : ∀ comparisons, here ≠ .event (.stoppedEarly comparisons)) :
    ∃ earlier move later unmade inner rest, (plan runs).flatMap Pass.moves = earlier ++ move :: (later ++ unmade) ∧
      move.signals = inner ++ here :: rest ∧ before = earlier.flatMap Move.signals ++ inner ∧
      traceOf after = traceOf (rest ++ later.flatMap Move.signals) := by
  obtain ⟨told, behind, ofMoves⟩ : ∃ told, (movesMade keepGoing runs).flatMap Move.signals = before ++ here :: told ∧
      traceOf after = traceOf told := by
    rw [signals_eq, lastEvents] at split
    split at split
    · rcases after.eq_nil_or_concat with rfl | ⟨kept, last, rfl⟩
      · obtain ⟨-, same⟩ := List.append_inj' split rfl
        exact absurd (List.cons.inj same).1.symm (notLast _)
      · rw [List.concat_eq_append, ← List.cons_append, ← List.append_assoc] at split
        obtain ⟨told, same⟩ := List.append_inj' split rfl
        refine ⟨kept, told, ?_⟩
        rw [List.concat_eq_append, ← same, traceOf, List.filterMap_append]
        exact List.append_nil _
    · exact ⟨after, by rwa [List.map_nil, List.append_nil] at split, rfl⟩
  obtain ⟨earlier, move, later, inner, rest, made, within, earlierTold, laterTold⟩ := exists_block_of_flatMap_eq behind
  obtain ⟨unmade, planned⟩ := begins_movesMade keepGoing runs
  refine ⟨earlier, move, later, unmade, inner, rest, ?_, within, earlierTold, by rw [ofMoves, laterTold]⟩
  rw [← planned, made, List.append_assoc, List.cons_append]

end Log

end AgreementAudit

import AgreementAudit.Audit

/-! What a walk through a plan amounts to. The passes of a plan become one list of moves; a walk makes all of
them, or it makes those up to the first one that finds a violation, and its tally is read off the moves that
it made. -/
namespace AgreementAudit

/-- A list up to the first member that fails, which is the last one kept. -/
def upToFirst {Member : Type} (fails : Member → Bool) (list : List Member) : List Member :=
  list.take (list.findIdx fails + 1)

/-- The members that are reached: all of them, or those up to the first one that fails. -/
def reached {Member : Type} (keepGoing : Bool) (fails : Member → Bool) (list : List Member) : List Member :=
  if keepGoing then list else upToFirst fails list

section Reached

variable {Member Image : Type} {fails : Member → Bool}

theorem upToFirst_cons (first : Member) (rest : List Member) :
    upToFirst fails (first :: rest) = if fails first then [first] else first :: upToFirst fails rest := by
  unfold upToFirst
  rw [List.findIdx_cons]
  cases fails first with
  | true => rfl
  | false => rfl

theorem reached_nil (keepGoing : Bool) : reached keepGoing fails [] = [] := by
  cases keepGoing with
  | true => rfl
  | false => rfl

theorem reached_cons (keepGoing : Bool) (first : Member) (rest : List Member) :
    reached keepGoing fails (first :: rest) =
      if !keepGoing && fails first then [first] else first :: reached keepGoing fails rest := by
  cases keepGoing with
  | true => rfl
  | false => simp [reached, upToFirst_cons]

theorem reached_true (list : List Member) : reached true fails list = list := rfl

theorem reached_map (keepGoing : Bool) (image : Member → Image) (failsThere : Image → Bool) (list : List Member) :
    (reached keepGoing (fun member => failsThere (image member)) list).map image =
      reached keepGoing failsThere (list.map image) := by
  induction list with
  | nil => rw [reached_nil, List.map_nil, reached_nil]
  | cons first rest ih =>
    rw [List.map_cons, reached_cons, reached_cons, ← ih]
    split
    · rfl
    · rfl

theorem reached_filterMap (keepGoing : Bool) (image : Member → Option Image) (failsThere : Image → Bool)
    (kept : ∀ member, fails member = (image member).any failsThere) (list : List Member) :
    (reached keepGoing fails list).filterMap image = reached keepGoing failsThere (list.filterMap image) := by
  induction list with
  | nil => rw [reached_nil, List.filterMap_nil, reached_nil]
  | cons first rest ih =>
    rw [reached_cons, List.filterMap_cons, kept first]
    cases found : image first with
    | none => simp [found, ih]
    | some there =>
      simp only [Option.any_some, reached_cons]
      split
      · simp [found]
      · simp [found, ih]

theorem filterMap_cons_toList (image : Member → Option Image) (first : Member) (rest : List Member) :
    (first :: rest).filterMap image = (image first).toList ++ rest.filterMap image := by
  rw [List.filterMap_cons]
  cases image first with
  | none => rfl
  | some there => rfl

theorem upToFirst_of_silent {list : List Member} (silent : ∀ member ∈ list, fails member = false) :
    upToFirst fails list = list := by
  unfold upToFirst
  rw [List.findIdx_eq_length.2 (by simpa using silent)]
  exact List.take_of_length_le (Nat.le_succ _)

theorem upToFirst_append (first second : List Member) :
    upToFirst fails (first ++ second) =
      if first.any fails then upToFirst fails first else first ++ upToFirst fails second := by
  induction first with
  | nil => rfl
  | cons member rest ih =>
    rw [List.cons_append, upToFirst_cons, upToFirst_cons, ih, List.any_cons]
    cases fails member with
    | true => rfl
    | false =>
      rw [Bool.false_or, if_neg Bool.false_ne_true, if_neg Bool.false_ne_true]
      split
      · rfl
      · rfl

theorem upToFirst_append_of_silent {before : List Member} (silent : ∀ member ∈ before, fails member = false)
    (list : List Member) : upToFirst fails (before ++ list) = before ++ upToFirst fails list := by
  rw [upToFirst_append, if_neg (by simpa using silent)]

theorem upToFirst_of_split {before after : List Member} {failing : Member}
    (silent : ∀ member ∈ before, fails member = false) (fault : fails failing = true) :
    upToFirst fails (before ++ failing :: after) = before ++ [failing] := by
  rw [upToFirst_append_of_silent silent, upToFirst_cons, if_pos fault]

theorem mem_upToFirst_append_cons {before : List Member} (silent : ∀ member ∈ before, fails member = false)
    (here : Member) (after : List Member) : here ∈ upToFirst fails (before ++ here :: after) := by
  rw [upToFirst_append_of_silent silent, upToFirst_cons]
  apply List.mem_append_right
  split
  · exact List.mem_cons_self
  · exact List.mem_cons_self

theorem silent_or_split (fails : Member → Bool) (list : List Member) :
    (∀ member ∈ list, fails member = false) ∨
      ∃ before failing after, list = before ++ failing :: after ∧
        (∀ member ∈ before, fails member = false) ∧ fails failing = true := by
  cases search : list.find? fails with
  | none => exact Or.inl (by simpa using search)
  | some failing =>
    obtain ⟨fault, before, after, split, silent⟩ := List.find?_eq_some_iff_append.1 search
    exact Or.inr ⟨before, failing, after, split, by simpa using silent, fault⟩

theorem mem_of_mem_reached {keepGoing : Bool} {list : List Member} {member : Member}
    (met : member ∈ reached keepGoing fails list) : member ∈ list := by
  cases keepGoing with
  | true => exact met
  | false => exact List.mem_of_mem_take met

theorem forall_reached_iff {keepGoing : Bool} {list : List Member} :
    (∀ member ∈ reached keepGoing fails list, fails member = false) ↔
      ∀ member ∈ list, fails member = false := by
  cases keepGoing with
  | true => rfl
  | false =>
    change (∀ member ∈ upToFirst fails list, fails member = false) ↔ _
    apply Iff.intro
    · intro quiet
      rcases silent_or_split fails list with silent | ⟨before, failing, after, rfl, silent, fault⟩
      · exact silent
      · rw [upToFirst_of_split silent fault] at quiet
        have contrary := quiet failing (by simp)
        rw [fault] at contrary
        cases contrary
    · intro silent member inside
      exact silent member (List.mem_of_mem_take inside)

theorem exists_block_of_flatMap_eq {block : Member → List Image} {list : List Member} {before after : List Image}
    {here : Image} (split : list.flatMap block = before ++ here :: after) :
    ∃ earlier member later inner rest, list = earlier ++ member :: later ∧ block member = inner ++ here :: rest ∧
      before = earlier.flatMap block ++ inner ∧ after = rest ++ later.flatMap block := by
  induction list generalizing before with
  | nil =>
    rw [List.flatMap_nil] at split
    exact absurd split.symm (List.append_ne_nil_of_right_ne_nil _ (List.cons_ne_nil _ _))
  | cons first list ih =>
    have further {before : List Image} (split : list.flatMap block = before ++ here :: after) :
        ∃ earlier member later inner rest, first :: list = earlier ++ member :: later ∧
          block member = inner ++ here :: rest ∧ block first ++ before = earlier.flatMap block ++ inner ∧
          after = rest ++ later.flatMap block := by
      obtain ⟨earlier, member, later, inner, rest, rfl, within, rfl, behind⟩ := ih split
      refine ⟨first :: earlier, member, later, inner, rest, rfl, within, ?_, behind⟩
      rw [List.flatMap_cons, List.append_assoc]
    rw [List.flatMap_cons] at split
    rcases List.append_eq_append_iff.1 split with ⟨inner, rfl, later⟩ | ⟨rest, within, later⟩
    · exact further later
    · cases rest with
      | nil =>
        have wholly : before = block first ++ [] := by rw [within, List.append_nil, List.append_nil]
        rw [wholly]
        exact further later.symm
      | cons other rest =>
        obtain ⟨rfl, rfl⟩ := List.cons.inj later
        exact ⟨[], first, list, before, rest, rfl, within, rfl, rfl⟩

end Reached

namespace Tally

theorem nothing_followedBy (next : Unit → Tally) : nothing.followedBy next = next () := by
  simp [followedBy, nothing]

theorem followedBy_nothing (first : Tally) : (first.followedBy fun _ => nothing) = first := by
  unfold followedBy
  split
  · rfl
  next going =>
    rw [Bool.not_eq_true] at going
    simp [nothing, ← going]

theorem followedBy_assoc (first second third : Tally) :
    ((first.followedBy fun _ => second).followedBy fun _ => third) =
      first.followedBy fun _ => second.followedBy fun _ => third := by
  cases stoppedFirst : first.stopped with
  | true => simp [followedBy, stoppedFirst]
  | false =>
    cases stoppedSecond : second.stopped with
    | true => simp [followedBy, stoppedFirst, stoppedSecond]
    | false => simp [followedBy, stoppedFirst, stoppedSecond, Nat.add_assoc]

end Tally

/-- One thing that a walk does: it makes a comparison or closes a pass. -/
inductive Move
  | compare (step : Comparison × Progress)
  | close (event : Event)

namespace Move

def step? : Move → Option (Comparison × Progress)
  | .compare step => some step
  | .close _ => none

def violation? (move : Move) : Option Violation := move.step?.bind fun step => step.1.violation?

def fails (move : Move) : Bool := move.violation?.isSome

def tally (keepGoing : Bool) : Move → Tally
  | .compare step => makeComparison keepGoing step
  | .close event => .telling [event]

def signals (move : Move) : List Signal := (move.tally true).signals

theorem tally_eq (keepGoing : Bool) (move : Move) :
    move.tally keepGoing =
      ⟨move.step?.toList.length, move.violation?.toList, move.signals, !keepGoing && move.fails⟩ := by
  cases move with
  | close event => simp [tally, Tally.telling, step?, violation?, signals, fails]
  | compare step =>
    simp only [tally, makeComparison, step?, violation?, signals, fails, Option.bind_some]
    cases step.1.violation? with
    | none => simp
    | some found => simp

end Move

def walkMoves (keepGoing : Bool) : List Move → Tally
  | [] => .nothing
  | move :: rest => (move.tally keepGoing).followedBy fun _ => walkMoves keepGoing rest

theorem walkMoves_append (keepGoing : Bool) (first second : List Move) :
    walkMoves keepGoing (first ++ second) =
      (walkMoves keepGoing first).followedBy fun _ => walkMoves keepGoing second := by
  induction first with
  | nil => exact (Tally.nothing_followedBy fun _ => walkMoves keepGoing second).symm
  | cons move rest ih => rw [List.cons_append, walkMoves, walkMoves, ih, Tally.followedBy_assoc]

/-- The tally of a walk is that of the moves it reaches. -/
theorem walkMoves_eq (keepGoing : Bool) (moves : List Move) :
    walkMoves keepGoing moves =
      ⟨((reached keepGoing Move.fails moves).filterMap Move.step?).length,
        (reached keepGoing Move.fails moves).filterMap Move.violation?,
        (reached keepGoing Move.fails moves).flatMap Move.signals, !keepGoing && moves.any Move.fails⟩ := by
  induction moves with
  | nil => simp [walkMoves, Tally.nothing, reached_nil]
  | cons move rest ih =>
    rw [walkMoves, ih, Move.tally_eq, reached_cons]
    cases stops : (!keepGoing && move.fails) with
    | true =>
      have ended : keepGoing = false := by simpa using (Bool.and_eq_true_iff.1 stops).1
      have fault : move.fails = true := (Bool.and_eq_true_iff.1 stops).2
      simp [Tally.followedBy, filterMap_cons_toList, ended, fault]
    | false =>
      have onward : (!keepGoing && (move :: rest).any Move.fails) = (!keepGoing && rest.any Move.fails) := by
        rw [List.any_cons, Bool.and_or_distrib_left, stops, Bool.false_or]
      rw [onward]
      simp [Tally.followedBy, filterMap_cons_toList]

def Pass.moves (pass : Pass) : List Move := pass.steps.map .compare ++ [.close pass.closing]

theorem walkSteps_eq (keepGoing : Bool) (steps : List (Comparison × Progress)) :
    walkSteps keepGoing steps = walkMoves keepGoing (steps.map .compare) := by
  induction steps with
  | nil => rfl
  | cons step rest ih => rw [walkSteps, ih, List.map_cons, walkMoves, Move.tally]

theorem walk_eq (keepGoing : Bool) (passes : List Pass) :
    walk keepGoing passes = walkMoves keepGoing (passes.flatMap Pass.moves) := by
  induction passes with
  | nil => rfl
  | cons pass rest ih =>
    have closing : walkMoves keepGoing [.close pass.closing] = .telling [pass.closing] :=
      Tally.followedBy_nothing (.telling [pass.closing])
    rw [walk, ih, walkSteps_eq, List.flatMap_cons, Pass.moves, walkMoves_append, walkMoves_append, closing,
      Tally.followedBy_assoc]

def stepsOf (runs : List Run) : List (Comparison × Progress) := (plan runs).flatMap Pass.steps

def Comparison.fails (comparison : Comparison) : Bool := comparison.violation?.isSome

/-- The comparisons that an audit makes, with their places. -/
def made (keepGoing : Bool) (runs : List Run) : List (Comparison × Progress) :=
  reached keepGoing (fun step => step.1.fails) (stepsOf runs)

theorem filterMap_step_moves (passes : List Pass) :
    (passes.flatMap Pass.moves).filterMap Move.step? = passes.flatMap Pass.steps := by
  induction passes with
  | nil => rfl
  | cons pass rest ih =>
    have steps : (pass.steps.map Move.compare).filterMap Move.step? = pass.steps := by
      rw [List.filterMap_map]
      exact List.filterMap_some
    rw [List.flatMap_cons, List.filterMap_append, ih, Pass.moves, List.filterMap_append, steps]
    simp [Move.step?]

theorem filterMap_step_reached (keepGoing : Bool) (runs : List Run) :
    (reached keepGoing Move.fails ((plan runs).flatMap Pass.moves)).filterMap Move.step? =
      made keepGoing runs := by
  rw [reached_filterMap keepGoing Move.step? (fun step => step.1.fails), filterMap_step_moves]
  · rfl
  · intro move
    cases move with
    | compare step => rfl
    | close event => rfl

def Signal.progress? : Signal → Option Progress
  | .event _ => none
  | .progress found => some found

theorem progress_signals (move : Move) :
    move.signals.filterMap Signal.progress? = move.step?.toList.map Prod.snd := by
  cases move with
  | close event => rfl
  | compare step =>
    have silent (events : List Event) : (events.map Signal.event).filterMap Signal.progress? = [] := by
      simp [List.filterMap_map, Function.comp_def, Signal.progress?]
    simp only [Move.signals, Move.tally, makeComparison]
    cases step.1.violation? with
    | none => simp [silent, Move.step?, Signal.progress?]
    | some found => simp [silent, Move.step?, Signal.progress?]

theorem filterMap_progress_signals (moves : List Move) :
    (moves.flatMap Move.signals).filterMap Signal.progress? = (moves.filterMap Move.step?).map Prod.snd := by
  induction moves with
  | nil => rfl
  | cons move rest ih =>
    rw [List.flatMap_cons, List.filterMap_append, ih, progress_signals, filterMap_cons_toList, List.map_append]

section Report

variable (keepGoing : Bool) (runs : List Run)

theorem runChecks_comparisons : (runChecks runs keepGoing).report.comparisons = (made keepGoing runs).length := by
  unfold runChecks
  rw [walk_eq, walkMoves_eq, filterMap_step_reached]

theorem runChecks_violations :
    (runChecks runs keepGoing).report.violations =
      (made keepGoing runs).filterMap fun step => step.1.violation? := by
  unfold runChecks
  rw [walk_eq, walkMoves_eq, ← filterMap_step_reached, List.filterMap_filterMap]
  rfl

theorem runChecks_progress : (runChecks runs keepGoing).progress = (made keepGoing runs).map Prod.snd := by
  change (runChecks runs keepGoing).signals.filterMap Signal.progress? = _
  unfold runChecks
  have noLast : ∀ (stopped : Bool) (event : Event),
      (if stopped then [Signal.event event] else []).filterMap Signal.progress? = [] := by
    intro stopped event
    cases stopped with
    | true => rfl
    | false => rfl
  rw [walk_eq, walkMoves_eq, List.filterMap_append, noLast, List.append_nil, filterMap_progress_signals,
    filterMap_step_reached]

/-- Of its plan an audit makes the first comparisons, as many as it counts. -/
theorem begins_made : made keepGoing runs <+: stepsOf runs := by
  cases keepGoing with
  | true => exact List.prefix_rfl
  | false => exact List.take_prefix _ _

theorem made_eq_take :
    made keepGoing runs = (stepsOf runs).take (runChecks runs keepGoing).report.comparisons := by
  rw [runChecks_comparisons]
  exact List.prefix_iff_eq_take.1 (begins_made keepGoing runs)

end Report

/-- The comparisons of a plan in order. -/
def planned (runs : List Run) : List Comparison := (plan runs).flatMap Pass.comparisons

theorem planned_eq (runs : List Run) :
    planned runs =
      runs.map .validity ++ runs.map (.possible · (proposedValues (runs.map Run.config))) ++
        (pairs runs).map fun pair => .chain pair.1 pair.2 := by
  simp [planned, plan]

theorem map_fst_steps (runs : List Run) : (stepsOf runs).map Prod.fst = planned runs := by
  have each (pass : Pass) : pass.steps.map Prod.fst = pass.comparisons := by
    simp [Pass.steps, List.map_map, Function.comp_def, List.zipIdx_map_fst]
  simp only [stepsOf, planned, List.map_flatMap, each]

theorem map_fst_made (keepGoing : Bool) (runs : List Run) :
    (made keepGoing runs).map Prod.fst = reached keepGoing Comparison.fails (planned runs) := by
  rw [made, reached_map keepGoing Prod.fst Comparison.fails, map_fst_steps]

end AgreementAudit

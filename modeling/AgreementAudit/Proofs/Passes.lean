import Mathlib.Data.List.Forall2
import Mathlib.Data.Nat.Choose.Basic
import AgreementAudit.Proofs.CompleteReport

/-! The three passes of a plan in a row. Each makes its comparisons one after another and counts them from one, and
what stands before a pass are all the comparisons of the earlier passes. -/
namespace AgreementAudit

def Property.rank : Property → Nat
  | .validity => 0
  | .universeContainment => 1
  | .chainConsistency => 2

def Property.total (count : Nat) : Property → Nat
  | .validity => count
  | .universeContainment => count
  | .chainConsistency => count * (count - 1) / 2

def Property.inOrder : List Property := [.validity, .universeContainment, .chainConsistency]

/-- The property whose pass has been completed when the event is reported. -/
def Event.closes? : Event → Option Property
  | .validityDone _ => some .validity
  | .universeDone _ => some .universeContainment
  | .chainDone => some .chainConsistency
  | _ => none

def stepsTaken (trace : List Progress) (property : Property) : Nat :=
  trace.countP fun entry => entry.property = property

theorem stepsTaken_append (first second : List Progress) (property : Property) :
    stepsTaken (first ++ second) property = stepsTaken first property + stepsTaken second property :=
  List.countP_append

theorem stepsTaken_of_forall {trace : List Progress} {property : Property}
    (same : ∀ entry ∈ trace, entry.property = property) (other : Property) :
    stepsTaken trace other = if property = other then trace.length else 0 := by
  unfold stepsTaken
  split
  next equal => exact List.countP_eq_length.2 fun entry member => decide_eq_true ((same entry member).trans equal)
  next different =>
    refine List.countP_eq_zero.2 fun entry member => ?_
    rw [same entry member]
    exact mt of_decide_eq_true different

theorem Property.mem_inOrder (property : Property) : property ∈ inOrder := by
  cases property with
  | _ => decide

theorem Property.count_around {before after : List Property} {property : Property}
    (split : inOrder = before ++ property :: after) (other : Property) :
    before.count other = (if other.rank < property.rank then 1 else 0) ∧
      after.count other = if property.rank < other.rank then 1 else 0 := by
  unfold inOrder at split
  rcases before with _ | ⟨first, _ | ⟨second, _ | ⟨third, rest⟩⟩⟩
  · cases split
    cases other with
    | _ => decide
  · cases split
    cases other with
    | _ => decide
  · cases split
    cases other with
    | _ => decide
  · have counted := congrArg List.length split
    simp at counted

namespace Pass

def entries (pass : Pass) : List Progress := pass.steps.map Prod.snd

theorem length_steps (pass : Pass) : pass.steps.length = pass.comparisons.length := by
  rw [steps, List.length_map, List.length_zipIdx]

theorem steps_eq_append {pass : Pass} {before after : List (Comparison × Progress)} {step : Comparison × Progress}
    (split : pass.steps = before ++ step :: after) :
    step.1 ∈ pass.comparisons ∧ before.length < pass.comparisons.length ∧
      step.2 = step.1.progress (before.length + 1) pass.comparisons.length := by
  have here : pass.steps[before.length]? = some step := by
    rw [split, List.getElem?_append_right (Nat.le_refl _), Nat.sub_self]
    rfl
  rw [steps, List.getElem?_map, List.getElem?_zipIdx, Option.map_map, Option.map_eq_some_iff] at here
  obtain ⟨comparison, found, rfl⟩ := here
  obtain ⟨within, -⟩ := List.getElem?_eq_some_iff.1 found
  exact ⟨List.mem_of_getElem? found, within, by rw [Nat.add_comm]; rfl⟩

theorem of_mem_steps {pass : Pass} {step : Comparison × Progress} (listed : step ∈ pass.steps) :
    step.1 ∈ pass.comparisons ∧ step.2.property = step.1.property := by
  obtain ⟨before, after, split⟩ := List.append_of_mem listed
  obtain ⟨inside, -, told⟩ := steps_eq_append split
  rw [told]
  exact ⟨inside, rfl⟩

/-- A pass that makes the comparisons of one property, as many as there are for a number of processes. -/
structure IsFor (count : Nat) (pass : Pass) (property : Property) : Prop where
  comparisons : ∀ comparison ∈ pass.comparisons, comparison.property = property
  length : pass.comparisons.length = property.total count
  closing : pass.closing.closes? = some property

variable {count : Nat} {pass : Pass} {property : Property}

theorem IsFor.property_of_mem (isFor : IsFor count pass property) {entry : Progress}
    (member : entry ∈ pass.entries) : entry.property = property := by
  obtain ⟨step, listed, rfl⟩ := List.mem_map.1 member
  obtain ⟨inside, told⟩ := of_mem_steps listed
  exact told.trans (isFor.comparisons _ inside)

theorem IsFor.stepsTaken_entries (isFor : IsFor count pass property) (other : Property) :
    stepsTaken pass.entries other = if property = other then other.total count else 0 := by
  rw [stepsTaken_of_forall fun entry => isFor.property_of_mem, entries, List.length_map, length_steps, isFor.length]
  split
  next same => rw [same]
  next => rfl

theorem stepsTaken_flatMap_entries {passes : List Pass} {properties : List Property}
    (each : List.Forall₂ (IsFor count) passes properties) (other : Property) :
    stepsTaken (passes.flatMap entries) other = properties.count other * other.total count := by
  induction each with
  | nil => exact (Nat.zero_mul _).symm
  | cons isFor _ ih =>
    rw [List.flatMap_cons, stepsTaken_append, ih, isFor.stepsTaken_entries, List.count_cons, Nat.add_mul, Nat.add_comm]
    simp [beq_iff_eq]

theorem exists_closes_iff {passes : List Pass} {properties : List Property}
    (each : List.Forall₂ (IsFor count) passes properties) {other : Property} :
    (∃ pass ∈ passes, pass.closing.closes? = some other) ↔ other ∈ properties := by
  induction each with
  | nil => simp
  | cons isFor _ ih =>
    rw [List.exists_mem_cons_iff, ih, List.mem_cons, isFor.closing, Option.some_inj, eq_comm]

end Pass

theorem exists_split_of_forall₂ {Member Image : Type} {related : Member → Image → Prop} {before after : List Member}
    {here : Member} {images : List Image} (each : List.Forall₂ related (before ++ here :: after) images) :
    ∃ earlier image later, images = earlier ++ image :: later ∧ List.Forall₂ related before earlier ∧
      related here image ∧ List.Forall₂ related after later := by
  induction before generalizing images with
  | nil =>
    obtain ⟨image, later, first, rest, rfl⟩ := List.forall₂_cons_left_iff.1 each
    exact ⟨[], image, later, rfl, .nil, first, rest⟩
  | cons first before ih =>
    obtain ⟨image, others, same, rest, rfl⟩ := List.forall₂_cons_left_iff.1 each
    obtain ⟨earlier, other, later, rfl, before, here, after⟩ := ih rest
    exact ⟨image :: earlier, other, later, rfl, .cons same before, here, after⟩

section Plan

variable (runs : List Run)

theorem plan_isFor : List.Forall₂ (Pass.IsFor runs.length) (plan runs) Property.inOrder := by
  refine .cons ⟨?_, List.length_map _, rfl⟩ (.cons ⟨?_, List.length_map _, rfl⟩ (.cons ⟨?_, ?_, rfl⟩ .nil))
  · exact List.forall_mem_map.2 fun _ _ => rfl
  · exact List.forall_mem_map.2 fun _ _ => rfl
  · exact List.forall_mem_map.2 fun _ _ => rfl
  · rw [List.length_map, length_pairs, Nat.choose_two_right]
    rfl

/-- A pass in its place: the passes before it close the earlier properties and make all their comparisons, and those
behind it make all comparisons of the later ones. -/
structure StandsFor (before : List Pass) (pass : Pass) (after : List Pass) (property : Property) : Prop where
  isFor : pass.IsFor runs.length property
  closed : ∀ other, (∃ earlier ∈ before, earlier.closing.closes? = some other) ↔ other.rank < property.rank
  before : ∀ other, stepsTaken (before.flatMap Pass.entries) other =
    if other.rank < property.rank then other.total runs.length else 0
  after : ∀ other, stepsTaken (after.flatMap Pass.entries) other =
    if property.rank < other.rank then other.total runs.length else 0

variable {runs}

theorem exists_standsFor {before after : List Pass} {pass : Pass} (split : plan runs = before ++ pass :: after) :
    ∃ property, StandsFor runs before pass after property := by
  have each := plan_isFor runs
  rw [split] at each
  obtain ⟨earlier, property, later, ordered, before, isFor, after⟩ := exists_split_of_forall₂ each
  refine ⟨property, isFor, fun other => ?_, fun other => ?_, fun other => ?_⟩
  · rw [Pass.exists_closes_iff before, ← List.count_pos_iff, (Property.count_around ordered other).1]
    split
    next earlier => exact iff_of_true Nat.one_pos earlier
    next later => exact iff_of_false (Nat.lt_irrefl 0) later
  · rw [Pass.stepsTaken_flatMap_entries before, (Property.count_around ordered other).1, ite_mul, Nat.one_mul,
      Nat.zero_mul]
  · rw [Pass.stepsTaken_flatMap_entries after, (Property.count_around ordered other).2, ite_mul, Nat.one_mul,
      Nat.zero_mul]

end Plan

end AgreementAudit

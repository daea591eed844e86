import AgreementAudit.Event

/-! The audit of a list of runs: a plan of passes, the walk through it and the report. A walk makes the
comparisons of the plan in order. It may be told to end at the first violation; then the rest of the
plan leaves no trace. -/
namespace AgreementAudit

inductive Comparison
  | validity (run : Run)
  | possible (run : Run) (values : ValueSet)
  | chain (left right : Run)

namespace Comparison

def property : Comparison → Property
  | .validity _ => .validity
  | .possible .. => .universeContainment
  | .chain .. => .chainConsistency

def subject : Comparison → String
  | .validity run => run.config.path
  | .possible run _ => run.output.path
  | .chain left _ => left.output.path

def against : Comparison → String
  | .validity run => run.output.path
  | .possible .. => "possible values"
  | .chain _ right => right.output.path

def violation? : Comparison → Option Violation
  | .validity run => checkValidity run.config run.output
  | .possible run values => checkUniverse run.output values
  | .chain left right => checkComparable left.output right.output

def opening : Comparison → List Event
  | .validity run => [.validityStarted run.record.index]
  | .possible .. => []
  | .chain .. => []

def progress (comparison : Comparison) (step total : Nat) : Progress where
  property := comparison.property
  subject := comparison.subject
  against := comparison.against
  step
  total

end Comparison

structure Pass where
  comparisons : List Comparison
  closing : Event

def Pass.steps (pass : Pass) : List (Comparison × Progress) :=
  let total := pass.comparisons.length
  (pass.comparisons.zipIdx 1).map fun (comparison, step) => (comparison, comparison.progress step total)

/-- Every two members of a list, an earlier one before a later one. -/
def pairs {Member : Type} : List Member → List (Member × Member)
  | [] => []
  | first :: rest => rest.map (first, ·) ++ pairs rest

/-- All comparisons for a list of runs: validity and containment once for each run, order once for each pair. -/
def plan (runs : List Run) : List Pass :=
  let possible := proposedValues (runs.map Run.config)
  [{ comparisons := runs.map .validity, closing := .validityDone runs.length },
    { comparisons := runs.map (.possible · possible), closing := .universeDone possible.size },
    { comparisons := (pairs runs).map fun (left, right) => .chain left right, closing := .chainDone }]

/-- What a walk tells its watcher: an event, or that a comparison is about to be made. -/
inductive Signal
  | event (event : Event)
  | progress (progress : Progress)
deriving DecidableEq

structure Tally where
  comparisons : Nat
  violations : List Violation
  signals : List Signal
  stopped : Bool
deriving DecidableEq

namespace Tally

def nothing : Tally := ⟨0, [], [], false⟩

def telling (events : List Event) : Tally := ⟨0, [], events.map .event, false⟩

/-- One walk after another. A walk that was stopped is followed by nothing. -/
def followedBy (first : Tally) (second : Unit → Tally) : Tally :=
  if first.stopped then first
  else
    let rest := second ()
    ⟨first.comparisons + rest.comparisons, first.violations ++ rest.violations,
      first.signals ++ rest.signals, rest.stopped⟩

end Tally

def makeComparison (keepGoing : Bool) (step : Comparison × Progress) : Tally :=
  let opening := step.1.opening.map .event ++ [.progress step.2]
  match step.1.violation? with
  | none => ⟨1, [], opening, false⟩
  | some found =>
    ⟨1, [found], opening ++ [.event (.violationFound found.property found.subject found.round)], !keepGoing⟩

def walkSteps (keepGoing : Bool) : List (Comparison × Progress) → Tally
  | [] => .nothing
  | step :: rest => (makeComparison keepGoing step).followedBy fun _ => walkSteps keepGoing rest

def walk (keepGoing : Bool) : List Pass → Tally
  | [] => .nothing
  | pass :: rest =>
    (walkSteps keepGoing pass.steps).followedBy fun _ =>
      (Tally.telling [pass.closing]).followedBy fun _ => walk keepGoing rest

inductive Verdict
  | passed
  | failed
deriving DecidableEq

def Verdict.key : Verdict → String
  | .passed => "passed"
  | .failed => "failed"

structure CheckReport where
  verdict : Verdict
  processes : Nat
  comparisons : Nat
  violations : List Violation
deriving DecidableEq

def CheckReport.passed (report : CheckReport) : Bool := report.verdict = .passed

structure Audit where
  report : CheckReport
  signals : List Signal
deriving DecidableEq

def Audit.events (audit : Audit) : List Event :=
  audit.signals.filterMap fun signal =>
    match signal with
    | .event event => some event
    | .progress _ => none

def Audit.progress (audit : Audit) : List Progress :=
  audit.signals.filterMap fun signal =>
    match signal with
    | .event _ => none
    | .progress progress => some progress

/-- Walks the whole plan. The verdict is failed exactly when a violation was found, and a walk that was
stopped says so in its last event. -/
def runChecks (runs : List Run) (keepGoing : Bool) : Audit :=
  let tally := walk keepGoing (plan runs)
  let last : List Signal := if tally.stopped then [.event (.stoppedEarly tally.comparisons)] else []
  { report :=
      { verdict := if tally.violations = [] then .passed else .failed
        processes := runs.length
        comparisons := tally.comparisons
        violations := tally.violations }
    signals := tally.signals ++ last }

end AgreementAudit

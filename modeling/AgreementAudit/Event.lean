import AgreementAudit.Text.Control
import AgreementAudit.Violation

/-! What is reported while a command runs. Events say what happened; each comes from a part of the program
and has a level, a message, some fields with names, and a line of text made of these. -/
namespace AgreementAudit

inductive Level
  | error
  | warn
  | info
  | debug
deriving DecidableEq

namespace Level

def rank : Level → Nat
  | .error => 0
  | .warn => 1
  | .info => 2
  | .debug => 3

def label : Level → String
  | .error => "ERROR"
  | .warn => " WARN"
  | .info => " INFO"
  | .debug => "DEBUG"

end Level

/-- The least urgent level that is shown; without one, nothing is. -/
abbrev Verbosity := Option Level

namespace Verbosity

def shows (verbosity : Verbosity) (level : Level) : Bool :=
  match verbosity with
  | none => false
  | some least => level.rank ≤ least.rank

def everything : Verbosity := some .debug

/-- Verbosities count up from zero, which shows nothing; the last number is one more than is needed. -/
def ofNumber? : Nat → Option Verbosity
  | 0 => some none
  | 1 => some (some .error)
  | 2 => some (some .warn)
  | 3 => some (some .info)
  | 4 | 5 => some everything
  | _ => none

def ofName? (name : String) : Option Verbosity :=
  match Text.natural? name.toList with
  | some number => ofNumber? number
  | none =>
    match name.toLower with
    | "off" => some none
    | "error" => some (some .error)
    | "warn" => some (some .warn)
    | "info" => some (some .info)
    | "debug" | "trace" => some everything
    | _ => none

end Verbosity

/-- One comparison about to be made: the two sides and its place within the pass. -/
structure Progress where
  property : Property
  subject : String
  against : String
  step : Nat
  total : Nat
deriving DecidableEq

def Progress.line (progress : Progress) : String :=
  "Checking " ++ progress.subject ++ " against " ++ progress.against ++ ". " ++ progress.step.repr ++ "/" ++
    progress.total.repr

inductive Event
  | countDisagrees (config : Path) (declared found : Nat)
  | lengthsTolerated (config output : Path) (proposals decisions : Nat)
  | processLoaded (index rounds possible : Nat)
  | logsLoaded (processes : Nat)
  | validityStarted (index : Nat)
  | comparing (progress : Progress)
  | violationFound (property : Property) (subject : Path) (round : Nat)
  | validityDone (processes : Nat)
  | universeDone (possible : Nat)
  | chainDone
  | stoppedEarly (comparisons : Nat)
  | proposalsWritten (path : Path)
deriving DecidableEq

inductive Part
  | logs
  | checker
  | generator
  | checkCommand
deriving DecidableEq

/-- The name that a setting knows a part by. What parts have in common is spelled first. -/
def Part.name : Part → String
  | .logs => "lattice_verify::services::logs"
  | .checker => "lattice_verify::services::checker"
  | .generator => "lattice_verify::services::generator"
  | .checkCommand => "lattice_verify::commands::check"

namespace Event

def part : Event → Part
  | .countDisagrees .. | .lengthsTolerated .. | .processLoaded .. => .logs
  | .validityStarted _ | .violationFound .. | .validityDone _ | .universeDone _ | .chainDone | .stoppedEarly _ =>
    .checker
  | .proposalsWritten _ => .generator
  | .logsLoaded _ | .comparing _ => .checkCommand

def level : Event → Level
  | .countDisagrees .. | .lengthsTolerated .. => .warn
  | .logsLoaded _ | .validityDone _ | .universeDone _ | .chainDone | .proposalsWritten _ => .info
  | .processLoaded .. | .validityStarted _ | .comparing _ | .violationFound .. | .stoppedEarly _ => .debug

def message : Event → String
  | .countDisagrees .. => "config header disagrees with proposal count"
  | .lengthsTolerated .. => "length mismatch tolerated, comparing common prefix"
  | .processLoaded .. => "loaded process"
  | .logsLoaded _ => "loaded process logs"
  | .validityStarted _ => "checking validity"
  | .comparing progress => progress.line
  | .violationFound .. => "violation"
  | .validityDone _ => "validity pass done"
  | .universeDone _ => "universe containment pass done"
  | .chainDone => "chain consistency pass done"
  | .stoppedEarly _ => "stopped at first violation"
  | .proposalsWritten _ => "wrote proposals"

def fields : Event → List (String × String)
  | .countDisagrees config declared found =>
    [("path", config), ("declared", declared.repr), ("found", found.repr)]
  | .lengthsTolerated config output proposals decisions =>
    [("config", config), ("output", output), ("proposals", proposals.repr), ("decisions", decisions.repr)]
  | .processLoaded index rounds possible =>
    [("process", index.repr), ("rounds", rounds.repr), ("universe_size", possible.repr)]
  | .logsLoaded processes => [("processes", processes.repr)]
  | .validityStarted index => [("process", index.repr)]
  | .comparing progress => [("property", progress.property.title)]
  | .violationFound property subject round =>
    [("property", property.title), ("subject", subject), ("round", round.repr)]
  | .validityDone processes => [("processes", processes.repr)]
  | .universeDone possible => [("universe", possible.repr)]
  | .chainDone => []
  | .stoppedEarly comparisons => [("comparisons", comparisons.repr)]
  | .proposalsWritten path => [("path", path)]

def fieldNames (event : Event) : List String := "message" :: event.fields.map Prod.fst

/-- The level, the message, and each field as its name and its value around an equals sign. Only the message
has its steering characters shown by their codes. -/
def line (event : Event) : String :=
  event.level.label ++ " " ++ Text.showControls event.message ++
    String.join (event.fields.map fun (name, value) => " " ++ name ++ "=" ++ value)

end Event

end AgreementAudit

import AgreementAudit.CommandLine.Invocation
import AgreementAudit.EventFilter
import AgreementAudit.Loading
import AgreementAudit.Report

/-! Running a command against a file system. All that a run does is one value: the lines it prints and the
events it reports, in order, how it ends, and the file system it leaves behind. -/
namespace AgreementAudit

open CommandLine (CheckOptions Command GenerateOptions Invocation)

inductive Effect
  | print (line : String)
  | report (event : Event)
deriving DecidableEq

inductive Ending
  | succeeded
  | violated
  | failed (failure : Failure)
deriving DecidableEq

/-- What a machine adds to the error channel on its own account: what it stamps a line of the log with, by the place of
the line, and what it says when a command makes it halt. Colours are left out. -/
structure Machine where
  stamp : Nat → String
  lastWords : Halt → String

def Machine.logText (machine : Machine) (lines : List String) : String :=
  Text.endLines (lines.zipIdx.map fun (line, place) => machine.stamp place ++ line)

namespace Ending

/-- Violations and failures end with one, a halt with the code that the machine sets. -/
def exitCode : Ending → Nat
  | .succeeded => 0
  | .violated => 1
  | .failed (.halted _) => 101
  | .failed _ => 1

/-- The end of the error channel. A refused operation is told with its cause on a line below. -/
def errorText (machine : Machine) : Ending → String
  | .succeeded | .violated => ""
  | .failed (.input error) => "Error: " ++ error.message ++ "\n"
  | .failed (.refused operation path refusal) =>
    "Error: " ++ operation.verb ++ " " ++ path ++ "\n\nCaused by:\n    " ++ refusal.message ++ "\n"
  | .failed (.unwritten refusal) => "Error: " ++ refusal.message ++ "\n"
  | .failed (.halted reason) => machine.lastWords reason

end Ending

structure Outcome where
  effects : List Effect
  ending : Ending
  files : FileSystem

namespace Outcome

def halted (reason : Halt) (files : FileSystem) : Outcome :=
  { effects := [], ending := .failed (.halted reason), files }

def events (outcome : Outcome) : List Event :=
  outcome.effects.filterMap fun effect =>
    match effect with
    | .report event => some event
    | .print _ => none

def printed (outcome : Outcome) : List String :=
  outcome.effects.filterMap fun effect =>
    match effect with
    | .print line => some line
    | .report _ => none

def standardOutput (outcome : Outcome) : String := Text.endLines outcome.printed

def standardError (outcome : Outcome) (filter : EventFilter) (machine : Machine) : String :=
  machine.logText (filter.lines outcome.events) ++ outcome.ending.errorText machine

end Outcome

def printReport (json ok : Bool) (data : Json) (lines : List String) : List Effect :=
  if json then [.print (document ok data).render] else lines.map .print

namespace CommandLine.CheckOptions

def records (options : CheckOptions) : Except Failure (List Record) :=
  match options.logDirectory, options.processes with
  | some directory, some processes => Record.discover directory processes.toNat
  | _, _ => (Record.pair options.configs options.outputs).mapError .input

def load (options : CheckOptions) (fs : FileSystem) : Traced (List Run) := do
  let records ← .ofExcept options.records
  let runs ← Run.loadAll fs options.allowIncomplete records
  .report (.logsLoaded runs.length)
  return runs

/-- Progress is printed line by line, but next to a JSON document it is only an event. -/
def effectOf (json : Bool) : Signal → Effect
  | .event event => .report event
  | .progress progress => if json then .report (.comparing progress) else .print progress.line

def execute (options : CheckOptions) (json : Bool) (fs : FileSystem) : Outcome :=
  let loaded := options.load fs
  let loading := loaded.events.map Effect.report
  match loaded.result with
  | .error failure => { effects := loading, ending := .failed failure, files := fs }
  | .ok runs =>
    let audit := runChecks runs options.keepGoing
    let report := audit.report
    { effects := loading ++ audit.signals.map (effectOf json) ++
        printReport json report.passed report.json report.lines
      ending := if report.passed then .succeeded else .violated
      files := fs }

end CommandLine.CheckOptions

namespace CommandLine.GenerateOptions

variable {State : Type}

def execute (options : GenerateOptions) (json : Bool) (sampler : Sampler State)
    (start : Option UInt64 → State) (fs : FileSystem) : Outcome :=
  let (files, written) :=
    options.parameters.writeConfigs sampler options.directory fs (start options.seed)
  let writing := written.events.map Effect.report
  match written.result with
  | .error failure => { effects := writing, ending := .failed failure, files }
  | .ok report =>
    { effects := writing ++ printReport json true report.json report.lines, ending := .succeeded, files }

end CommandLine.GenerateOptions

def CommandLine.Invocation.execute {State : Type} (invocation : Invocation) (sampler : Sampler State)
    (start : Option UInt64 → State) (fs : FileSystem) : Outcome :=
  match invocation.command with
  | .generate options => options.execute invocation.json sampler start fs
  | .check options => options.execute invocation.json fs

end AgreementAudit

import AgreementAudit.CommandLine.Scan
import AgreementAudit.Generator

/-! From arguments to a command. The flag for JSON may stand on either side of the name of the command,
once on each. -/
namespace AgreementAudit.CommandLine

structure GenerateOptions where
  directory : Path
  parameters : GeneratorParameters
  seed : Option UInt64
deriving DecidableEq

structure CheckOptions where
  configs : List Path
  outputs : List Path
  logDirectory : Option Path
  processes : Option UInt64
  allowIncomplete : Bool
  keepGoing : Bool
deriving DecidableEq

inductive Command
  | generate (options : GenerateOptions)
  | check (options : CheckOptions)
deriving DecidableEq

structure Invocation where
  json : Bool
  command : Command
deriving DecidableEq

namespace Scan

def path (scan : Scan) (name : Name) : Except Stop Path :=
  match (scan.valuesOf name).head? with
  | some path => .ok path
  | none => .error .missingRequired

def value (scan : Scan) (name : Name) : Except Stop UInt32 :=
  match (scan.valuesOf name).head? with
  | some text => ((optionValue? text).map .ok).getD (.error .malformedValue)
  | none => .error .missingRequired

def optionalCount (scan : Scan) (name : Name) : Except Stop (Option UInt64) :=
  match (scan.valuesOf name).head? with
  | some text => ((Text.count? text).map fun count => .ok (some count)).getD (.error .malformedValue)
  | none => .ok none

def count (scan : Scan) (name : Name) : Except Stop UInt64 := do
  match ← scan.optionalCount name with
  | some count => return count
  | none => .error .missingRequired

end Scan

def Verb.command (scan : Scan) : Verb → Except Stop Command
  | .generate => do
    let directory ← scan.path .directory
    let values ← scan.value .values
    let proposals ← scan.count .proposals
    let processes ← scan.count .processes
    let maxLength ← scan.count .maxLength
    let seed ← scan.optionalCount .seed
    return .generate { directory, parameters := { processes, proposals, values, maxLength }, seed }
  | .check => do
    let processes ← scan.optionalCount .processes
    return .check {
      configs := scan.valuesOf .config
      outputs := scan.valuesOf .output
      logDirectory := (scan.valuesOf .logDir).head?
      processes
      allowIncomplete := scan.has .allowIncomplete
      keepGoing := scan.has .keepGoing }

def Verb.invocation (verb : Verb) (json : Bool) (arguments : List String) : Except Stop Invocation := do
  let scan ← Scan.empty.run verb.options (arguments.map Word.ofArgument)
  scan.obey verb.rules
  return { json := json || scan.has .json, command := ← verb.command scan }

/-- Asking for help names at most one command; a word after it is one name too many. -/
def helpOn : List String → Stop
  | [] => .help
  | [name] => if name = "help" ∨ (Verb.ofName? name).isSome then .help else .unknownCommand
  | _ => .unknownCommand

def ended (json : Bool) : Stop := if json then .missingCommand else .noArguments

/-- Reads the arguments in front of the name of a command. -/
def invocation (json : Bool) : List String → Except Stop Invocation
  | [] => .error (ended json)
  | argument :: rest =>
    match Verb.ofName? argument with
    | some verb => verb.invocation json rest
    | none =>
      if argument = "help" then .error (helpOn rest)
      else
        match Word.ofArgument argument with
        | .long "json" none => if json then .error .conflict else invocation true rest
        | .long "help" none | .short 'h' => .error .help
        | .long "version" none | .short 'V' => .error .version
        | .long "json" _ | .long "help" _ | .long "version" _ => .error .valueForFlag
        | .long .. | .short _ => .error .unknownArgument
        | .plain _ => .error .unknownCommand
        | .separator =>
          match rest with
          | [] => .error (ended json)
          | name :: _ =>
            if name = "help" ∨ (Verb.ofName? name).isSome then .error .unknownArgument
            else .error .unknownCommand

def Invocation.ofArguments (arguments : List String) : Except Stop Invocation := invocation false arguments

end AgreementAudit.CommandLine

import AgreementAudit.Text.Numeral

/-! The options of the two commands: how they are spelled, what values they take and which of them go
together. Options have long names only, and a name is never abbreviated. -/
namespace AgreementAudit.CommandLine

/-- Why reading the arguments stops before a command is known. -/
inductive Stop
  | missingRequired
  | unknownArgument
  | malformedValue
  | emptyValue
  | conflict
  | valueForFlag
  | unknownCommand
  | missingCommand
  | noArguments
  | help
  | version
deriving DecidableEq

def Stop.exitCode : Stop → Nat
  | .help | .version => 0
  | _ => 2

def versionText : String := "lattice-verify 0.1.0\n"

inductive Kind
  | path
  | value
  | count
deriving DecidableEq

/-- Reads a value that is given as an option. Here a minus sign may stand in front of the digits, and since
no value lies below zero, such digits are all zeros. -/
def optionValue? (text : String) : Option Value :=
  match text.toList with
  | '-' :: digits => if digits ≠ [] ∧ digits.all (· = '0') then some 0 else none
  | _ => Text.value? text

def Kind.accept : Kind → String → Except Stop Unit
  | .path, text => if text = "" then .error .emptyValue else .ok ()
  | .value, text => if (optionValue? text).isSome then .ok () else .error .malformedValue
  | .count, text => if (Text.count? text).isSome then .ok () else .error .malformedValue

inductive Arity
  | help
  | flag
  | single (kind : Kind)
  | several (kind : Kind)
deriving DecidableEq

inductive Name
  | help
  | json
  | directory
  | values
  | proposals
  | processes
  | maxLength
  | seed
  | config
  | output
  | logDir
  | allowIncomplete
  | keepGoing
deriving DecidableEq

namespace Name

def spellings : Name → List String
  | .help => ["help"]
  | .json => ["json"]
  | .directory => ["directory"]
  | .values => ["values"]
  | .proposals => ["proposals"]
  | .processes => ["processes"]
  | .maxLength => ["max-length", "max_length"]
  | .seed => ["seed"]
  | .config => ["config"]
  | .output => ["output"]
  | .logDir => ["log-dir"]
  | .allowIncomplete => ["allow-incomplete"]
  | .keepGoing => ["keep-going"]

def arity : Name → Arity
  | .help => .help
  | .json | .allowIncomplete | .keepGoing => .flag
  | .directory | .logDir => .single .path
  | .values => .single .value
  | .proposals | .processes | .maxLength | .seed => .single .count
  | .config | .output => .several .path

end Name

/-- What has to hold of the options given together. -/
inductive Rule
  | required (name : Name)
  | requiredUnless (name given : Name)
  | requires (given name : Name)
  | conflicts (left right : Name)
deriving DecidableEq

inductive Verb
  | generate
  | check
deriving DecidableEq

namespace Verb

def ofName? : String → Option Verb
  | "generate" => some .generate
  | "check" => some .check
  | _ => none

def options : Verb → List Name
  | .generate => [.json, .help, .directory, .values, .proposals, .processes, .maxLength, .seed]
  | .check => [.json, .help, .config, .output, .logDir, .processes, .allowIncomplete, .keepGoing]

def rules : Verb → List Rule
  | .generate =>
    [.required .directory, .required .values, .required .proposals, .required .processes,
      .required .maxLength]
  | .check =>
    [.requiredUnless .config .logDir, .conflicts .config .logDir, .requires .config .output,
      .requires .output .config, .requires .logDir .processes, .requires .processes .logDir]

end Verb

end AgreementAudit.CommandLine

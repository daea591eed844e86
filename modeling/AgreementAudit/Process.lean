import AgreementAudit.Header

/-! Processes and their two files. A process proposes one set in each round and decides one set in each
round; its proposals are kept in a config file and its decisions in an output file. -/
namespace AgreementAudit

structure ProposalFile where
  path : Path
  header : Header
  proposals : List ValueSet
deriving DecidableEq

structure DecisionLog where
  path : Path
  decisions : List ValueSet
deriving DecidableEq

/-- Where the files of one process are; processes are numbered from one. -/
structure Record where
  index : Nat
  config : Path
  output : Path
deriving DecidableEq

structure Run where
  record : Record
  config : ProposalFile
  output : DecisionLog
deriving DecidableEq

/-- The name of a file of a process: its number has at least two digits. -/
def fileName (index : Nat) (extension : String) : String :=
  "proc" ++ Text.twoDigits index ++ "." ++ extension

def configName (index : Nat) : String := fileName index "config"

def outputName (index : Nat) : String := fileName index "output"

/-- A request for a list of entries is met only while it fits the addressable memory. -/
def reserve (room entries : Nat) : Except Failure Unit :=
  if entries ≤ room then .ok () else .error (.halted .tooManyEntries)

namespace Record

def ofDirectory (directory : Path) (index : Nat) : Record :=
  { index, config := Path.join directory (configName index), output := Path.join directory (outputName index) }

def inDirectory (directory : Path) (processes : Nat) : List Record :=
  (List.range' 1 processes).map (ofDirectory directory)

def discover (directory : Path) (processes : Nat) : Except Failure (List Record) := do
  reserve recordRoom processes
  return inDirectory directory processes

def pair (configs outputs : List Path) : Except InputError (List Record) :=
  if configs.length = outputs.length then
    .ok (((configs.zip outputs).zipIdx 1).map fun ((config, output), index) => { index, config, output })
  else .error (.unpairedPaths configs.length outputs.length)

end Record

end AgreementAudit

import AgreementAudit.Process
import AgreementAudit.Sampler
import AgreementAudit.Traced
import AgreementAudit.ValueLine
import AgreementAudit.Writer

/-! Writing random proposal files, one for each process. All draws come from one sampler state that is
handed on from proposal to proposal and from file to file. -/
namespace AgreementAudit

variable {State : Type}

structure GeneratorParameters where
  processes : UInt64
  proposals : UInt64
  values : UInt32
  maxLength : UInt64
deriving DecidableEq

namespace GeneratorParameters

/-- No proposal is longer than the universe is large. -/
def effectiveMaxLength (parameters : GeneratorParameters) : UInt64 :=
  if parameters.maxLength ≤ parameters.values.toUInt64 then parameters.maxLength
  else parameters.values.toUInt64

def validate (parameters : GeneratorParameters) : Except InputError Unit :=
  if parameters.values = 0 then .error (.invalidParameter .values)
  else if parameters.maxLength = 0 then .error (.invalidParameter .maxLength)
  else .ok ()

def header (parameters : GeneratorParameters) : Header where
  proposals := parameters.proposals
  maxLength := parameters.effectiveMaxLength
  values := parameters.values

end GeneratorParameters

/-- Draws a length and then that many distinct values below the bound. There has to be a length to draw
and a value for each place. -/
def drawProposal (sampler : Sampler State) (values : UInt32) (maxLength : UInt64) (state : State) :
    Except Failure (List Value × State) :=
  if maxLength = 0 then .error (.halted .nothingToDraw)
  else
    let (length, state) := sampler.upTo maxLength.toNat state
    if values.toNat < length then .error (.halted .nothingToDraw)
    else
      let (numbers, state) := sampler.distinct values.toNat length state
      .ok (numbers.map UInt32.ofNat, state)

def drawProposals (sampler : Sampler State) (values : UInt32) (maxLength : UInt64) :
    Nat → State → Except Failure (List (List Value) × State)
  | 0, state => .ok ([], state)
  | count + 1, state => do
    let (proposal, state) ← drawProposal sampler values maxLength state
    let (proposals, state) ← drawProposals sampler values maxLength count state
    return (proposal :: proposals, state)

def writeProposals (sampler : Sampler State) (values : UInt32) (maxLength : UInt64) :
    Nat → Writer → State → Writer × Except Failure State
  | 0, writer, state => (writer, .ok state)
  | count + 1, writer, state =>
    match drawProposal sampler values maxLength state with
    | .error failure => (writer, .error failure)
    | .ok (proposal, state) =>
      match writer.writeLine (ValueLine.render proposal) with
      | (writer, .error refusal) => (writer, .error (.unwritten refusal))
      | (writer, .ok ()) => writeProposals sampler values maxLength count writer state

structure GenerateReport where
  directory : Path
  files : List Path
  proposals : UInt64
  maxLength : UInt64
  values : UInt32
deriving DecidableEq

namespace GeneratorParameters

/-- Writes the header and freshly drawn proposals. Only a refusal at the very end is told with the file. -/
def fill (parameters : GeneratorParameters) (sampler : Sampler State) (path : Path) (writer : Writer)
    (state : State) : Writer × Except Failure State :=
  let header := parameters.header
  match writer.writeLine header.render with
  | (writer, .error refusal) => (writer, .error (.unwritten refusal))
  | (writer, .ok ()) =>
    match writeProposals sampler header.values header.maxLength header.proposals.toNat writer state with
    | (writer, .error failure) => (writer, .error failure)
    | (writer, .ok state) =>
      match writer.flush with
      | (writer, .error refusal) => (writer, .error (.refused .writing path refusal))
      | (writer, .ok ()) => (writer, .ok state)

/-- Creates one file and fills it. However that ends, the file is closed. -/
def writeConfig (parameters : GeneratorParameters) (sampler : Sampler State) (path : Path)
    (fs : FileSystem) (state : State) : FileSystem × Except Failure State :=
  match fs.create path with
  | .error refusal => (fs, .error (.refused .creating path refusal))
  | .ok (number, created) =>
    let (writer, result) := parameters.fill sampler path { files := created, number, waiting := [] } state
    (writer.close, result)

def writeConfigsFrom (parameters : GeneratorParameters) (sampler : Sampler State) (directory : Path) :
    List Nat → FileSystem → State → FileSystem × Traced (List Path)
  | [], fs, _ => (fs, pure [])
  | index :: rest, fs, state =>
    let path := Path.join directory (configName index)
    match parameters.writeConfig sampler path fs state with
    | (fs, .error failure) => (fs, .fail failure)
    | (fs, .ok state) =>
      let (fs, others) := parameters.writeConfigsFrom sampler directory rest fs state
      (fs, do
        .report (.proposalsWritten path)
        return path :: (← others))

def report (parameters : GeneratorParameters) (directory : Path) (files : List Path) : GenerateReport where
  directory
  files
  proposals := parameters.proposals
  maxLength := parameters.effectiveMaxLength
  values := parameters.values

def writeConfigs (parameters : GeneratorParameters) (sampler : Sampler State) (directory : Path)
    (fs : FileSystem) (state : State) : FileSystem × Traced GenerateReport :=
  match parameters.validate with
  | .error error => (fs, .fail (.input error))
  | .ok () =>
    match fs.makeDirectories directory with
    | (fs, .error refusal) => (fs, .fail (.refused .creating directory refusal))
    | (fs, .ok ()) =>
      match reserve listRoom parameters.processes.toNat with
      | .error failure => (fs, .fail failure)
      | .ok () =>
        let indices := List.range' 1 parameters.processes.toNat
        let (fs, files) := parameters.writeConfigsFrom sampler directory indices fs state
        (fs, do return parameters.report directory (← files))

end GeneratorParameters

end AgreementAudit

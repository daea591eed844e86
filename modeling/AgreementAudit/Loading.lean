import AgreementAudit.FileSystem
import AgreementAudit.Traced
import AgreementAudit.ValueLine

/-! Reading the files of the processes. Lines are numbered from one as they stand in the file, and a
line is looked at only when every line before it has been accepted. -/
namespace AgreementAudit

open Text (Bytes)

/-- Reads one numbered line of values. That the line is text is settled before its words are. -/
def readValues (path : Path) (numbered : Bytes × Nat) : Except Failure ValueSet :=
  match Text.decode? numbered.1 with
  | none => .error (.refused .reading path .notText)
  | some text => (ValueLine.parse path numbered.2 text).mapError .input

def readHeader (path : Path) (line : Bytes) : Except Failure Header :=
  match Text.decode? line with
  | none => .error (.refused .reading path .notText)
  | some text => (Header.parse path text).mapError .input

def readSets (path : Path) (first : Nat) (lines : List Bytes) : Except Failure (List ValueSet) :=
  (lines.zipIdx first).mapM (readValues path)

namespace ProposalFile

def ofLines (path : Path) : List Bytes → Except Failure ProposalFile
  | [] => .error (.input (.missingHeader path))
  | first :: rest => do
    let header ← readHeader path first
    reserve listRoom header.proposals.toNat
    let proposals ← readSets path 2 rest
    return { path, header, proposals }

/-- A wrong declared count is reported and otherwise ignored. -/
def countEvents (file : ProposalFile) : List Event :=
  if file.proposals.length = file.header.proposals.toNat then []
  else [.countDisagrees file.path file.header.proposals.toNat file.proposals.length]

def ofContent (path : Path) (content : Bytes) : Traced ProposalFile :=
  match ofLines path (Text.lines content) with
  | .error failure => .fail failure
  | .ok file => ⟨file.countEvents, .ok file⟩

def read (fs : FileSystem) (path : Path) : Traced ProposalFile := do
  let content ← .ofExcept (fs.contentOf path)
  ofContent path content

end ProposalFile

namespace DecisionLog

def ofContent (path : Path) (content : Bytes) : Except Failure DecisionLog := do
  let decisions ← readSets path 1 (Text.lines content)
  return { path, decisions }

def read (fs : FileSystem) (path : Path) : Except Failure DecisionLog := do
  let content ← fs.contentOf path
  ofContent path content

end DecisionLog

/-- A process has to decide once for each proposal. A different number of decisions is an error, or, where
that is allowed, only reported. -/
def align (config : ProposalFile) (output : DecisionLog) (allowIncomplete : Bool) : Traced Unit :=
  let proposals := config.proposals.length
  let decisions := output.decisions.length
  if proposals = decisions then pure ()
  else if allowIncomplete then .report (.lengthsTolerated config.path output.path proposals decisions)
  else .fail (.input (.lengthMismatch config.path output.path proposals decisions))

namespace Run

def load (fs : FileSystem) (allowIncomplete : Bool) (record : Record) : Traced Run := do
  let config ← ProposalFile.read fs record.config
  let output ← .ofExcept (DecisionLog.read fs record.output)
  align config output allowIncomplete
  .report (.processLoaded record.index output.decisions.length config.header.values.toNat)
  return { record, config, output }

def loadAll (fs : FileSystem) (allowIncomplete : Bool) (records : List Record) : Traced (List Run) :=
  records.mapM (load fs allowIncomplete)

end Run

end AgreementAudit

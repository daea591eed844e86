import AgreementAudit.Path

/-! Why a command can fail, by cause. An input error is about the content of files or arguments, a failed
operation is about the file system, and a halt is the machine giving up with words of its own. -/
namespace AgreementAudit

inductive Parameter
  | values
  | maxLength
deriving DecidableEq

def Parameter.flag : Parameter → String
  | .values => "values"
  | .maxLength => "max-length"

inductive InputError
  | missingHeader (path : Path)
  | malformedHeader (path : Path) (line : String)
  | invalidValue (path : Path) (line : Nat) (token : String)
  | lengthMismatch (config output : Path) (proposals decisions : Nat)
  | unpairedPaths (configs outputs : Nat)
  | invalidParameter (parameter : Parameter)
deriving DecidableEq

def InputError.message : InputError → String
  | .missingHeader path => path ++ ": missing header line"
  | .malformedHeader path line =>
    path ++ ": malformed header `" ++ line ++ "` (expected `<proposals> <max_length> <values>`)"
  | .invalidValue path line token => path ++ ":" ++ line.repr ++ ": invalid value `" ++ token ++ "`"
  | .lengthMismatch config output proposals decisions =>
    output ++ " has " ++ decisions.repr ++ " decision lines but " ++ config ++ " has " ++
      proposals.repr ++ " proposals (pass --allow-incomplete to tolerate)"
  | .unpairedPaths configs outputs =>
    "got " ++ configs.repr ++ " config paths but " ++ outputs.repr ++ " output paths"
  | .invalidParameter parameter => "--" ++ parameter.flag ++ " must be at least 1"

/-- What the file system answers instead of doing what it was asked. What ails the storage itself, such as that it
is full, is told in its own words. -/
inductive Refusal
  | notFound
  | alreadyExists
  | notADirectory
  | isADirectory
  | notText
  | zeroInName
  | nameTooLong
  | storage (words : String)
deriving DecidableEq

def Refusal.message : Refusal → String
  | .notFound => "No such file or directory (os error 2)"
  | .alreadyExists => "File exists (os error 17)"
  | .notADirectory => "Not a directory (os error 20)"
  | .isADirectory => "Is a directory (os error 21)"
  | .notText => "stream did not contain valid UTF-8"
  | .zeroInName => "file name contained an unexpected NUL byte"
  | .nameTooLong => "File name too long (os error 36)"
  | .storage words => words

inductive Operation
  | opening
  | reading
  | creating
  | writing
deriving DecidableEq

def Operation.verb : Operation → String
  | .opening => "opening"
  | .reading => "reading"
  | .creating => "creating"
  | .writing => "writing"

/-- The requests that no machine can meet: room for more entries than addresses reach, a draw from nothing,
and a cut within a character. -/
inductive Halt
  | tooManyEntries
  | nothingToDraw
  | dividedCharacter
deriving DecidableEq

/-- A write that is refused while lines are still to come is told without its file. -/
inductive Failure
  | input (error : InputError)
  | refused (operation : Operation) (path : Path) (refusal : Refusal)
  | unwritten (refusal : Refusal)
  | halted (reason : Halt)
deriving DecidableEq

/-- The number of entries of one size that fit into the addressable half of the memory, `2 ^ 63 - 1` bytes. -/
def roomFor (bytesPerEntry : Nat) : Nat := 9223372036854775807 / bytesPerEntry

/-- A list of sets or of names takes three words for each entry. -/
def listRoom : Nat := roomFor 24

/-- A list of process records takes seven words for each entry. -/
def recordRoom : Nat := roomFor 56

end AgreementAudit

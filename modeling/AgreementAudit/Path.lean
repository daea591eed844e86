/-! Paths as they are written. A path is split at its slashes into steps that a file system walks one
after the other; its text is never normalised, so reports show it as it was given. -/
namespace AgreementAudit

abbrev Path := String

namespace Path

/-- A name inside a directory. The separator is left out after a slash and after the empty path. -/
def join (directory name : Path) : Path :=
  if directory = "" then name
  else if directory.toList.getLast? = some '/' then directory ++ name
  else directory ++ "/" ++ name

inductive Step
  | stay
  | up
  | enter (name : String)
deriving DecidableEq

/-- A single dot stays, two dots go up, and an empty piece between two slashes is no step at all. -/
def stepOf : List Char → Option Step
  | [] => none
  | ['.'] => some .stay
  | ['.', '.'] => some .up
  | name => some (.enter (String.ofList name))

def pieces (path : Path) : List (List Char) := path.toList.splitOn '/'

def isAbsolute (path : Path) : Bool := path.toList.head? = some '/'

def pieceSteps (path : Path) : List Step := path.pieces.filterMap stepOf

/-- The steps of a path. A slash at the end asks for a directory, which is what staying there does. -/
def steps (path : Path) : List Step :=
  if path.toList.getLast? = some '/' then path.pieceSteps ++ [.stay] else path.pieceSteps

/-- The steps to the directory around a path: all but the last one that is not a single dot. -/
def stepsAround (path : Path) : List Step := (path.pieceSteps.filter (· ≠ .stay)).dropLast

/-- The pieces that name the entries of a path: single dots are skipped unless a relative path starts with one. -/
def components (path : Path) : List String :=
  let named := path.pieces.filter fun piece => piece ≠ [] ∧ piece ≠ ['.']
  let dotted := if path.pieces.head? = some ['.'] then ['.'] :: named else named
  dotted.map String.ofList

/-- The paths of the directories around a path, the nearest one first; the directory that relative paths
start from is not among them. -/
def parents (path : Path) : List Path :=
  let kept := path.components
  let leading := (List.range kept.length).reverse.map fun count => String.intercalate "/" (kept.take count)
  if path.isAbsolute then leading.map ("/" ++ ·) else leading.filter (· ≠ "")

end Path

end AgreementAudit

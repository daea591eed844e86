import AgreementAudit.Failure
import AgreementAudit.Text.Bytes

/-! A tree of files and directories, seen from a working directory. A location is known by the names on the
way to it; a path is walked to its location step by step, and every step starts in a directory. A file may have
several names, and a link that leads to a file is one more name of it. Links to directories, the rights that an
entry can be used with, and names that are not text are left out. -/
namespace AgreementAudit

open Text (Bytes)

/-- A place in the tree: how deep it is and the names on the way, the innermost one first. Places at different
depths are told apart without a look at the names. -/
structure Location where
  depth : Nat
  names : List String
  counted : names.length = depth
deriving DecidableEq

namespace Location

def root : Location := ⟨0, [], rfl⟩

def enter (location : Location) (name : String) : Location :=
  ⟨location.depth + 1, name :: location.names, by rw [List.length_cons, location.counted]⟩

def parent (location : Location) : Location :=
  ⟨location.depth - 1, location.names.tail, by rw [List.length_tail, location.counted]⟩

end Location

/-- What a directory holds under a name. Names with one number are names of one file. -/
inductive Entry
  | file (number : Nat)
  | directory
deriving DecidableEq

def Entry.past : Entry → Nat
  | .file number => number + 1
  | .directory => 0

inductive Node
  | file (content : Bytes)
  | directory
deriving DecidableEq

/-- What becomes of a write that is not done as a whole: so many bytes are written, the others are refused. -/
structure Shortfall where
  taken : Nat
  refusal : Refusal
deriving DecidableEq

/-- The tree, the contents of its files by their numbers, and the answers to the writes to come. A write without a
shortfall is done as a whole, as are all those behind the last answer. -/
structure FileSystem where
  home : Location
  entries : List (Location × Entry)
  contents : Nat → Bytes
  answers : List (Option Shortfall)

namespace FileSystem

def rooted (home : List String) : FileSystem :=
  let empty : FileSystem := { home := .root, entries := [], contents := fun _ => [], answers := [] }
  home.foldl (fun fs name =>
    let inside := fs.home.enter name
    { fs with home := inside, entries := (inside, .directory) :: fs.entries }) empty

def entryAt (fs : FileSystem) (location : Location) : Option Entry :=
  if location = .root then some .directory
  else (fs.entries.find? fun entry => entry.1 = location).map Prod.snd

def view (fs : FileSystem) : Entry → Node
  | .file number => .file (fs.contents number)
  | .directory => .directory

def nodeAt (fs : FileSystem) (location : Location) : Option Node := (fs.entryAt location).map fs.view

def fresh (fs : FileSystem) : Nat := (fs.entries.map fun entry => entry.2.past).foldr max 0

def enter (fs : FileSystem) (location : Location) (entry : Entry) : FileSystem :=
  { fs with entries := (location, entry) :: fs.entries.filter fun other => other.1 ≠ location }

def fill (fs : FileSystem) (number : Nat) (content : Bytes) : FileSystem :=
  { fs with contents := fun other => if other = number then content else fs.contents other }

def put (fs : FileSystem) (location : Location) : Node → FileSystem
  | .file content => (fs.enter location (.file fs.fresh)).fill fs.fresh content
  | .directory => fs.enter location .directory

def ofNodes (nodes : List (Location × Node)) : FileSystem :=
  nodes.foldr (fun node fs => fs.put node.1 node.2) (.rooted [])

def nameLimit : Nat := 255

def pathLimit : Nat := 4095

def advance (fs : FileSystem) (location : Location) (step : Path.Step) : Except Refusal Location :=
  match fs.nodeAt location with
  | none => .error .notFound
  | some (.file _) => .error .notADirectory
  | some .directory =>
    match step with
    | .stay => .ok location
    | .up => .ok location.parent
    | .enter name =>
      if name.utf8ByteSize ≤ nameLimit then .ok (location.enter name) else .error .nameTooLong

def start (fs : FileSystem) (path : Path) : Location := if path.isAbsolute then .root else fs.home

def walk (fs : FileSystem) (path : Path) (steps : List Path.Step) : Except Refusal Location :=
  if path = "" then .error .notFound
  else if path.toList.contains '\x00' then .error .zeroInName
  else if pathLimit < path.utf8ByteSize then .error .nameTooLong
  else steps.foldlM fs.advance (fs.start path)

def locate (fs : FileSystem) (path : Path) : Except Refusal Location := fs.walk path path.steps

def lookup (fs : FileSystem) (path : Path) : Except Refusal Node := do
  let location ← fs.locate path
  match fs.nodeAt location with
  | none => .error .notFound
  | some node => .ok node

def isDirectory (fs : FileSystem) (path : Path) : Bool :=
  match fs.lookup path with
  | .ok .directory => true
  | _ => false

/-- The content of a file. A directory can be opened, but the first read from it is refused. -/
def contentOf (fs : FileSystem) (path : Path) : Except Failure Bytes :=
  match fs.lookup path with
  | .error refusal => .error (.refused .opening path refusal)
  | .ok .directory => .error (.refused .reading path .isADirectory)
  | .ok (.file content) => .ok content

/-- Makes one directory. A slash at the end of its path asks for nothing more. -/
def makeDirectory (fs : FileSystem) (path : Path) : Except Refusal FileSystem := do
  let location ← fs.walk path path.pieceSteps
  match fs.nodeAt location with
  | some _ => .error .alreadyExists
  | none => .ok (fs.put location .directory)

def ensureDirectory (fs : FileSystem) (path : Path) : Except Refusal FileSystem :=
  match fs.makeDirectory path with
  | .ok made => .ok made
  | .error refusal => if fs.isDirectory path then .ok fs else .error refusal

def settle (fs : FileSystem) : Except Refusal FileSystem → FileSystem × Except Refusal Unit
  | .ok changed => (changed, .ok ())
  | .error refusal => (fs, .error refusal)

/-- Follows steps and makes the directories that are missing on the way. Those made before a refusal stay. -/
def makeAlong (fs : FileSystem) (location : Location) : List Path.Step → FileSystem × Except Refusal Unit
  | [] => (fs, .ok ())
  | step :: rest =>
    match fs.advance location step with
    | .error refusal => (fs, .error refusal)
    | .ok next =>
      match fs.nodeAt next with
      | none => (fs.put next .directory).makeAlong next rest
      | some .directory => fs.makeAlong next rest
      | some (.file _) => (fs, .error .alreadyExists)

/-- Makes a directory; if it cannot be reached, the missing directories around it are made first. The empty
path is the working directory. -/
def makeDirectories (fs : FileSystem) (path : Path) : FileSystem × Except Refusal Unit :=
  if path = "" then (fs, .ok ())
  else
    match fs.ensureDirectory path with
    | .error .notFound =>
      match fs.makeAlong (fs.start path) path.stepsAround with
      | (made, .ok ()) => made.settle (made.ensureDirectory path)
      | refused => refused
    | ensured => fs.settle ensured

/-- Opens a file to write it: the file is emptied, or made if there is none. Its number is the answer. -/
def create (fs : FileSystem) (path : Path) : Except Refusal (Nat × FileSystem) := do
  let location ← fs.locate path
  match fs.entryAt location with
  | some .directory => .error .isADirectory
  | some (.file number) => .ok (number, fs.fill number [])
  | none => .ok (fs.fresh, fs.put location (.file []))

/-- Writes bytes behind those that a file holds. Nothing is asked of the storage for no bytes. -/
def append (fs : FileSystem) (number : Nat) (bytes : Bytes) : FileSystem × Except Shortfall Unit :=
  let write (taken : Bytes) : FileSystem :=
    { fs.fill number (fs.contents number ++ taken) with answers := fs.answers.tail }
  if bytes = [] then (fs, .ok ())
  else
    match fs.answers.head? with
    | some (some shortfall) =>
      if shortfall.taken < bytes.length then (write (bytes.take shortfall.taken), .error shortfall)
      else (write bytes, .ok ())
    | _ => (write bytes, .ok ())

def writeFile (fs : FileSystem) (path : Path) (content : Bytes) : Except Refusal FileSystem := do
  let (number, created) ← fs.create path
  match created.append number content with
  | (written, .ok ()) => .ok written
  | (_, .error shortfall) => .error shortfall.refusal

end FileSystem

end AgreementAudit

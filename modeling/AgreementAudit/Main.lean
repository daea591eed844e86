import AgreementAudit.EventFilter.Setting
import AgreementAudit.Execution

/-! The program. It takes down the part of the disk that a command can touch, runs the command against that
and carries out what has changed. -/
namespace AgreementAudit.Program

open CommandLine (CheckOptions Command GenerateOptions Invocation Stop)

def usage : String :=
  String.join [
    "Usage: lattice-verify [--json] <command>\n\nCommands:\n",
    "  generate --directory <path> --values <n> --proposals <n> --processes <n> --max-length <n>",
    " [--seed <n>]\n",
    "  check --config <path>... --output <path>... [--allow-incomplete] [--keep-going]\n",
    "  check --log-dir <path> --processes <n> [--allow-incomplete] [--keep-going]\n",
    "  help [<command>]\n"]

def complaint : Stop → String
  | .missingRequired => "a required option is missing"
  | .unknownArgument => "unexpected argument"
  | .malformedValue => "the value of an option is not a number in its range"
  | .emptyValue => "an option needs a value"
  | .conflict => "options cannot be used together, or one is used twice"
  | .valueForFlag => "a flag takes no value"
  | .unknownCommand => "unknown command"
  | .missingCommand => "a command is missing"
  | .noArguments | .help | .version => usage

def pathsOf : Command → List Path
  | .check options =>
    match options.records with
    | .ok records => records.flatMap fun record => [record.config, record.output]
    | .error _ => []
  | .generate options =>
    match reserve listRoom options.parameters.processes.toNat with
    | .error _ => [options.directory]
    | .ok () =>
      let indices := List.range' 1 options.parameters.processes.toNat
      options.directory :: indices.map fun index => Path.join options.directory (configName index)

/-- Takes down what is at one path of the disk, unless that is known or nothing is there. -/
def note (fs : FileSystem) (path : Path) : IO FileSystem := do
  match fs.lookup path, fs.locate path with
  | .error .notFound, .ok location =>
    match ← (IO.FS.readBinFile path).toBaseIO with
    | .ok content => return fs.put location (.file content.data.toList)
    | .error _ =>
      match ← (IO.FS.realPath path).toBaseIO with
      | .ok found => return if ← found.isDir then fs.put location .directory else fs
      | .error _ => return fs
  | _, _ => return fs

def noteAll (fs : FileSystem) (path : Path) : IO FileSystem :=
  (path.parents.reverse ++ [path]).foldlM note fs

/-- Writes to the disk what differs between two file systems, older changes first. -/
def carryOut (before after : FileSystem) : IO Unit :=
  for (location, entry) in after.entries.reverse do
    unless before.nodeAt location = some (after.view entry) do
      let path := "/" ++ String.intercalate "/" location.names.reverse
      match after.view entry with
      | .directory => IO.FS.createDirAll path
      | .file content => IO.FS.writeBinFile path ⟨content.toArray⟩

/-- Lines of the log go without a stamp, and a halt is told in a few words. -/
def machine : Machine where
  stamp _ := ""
  lastWords
    | .tooManyEntries => "halted: a list would have more entries than there is room for\n"
    | .nothingToDraw => "halted: there is nothing to draw from\n"
    | .dividedCharacter => "halted: a text would be cut within a character\n"

def run (invocation : Invocation) (filter : EventFilter) : IO UInt32 := do
  let home := (← IO.currentDir).toString
  let rooted := FileSystem.rooted ((Path.pieces home).filter (· ≠ []) |>.map String.ofList)
  let before ← (pathsOf invocation.command).foldlM noteAll rooted
  let entropy ← IO.getRandomBytes 8
  let fresh := entropy.data.foldl (fun state byte => state * 256 + byte.toUInt64) 0
  let outcome := invocation.execute Mixing.sampler (Mixing.Stream.start fresh) before
  carryOut before outcome.files
  IO.print outcome.standardOutput
  IO.eprint (outcome.standardError filter machine)
  return UInt32.ofNat outcome.ending.exitCode

def refuse (stop : Stop) : IO UInt32 := do
  match stop with
  | .help => IO.print usage
  | .version => IO.print CommandLine.versionText
  | .noArguments => IO.eprint usage
  | _ => IO.eprintln s!"error: {complaint stop}"
  return UInt32.ofNat stop.exitCode

/-- Runs the program. What is to be shown is settled before the arguments are read. -/
def start (arguments : List String) : IO UInt32 := do
  match EventFilter.ofSetting (← IO.getEnv "RUST_LOG") with
  | .error reason =>
    let ending := Ending.failed (.halted reason)
    IO.eprint (ending.errorText machine)
    return UInt32.ofNat ending.exitCode
  | .ok filter =>
    match Invocation.ofArguments arguments with
    | .ok invocation => run invocation filter
    | .error stop => refuse stop

end AgreementAudit.Program

def main (arguments : List String) : IO UInt32 := AgreementAudit.Program.start arguments

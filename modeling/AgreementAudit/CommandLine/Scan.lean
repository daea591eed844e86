import AgreementAudit.CommandLine.Options

/-! Reading the arguments of a command from left to right. The values of an option are collected first and
judged when the next option or the end is reached, so a later unknown argument is reported before an
earlier value that is malformed. -/
namespace AgreementAudit.CommandLine

/-- The forms of an argument. A single dash alone is plain. -/
inductive Word
  | separator
  | long (spelling : String) (attached : Option String)
  | short (letter : Char)
  | plain (text : String)
deriving DecidableEq

def Word.ofArgument (argument : String) : Word :=
  match argument.toList with
  | ['-', '-'] => .separator
  | '-' :: '-' :: chars =>
    let spelling := String.ofList (chars.takeWhile (· ≠ '='))
    match chars.dropWhile (· ≠ '=') with
    | [] => .long spelling none
    | _ :: attached => .long spelling (some (String.ofList attached))
  | '-' :: letter :: _ => .short letter
  | _ => .plain argument

/-- The options settled so far, each time one was given, and the option whose values are being collected. -/
structure Scan where
  given : List (Name × List String)
  pending : Option (Name × List String)
deriving DecidableEq

namespace Scan

def empty : Scan := ⟨[], none⟩

def has (scan : Scan) (name : Name) : Bool := scan.given.any fun entry => entry.1 = name

def valuesOf (scan : Scan) (name : Name) : List String :=
  scan.given.flatMap fun entry => if entry.1 = name then entry.2 else []

def add (scan : Scan) (name : Name) (values : List String) : Scan :=
  { scan with given := scan.given ++ [(name, values)] }

/-- Settles one occurrence of an option: values have to be there, an option that takes at most one value
cannot be given twice, and each value has to be of its kind. -/
def record (scan : Scan) (name : Name) (values : List String) : Except Stop Scan :=
  match name.arity with
  | .help => .error .help
  | .flag => if scan.has name then .error .conflict else .ok (scan.add name [])
  | .single kind =>
    if values = [] then .error .emptyValue
    else if scan.has name then .error .conflict
    else do
      values.forM kind.accept
      return scan.add name values
  | .several kind =>
    if values = [] then .error .emptyValue
    else do
      values.forM kind.accept
      return scan.add name values

def settle (scan : Scan) : Except Stop Scan :=
  match scan.pending with
  | none => .ok scan
  | some (name, values) => { scan with pending := none }.record name values

def takesMore (name : Name) (values : List String) : Bool :=
  match name.arity with
  | .help | .flag => false
  | .single _ => values = []
  | .several _ => true

def step (options : List Name) (scan : Scan) : Word → Except Stop Scan
  | .separator => .error .unknownArgument
  | .long spelling attached =>
    match options.find? fun name => name.spellings.contains spelling with
    | none => .error .unknownArgument
    | some name =>
      match name.arity, attached with
      | .help, some _ | .flag, some _ => .error .valueForFlag
      | .help, none | .flag, none => do (← scan.settle).record name []
      | _, some value => do (← scan.settle).record name [value]
      | _, none => do return { (← scan.settle) with pending := some (name, []) }
  | .short letter =>
    if letter = 'h' then do (← scan.settle).record .help [] else .error .unknownArgument
  | .plain text =>
    match scan.pending with
    | none => .error .unknownArgument
    | some (name, values) =>
      if takesMore name values then .ok { scan with pending := some (name, values ++ [text]) }
      else .error .unknownArgument

def run (options : List Name) (scan : Scan) : List Word → Except Stop Scan
  | [] => scan.settle
  | .separator :: [] => scan.settle
  | .separator :: _ => .error .unknownArgument
  | word :: rest => do (← scan.step options word).run options rest

def excluded (scan : Scan) (rules : List Rule) (name : Name) : Bool :=
  rules.any fun rule =>
    match rule with
    | .conflicts left right => (left = name && scan.has right) || (right = name && scan.has left)
    | _ => false

def conflicting (scan : Scan) : Rule → Bool
  | .conflicts left right => scan.has left && scan.has right
  | _ => false

/-- Whether a rule asks for an option that is not there. One that is excluded is not asked for. -/
def lacking (scan : Scan) (rules : List Rule) : Rule → Bool
  | .required name => !scan.has name && !scan.excluded rules name
  | .requiredUnless name given => !scan.has name && !scan.has given
  | .requires given name => scan.has given && !scan.has name && !scan.excluded rules name
  | .conflicts .. => false

/-- Conflicts are found before missing options. -/
def obey (scan : Scan) (rules : List Rule) : Except Stop Unit :=
  if rules.any scan.conflicting then .error .conflict
  else if rules.any (scan.lacking rules) then .error .missingRequired
  else .ok ()

end Scan

end AgreementAudit.CommandLine

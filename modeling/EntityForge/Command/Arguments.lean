import EntityForge.Text.Case
import EntityForge.Text.Quoted

/-!
The arguments of the command line. Options and files may stand in any order, but all files stand
together. Flags of one letter may be written behind one hyphen, the last of them with its argument.
After two hyphens everything is a file.
-/
namespace EntityForge.Command

structure Arguments where
  files : List String := []
  config : List String := []
  out : List String := []
  doctrine : Bool := false
  entityFramework : Bool := false
  entityFrameworkCore : Bool := false
  mappingDir : Option String := none
  listTargets : Bool := false
  verbose : Bool := false
  logLevel : Option String := none
  deriving DecidableEq, Repr

inductive Flag where
  | help
  | doctrine
  | entityFramework
  | entityFrameworkCore
  | listTargets
  | verbose
  deriving DecidableEq, Repr

inductive Setting where
  | config
  | out
  | mappingDir
  | logLevel
  deriving DecidableEq, Repr

def flags : List (String × Flag) := [
  ("-h", .help), ("--help", .help), ("-d", .doctrine), ("--d", .doctrine), ("--doctrine", .doctrine),
  ("--ef", .entityFramework), ("--entity-framework", .entityFramework),
  ("--efc", .entityFrameworkCore), ("--entity-framework-core", .entityFrameworkCore),
  ("--list-targets", .listTargets), ("--verbose", .verbose), ("-v", .verbose)]

def settings : List (String × Setting) := [
  ("-c", .config), ("--config", .config), ("-o", .out), ("--out", .out),
  ("--dxo", .mappingDir), ("--doctrine-xml-out", .mappingDir), ("--log-level", .logLevel)]

def logLevels : List String := ["DEBUG", "INFO", "WARNING", "ERROR", "CRITICAL"]

inductive Exit where
  | help
  | usage
  deriving DecidableEq, Repr

def Exit.code : Exit → Nat
  | .help => 0
  | .usage => 2

inductive Word where
  | plain (s : String)
  | dashes
  | flag (f : Flag)
  | setting (s : Setting) (argument : Option String)
  | letters (rest : List Char)
  | surplus
  | unknown
  deriving DecidableEq, Repr

def isNegativeNumber (s : List Char) : Bool :=
  match s with
  | '-' :: rest =>
    let body := if rest.getLast? == some '\n' then rest.dropLast else rest
    let fraction := (body.dropWhile Text.isDecimalDigit)
    match fraction with
    | [] => !body.isEmpty
    | '.' :: digits => !digits.isEmpty && digits.all Text.isDecimalDigit
    | _ => false
  | _ => false

def cutName (s : List Char) : Option (String × String) :=
  match s.dropWhile (· != '=') with
  | _ :: argument => some (String.ofList (s.takeWhile (· != '=')), String.ofList argument)
  | [] => none

def letterName (c : Char) : String := String.ofList ['-', c]

/-- A word that is no option by name: a letter with what follows it, a number, a text with a space, or
an option that nobody knows. -/
def Word.ofUnnamed (s : String) : Word :=
  match s.toList with
  | '-' :: c :: rest =>
    let known := c != '-' &&
      ((flags.lookup (letterName c)).isSome || (settings.lookup (letterName c)).isSome)
    if known then .letters (c :: rest)
    else if isNegativeNumber s.toList || rest.contains ' ' || c == ' ' then .plain s
    else .unknown
  | _ => .plain s

def Word.ofText (s : String) : Word :=
  match flags.lookup s, settings.lookup s with
  | some f, _ => .flag f
  | none, some o => .setting o none
  | none, none =>
    match cutName s.toList with
    | some (name, argument) =>
      match flags.lookup name, settings.lookup name with
      | some _, _ => .surplus
      | none, some o => .setting o (some argument)
      | none, none => .ofUnnamed s
    | none => .ofUnnamed s

def words : List String → List Word
  | [] => []
  | "--" :: rest => .dashes :: rest.map .plain
  | s :: rest => .ofText s :: words rest

inductive Files where
  | awaited
  | reading
  | complete
  deriving DecidableEq, Repr

structure State where
  arguments : Arguments := {}
  files : Files := .awaited
  extras : Bool := false

namespace State

def setFlag (s : State) : Flag → Except Exit State
  | .help => .error .help
  | .doctrine => .ok { s with arguments := { s.arguments with doctrine := true } }
  | .entityFramework => .ok { s with arguments := { s.arguments with entityFramework := true } }
  | .entityFrameworkCore => .ok { s with arguments := { s.arguments with entityFrameworkCore := true } }
  | .listTargets => .ok { s with arguments := { s.arguments with listTargets := true } }
  | .verbose => .ok { s with arguments := { s.arguments with verbose := true } }

def setArgument (s : State) (argument : String) : Setting → Except Exit State
  | .config => .ok { s with arguments := { s.arguments with config := s.arguments.config ++ [argument] } }
  | .out => .ok { s with arguments := { s.arguments with out := s.arguments.out ++ [argument] } }
  | .mappingDir => .ok { s with arguments := { s.arguments with mappingDir := some argument } }
  | .logLevel =>
    let level := Text.uppercase argument
    if logLevels.contains level then .ok { s with arguments := { s.arguments with logLevel := some level } }
    else .error .usage

def addFile (s : State) (name : Option String) : State :=
  match s.files with
  | .complete => { s with extras := true }
  | _ =>
    { s with
      files := .reading
      arguments := { s.arguments with files := s.arguments.files ++ name.toList } }

def endFiles (s : State) : State :=
  match s.files with
  | .reading => { s with files := .complete }
  | _ => s

end State

structure Letters where
  flags : List Flag := []
  setting : Option (Setting × Option String) := none
  unknown : Bool := false

def readLetters : List Char → Except Exit Letters
  | [] => .ok {}
  | c :: rest =>
    match flags.lookup (letterName c), settings.lookup (letterName c) with
    | some f, _ =>
      match rest with
      | '-' :: _ => .error .usage
      | '=' :: _ => .error .usage
      | _ => (readLetters rest).map fun more => { more with flags := f :: more.flags }
    | none, some o =>
      let argument := match rest with
        | [] => none
        | '=' :: tail => some (String.ofList tail)
        | tail => some (String.ofList tail)
      .ok { setting := some (o, argument) }
    | none, none => .ok { unknown := true }

def readWords (s : State) : List Word → Except Exit State
  | [] => .ok s
  | .plain name :: rest => readWords (s.addFile (some name)) rest
  | .dashes :: rest => readWords (s.addFile none) rest
  | .flag f :: rest => do readWords (← s.endFiles.setFlag f) rest
  | .setting o (some argument) :: rest => do readWords (← s.endFiles.setArgument argument o) rest
  | .setting o none :: .plain argument :: rest => do readWords (← s.endFiles.setArgument argument o) rest
  | .setting _ none :: _ => .error .usage
  | .surplus :: _ => .error .usage
  | .unknown :: rest => readWords { s.endFiles with extras := true } rest
  | .letters cs :: .plain next :: rest => do
    let letters ← readLetters cs
    let s := { s.endFiles with extras := s.extras || letters.unknown }
    match letters.setting with
    | some (o, none) => readWords (← (← letters.flags.foldlM State.setFlag s).setArgument next o) rest
    | some (o, some argument) =>
      readWords ((← (← letters.flags.foldlM State.setFlag s).setArgument argument o).addFile (some next)) rest
    | none => readWords ((← letters.flags.foldlM State.setFlag s).addFile (some next)) rest
  | .letters cs :: rest => do
    let letters ← readLetters cs
    let s := { s.endFiles with extras := s.extras || letters.unknown }
    match letters.setting with
    | some (_, none) => .error .usage
    | some (o, some argument) => readWords (← (← letters.flags.foldlM State.setFlag s).setArgument argument o) rest
    | none => readWords (← letters.flags.foldlM State.setFlag s) rest

def Arguments.parse (argv : List String) : Except Exit Arguments := do
  let s ← readWords {} (words argv)
  if s.extras then .error .usage else .ok s.arguments

end EntityForge.Command

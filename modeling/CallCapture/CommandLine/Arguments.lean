import CallCapture.Disk
import CallCapture.Text.Basic

namespace CallCapture

inductive UsageError
  | unexpected (argument : String)
  | missingValue (option : String)
  | unneededValue (option : String)
  | badValue (option value : String)
  | repeated (option : String)
  | conflict (option other : String)
  | missingOption (option : String)
  | missingCommand
deriving DecidableEq, Repr

def UsageError.message : UsageError → String
  | .unexpected argument => s!"unexpected argument '{argument}'"
  | .missingValue option => s!"a value is required for '--{option}'"
  | .unneededValue option => s!"no value may be given for '--{option}'"
  | .badValue option value => s!"invalid value '{value}' for '{option}'"
  | .repeated option => s!"'--{option}' cannot be used multiple times"
  | .conflict option other => s!"'--{option}' cannot be used with '--{other}'"
  | .missingOption option => s!"'--{option}' is required"
  | .missingCommand => "a subcommand is required"

inductive Stop
  | help
  | version
  | wrong (e : UsageError)
deriving DecidableEq, Repr

inductive Shell
  | bash
  | elvish
  | fish
  | powershell
  | zsh
deriving DecidableEq, Repr

def Shell.name : Shell → String
  | .bash => "bash"
  | .elvish => "elvish"
  | .fish => "fish"
  | .powershell => "powershell"
  | .zsh => "zsh"

def Shell.all : List Shell := [.bash, .elvish, .fish, .powershell, .zsh]

def Shell.ofName? (s : String) : Option Shell := Shell.all.find? (·.name = s)

inductive ValueKind
  | text
  | path
  | number
  | shell
deriving DecidableEq, Repr

structure OptionTable where
  valued : List (String × ValueKind) := []
  flags : List String := []
  positionals : List (String × ValueKind) := []
  hasVersion : Bool := false
deriving DecidableEq, Repr

/-- What was given: options with their values, flags without, and the arguments that are neither. A
value that followed its option as an argument of its own waits until more is read. -/
structure Given where
  options : List (String × String) := []
  flags : List String := []
  positionals : List String := []
  waiting : Option (String × ValueKind × String) := none
deriving DecidableEq, Repr

def ValueKind.accepts : ValueKind → String → Bool
  | .text, _ => true
  | .path, s => !s.isEmpty
  | .number, s => (Text.word? s.toList).isSome
  | .shell, s => (Shell.ofName? s).isSome

namespace Given

def addValue (name : String) (kind : ValueKind) (value : String) (g : Given) :
    Except Stop Given :=
  if (g.options.lookup name).isSome then .error (.wrong (.repeated name))
  else if kind.accepts value then .ok { g with options := g.options ++ [(name, value)] }
  else .error (.wrong (.badValue name value))

def settle (g : Given) : Except Stop Given :=
  match g.waiting with
  | some (name, kind, value) => { g with waiting := none }.addValue name kind value
  | none => .ok g

def addFlag (name : String) (g : Given) : Except Stop Given :=
  if g.flags.contains name then .error (.wrong (.repeated name))
  else .ok { g with flags := g.flags ++ [name] }

end Given

namespace OptionTable

def looksLikeOption (s : String) : Bool := s.toList.head? = some '-' && s ≠ "-"

def addPositional (t : OptionTable) (s : String) (g : Given) : Except Stop Given :=
  match t.positionals[g.positionals.length]? with
  | some (name, kind) =>
    if kind.accepts s then .ok { g with positionals := g.positionals ++ [s] }
    else .error (.wrong (.badValue name s))
  | none => .error (.wrong (.unexpected s))

def splitLong (cs : List Char) : String × Option String :=
  let name := String.ofList (cs.takeWhile (· != '='))
  match cs.dropWhile (· != '=') with
  | [] => (name, none)
  | _ :: value => (name, some (String.ofList value))

inductive Shape
  | rest
  | long (name : String) (value : Option String)
  | short (letter : Char)
  | plain
deriving DecidableEq, Repr

def shape (s : String) : Shape :=
  match s.toList with
  | ['-', '-'] => .rest
  | '-' :: '-' :: cs => let (name, value) := splitLong cs; .long name value
  | '-' :: c :: _ => .short c
  | _ => .plain

def takeFlag (t : OptionTable) (name : String) (value : Option String) (g : Given) :
    Except Stop Given :=
  let known := name = "help" || (t.hasVersion && name = "version") || t.flags.contains name
  if !known then .error (.wrong (.unexpected s!"--{name}"))
  else if value.isSome then .error (.wrong (.unneededValue name))
  else if name = "help" then .error .help
  else if t.hasVersion && name = "version" then .error .version
  else g.addFlag name

def takeShort (t : OptionTable) (letter : Char) : Stop :=
  if letter = 'h' then .help
  else if letter = 'V' && t.hasVersion then .version
  else .wrong (.unexpected s!"-{letter}")

/-- Reads arguments up to the first plain one for which `stops` holds: what was given, a value that
came right before that one still waiting, and the arguments from that one on. -/
def scan (t : OptionTable) (stops : Bool) (g : Given) :
    List String → Except Stop (Given × List String)
  | [] => do .ok (← g.settle, [])
  | s :: rest =>
    match shape s with
    | .rest => do
      let g ← rest.foldlM (fun g s => t.addPositional s g) (← g.settle)
      .ok (g, [])
    | .short letter => do
      let _ ← g.settle
      .error (t.takeShort letter)
    | .plain =>
      if stops then .ok (g, s :: rest)
      else do
        let g ← t.addPositional s (← g.settle)
        scan t stops g rest
    | .long name value =>
      match t.valued.lookup name, value, rest with
      | none, _, rest => do
        let g ← t.takeFlag name value (← g.settle)
        scan t stops g rest
      | some kind, some value, rest => do
        let g ← (← g.settle).addValue name kind value
        scan t stops g rest
      | some kind, none, next :: rest =>
        if looksLikeOption next then .error (.wrong (.missingValue name))
        else do
          let g ← g.settle
          scan t stops { g with waiting := some (name, kind, next) } rest
      | some _, none, [] => .error (.wrong (.missingValue name))

end OptionTable

/-! ### Commands -/

inductive Choice
  | text (needle : String) (occurrence : Nat)
  | offset (start length : Nat)
  | missing
deriving DecidableEq, Repr

structure CaptureArguments where
  file : Path
  choice : Choice
  noCopy : Bool := false
  json : Bool := false
deriving DecidableEq, Repr

inductive Command.Kind
  | capture
  | serve
  | stats
  | info
  | completions
deriving DecidableEq, Repr

namespace Command.Kind

def name : Command.Kind → String
  | .capture => "catch"
  | .serve => "serve"
  | .stats => "stats"
  | .info => "info"
  | .completions => "completions"

def all : List Command.Kind := [.capture, .serve, .stats, .info, .completions]

def ofName? (s : String) : Option Command.Kind := all.find? (·.name = s)

def shared : List (String × ValueKind) := [("config", .path)]

def table : Command.Kind → OptionTable
  | .capture =>
    { valued := shared ++ [("file", .path), ("select", .text), ("occurrence", .number),
        ("at", .number), ("len", .number)]
      flags := ["no-copy", "json"] }
  | .serve => { valued := shared ++ [("file", .path)], flags := ["no-copy"] }
  | .stats | .info => { valued := shared }
  | .completions => { valued := shared, positionals := [("shell", .shell)] }

end Command.Kind

inductive Task
  | capture (arguments : CaptureArguments)
  | serve (file : Path) (noCopy : Bool)
  | stats
  | info
  | completions (shell : Shell)
deriving DecidableEq, Repr

structure Invocation where
  config : Option Path
  task : Task
deriving DecidableEq, Repr

namespace Given

def number? (g : Given) (name : String) : Option Nat :=
  (g.options.lookup name).bind fun s => (Text.word? s.toList).map UInt64.toNat

def file (g : Given) : Except Stop Path :=
  match g.options.lookup "file" with
  | some s => .ok ⟨s⟩
  | none => .error (.wrong (.missingOption "file"))

/-- The chosen selection. A text and an offset exclude each other, and the number of an occurrence
or a length needs one of the two. -/
def choice (g : Given) : Except Stop Choice :=
  let number (name : String) (default : Nat) := (g.number? name).getD default
  match g.options.lookup "select", g.number? "at" with
  | some _, some _ => .error (.wrong (.conflict "select" "at"))
  | some needle, none => .ok (.text needle (number "occurrence" 0))
  | none, some start => .ok (.offset start (number "len" 1))
  | none, none =>
    if (g.number? "occurrence").isSome then .error (.wrong (.missingOption "select"))
    else if (g.number? "len").isSome then .error (.wrong (.missingOption "at"))
    else .ok .missing

def task (g : Given) : Command.Kind → Except Stop Task
  | .capture => do
    let choice ← g.choice
    let file ← g.file
    .ok (.capture ⟨file, choice, g.flags.contains "no-copy", g.flags.contains "json"⟩)
  | .serve => do .ok (.serve (← g.file) (g.flags.contains "no-copy"))
  | .stats => .ok .stats
  | .info => .ok .info
  | .completions =>
    match g.positionals with
    | [s] =>
      match Shell.ofName? s with
      | some shell => .ok (.completions shell)
      | none => .error (.wrong (.badValue "shell" s))
    | _ => .error (.wrong .missingCommand)

end Given

namespace Invocation

def helpOn : List String → Stop
  | [] => .help
  | [s] =>
    if s = "help" || (Command.Kind.ofName? s).isSome then .help else .wrong (.unexpected s)
  | _ :: s :: _ => .wrong (.unexpected s)

/-- The invocation that arguments make. An option given again after the subcommand replaces the
one before it. A value right before the subcommand is looked at only after all of the
subcommand's arguments. -/
def read (arguments : List String) : Except Stop Invocation := do
  let top : OptionTable := { valued := Command.Kind.shared, hasVersion := true }
  let (before, rest) ← top.scan true {} arguments
  match rest with
  | [] => .error (.wrong .missingCommand)
  | "help" :: rest => .error (helpOn rest)
  | name :: rest =>
    match Command.Kind.ofName? name with
    | none => .error (.wrong (.unexpected name))
    | some kind =>
      let (after, _) ← kind.table.scan false {} rest
      let before ← before.settle
      let task ← after.task kind
      let config := (after.options.lookup "config").or (before.options.lookup "config")
      .ok ⟨config.map Path.mk, task⟩

end Invocation

/-! ### Help -/

def programName : String := "widget-catcher"

def programVersion : String := "0.1.0"

def versionText : String := s!"{programName} {programVersion}\n"

def Command.Kind.summary : Command.Kind → String
  | .capture => "Expand a selection in a source file and copy the call around it"
  | .serve => "Answer requests, one JSON line each, about a source file"
  | .stats => "Print how many captures were counted"
  | .info => "Print name and version as JSON"
  | .completions => "Print a completion script for a shell"

def helpLine (name summary : String) : String :=
  "  " ++ name ++ String.ofList (List.replicate (14 - name.length) ' ') ++ summary ++ "\n"

def helpText : String :=
  "Copy the bracket-balanced call around a selected name\n\n"
    ++ s!"Usage: {programName} [--config <FILE>] <COMMAND>\n\nCommands:\n"
    ++ String.join (Command.Kind.all.map fun k => helpLine k.name k.summary)
    ++ "\nOptions:\n" ++ helpLine "--config" "A further file of settings"
    ++ helpLine "-h, --help" "Print help" ++ helpLine "-V, --version" "Print version"

def commandNames : List String := Command.Kind.all.map (·.name) ++ ["help"]

def completionScript (shell : Shell) : String :=
  let names := String.intercalate " " commandNames
  match shell with
  | .bash => s!"complete -W '{names}' {programName}\n"
  | .elvish =>
    s!"set edit:completion:arg-completer[{programName}] = " ++ "\x7b|@words| put " ++ names
      ++ " \x7d\n"
  | .fish => s!"complete -c {programName} -f -n __fish_use_subcommand -a '{names}'\n"
  | .powershell =>
    s!"Register-ArgumentCompleter -Native -CommandName {programName} -ScriptBlock "
      ++ s!"\x7b -split '{names}' \x7d\n"
  | .zsh => s!"#compdef {programName}\ncompadd {names}\n"

end CallCapture

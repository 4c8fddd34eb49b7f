import CallCapture.Journal.Basic
import CallCapture.Report
import CallCapture.Text.Basic

/-! The clipboard of the system is given up once it refuses a text. From then on a text goes to the
first command that takes it, when commands are allowed. -/

namespace CallCapture

structure Command where
  program : String
  arguments : List String := []
deriving DecidableEq, Repr

inductive Ending
  | exit (code : Nat)
  | signal (number : Nat)
deriving DecidableEq, Repr

def signalNames : List (Nat × String) :=
  [(1, "SIGHUP"), (2, "SIGINT"), (3, "SIGQUIT"), (4, "SIGILL"), (5, "SIGTRAP"), (6, "SIGABRT"),
   (7, "SIGBUS"), (8, "SIGFPE"), (9, "SIGKILL"), (10, "SIGUSR1"), (11, "SIGSEGV"),
   (12, "SIGUSR2"), (13, "SIGPIPE"), (14, "SIGALRM"), (15, "SIGTERM"), (16, "SIGSTKFLT"),
   (17, "SIGCHLD"), (18, "SIGCONT"), (19, "SIGSTOP"), (20, "SIGTSTP"), (21, "SIGTTIN"),
   (22, "SIGTTOU"), (23, "SIGURG"), (24, "SIGXCPU"), (25, "SIGXFSZ"), (26, "SIGVTALRM"),
   (27, "SIGPROF"), (28, "SIGWINCH"), (29, "SIGIO"), (30, "SIGPWR"), (31, "SIGSYS")]

def Ending.text : Ending → String
  | .exit code => s!"exit status: {code}"
  | .signal number =>
    match signalNames.lookup number with
    | some name => s!"signal: {number} ({name})"
    | none => s!"signal: {number}"

inductive Tool
  | reads (ending : Ending)
  | ignores (ending : Ending)
  | notExecutable
deriving DecidableEq, Repr

abbrev Toolbox := List (String × Tool)

structure Delivery where
  command : Command
  text : String
deriving DecidableEq, Repr

inductive CommandError
  | notFound (program : String)
  | notPermitted (program : String)
  | brokenPipe
  | badEnding (ending : Ending)
deriving DecidableEq, Repr

namespace CommandError

def message : CommandError → String
  | .notFound program | .notPermitted program =>
    s!"failed to spawn clipboard command: {program}"
  | .brokenPipe => "failed to write clipboard contents"
  | .badEnding ending => s!"clipboard command exited with status {ending.text}"

def cause? : CommandError → Option String
  | .notFound _ => some "No such file or directory (os error 2)"
  | .notPermitted _ => some "Permission denied (os error 13)"
  | .brokenPipe => some "Broken pipe (os error 32)"
  | .badEnding _ => none

def explained (e : CommandError) : String :=
  match e.cause? with
  | some cause => s!"{e.message}: {cause}"
  | none => e.message

end CommandError

namespace Command

/-- A pipe takes this many bytes from a writer before anybody reads. -/
def pipeSize : Nat := 65536

def judge (ending : Ending) : Except CommandError Unit :=
  if ending = .exit 0 then .ok () else .error (.badEnding ending)

def run (c : Command) (tools : Toolbox) (text : String) :
    Except CommandError Unit × List Delivery :=
  match tools.lookup c.program with
  | none => (.error (.notFound c.program), [])
  | some .notExecutable => (.error (.notPermitted c.program), [])
  | some (.ignores ending) =>
    (if pipeSize < text.utf8ByteSize then .error .brokenPipe else judge ending, [])
  | some (.reads ending) => (judge ending, [⟨c, text⟩])

end Command

structure ClipboardError where
  attempts : List String
deriving DecidableEq, Repr

def ClipboardError.message (e : ClipboardError) : String :=
  s!"failed to copy text to clipboard using available backends: {Text.listing e.attempts}"

/-- The clipboard of the system: why it refuses a text, if it does. -/
structure SystemClipboard where
  refusal? : String → Option String

structure Fallback where
  tools : Toolbox
  allowed : Bool

namespace Fallback

def commands : List Command := [⟨"xclip", ["-selection", "clipboard"]⟩, ⟨"wl-copy", []⟩]

/-- What came of trying commands: the failed attempts if none took the text, and the deliveries. -/
structure Trial where
  failure : Option (List String)
  delivered : List Delivery
deriving DecidableEq, Repr

def tryCommands (tools : Toolbox) (text : String) (attempts : List String) :
    List Command → Logged Trial
  | [] => pure ⟨some attempts, []⟩
  | c :: rest =>
    match c.run tools text with
    | (.ok (), delivered) => pure ⟨none, delivered⟩
    | (.error e, delivered) => do
      log ⟨.debug, .clipboard, "clipboard command failed",
        [("program", .quoted c.program), ("error", .shown e.message)]⟩
      let trial ← tryCommands tools text (attempts ++ [s!"{c.program}: {e.explained}"]) rest
      pure { trial with delivered := delivered ++ trial.delivered }

def copy (text : String) (attempts : List String) (f : Fallback) :
    Logged (Except ClipboardError CopyMethod × List Delivery) :=
  if f.allowed then do
    let trial ← tryCommands f.tools text attempts commands
    match trial.failure with
    | none =>
      log ⟨.info, .clipboard, "widget copied using fallback method", []⟩
      pure (.ok .fallback, trial.delivered)
    | some attempts =>
      log ⟨.error, .clipboard, "fallback copy methods also failed",
        [("attempts", .shown (Text.listing attempts))]⟩
      pure (.error ⟨attempts⟩, trial.delivered)
  else pure (.error ⟨attempts⟩, [])

end Fallback

inductive Clipboard
  | memory (writes : List String)
  | rejecting
  | system (primary : SystemClipboard) (fallback : Fallback) (taken : List String)
  | commands (fallback : Fallback) (taken : List String) (deliveries : List Delivery)

namespace Clipboard

def empty : Clipboard := .memory []

def writes : Clipboard → List String
  | .memory writes => writes
  | .rejecting => []
  | .system _ _ taken => taken
  | .commands _ taken deliveries => taken ++ deliveries.map (·.text)

def taken : Clipboard → List String
  | .system _ _ taken | .commands _ taken _ => taken
  | _ => []

def deliveries : Clipboard → List Delivery
  | .commands _ _ deliveries => deliveries
  | _ => []

def noDisplay : String :=
  "Unknown error while interacting with the clipboard: "
    ++ "X11 server connection timed out because it was unreachable"

def connect (display : Except String SystemClipboard) (fallback : Fallback) : Logged Clipboard :=
  match display with
  | .ok primary => pure (.system primary fallback [])
  | .error e => do
    log ⟨.debug, .clipboard, "system clipboard unavailable", [("error", .shown e)]⟩
    pure (.commands fallback [] [])

def copy (text : String) : Clipboard → Logged (Except ClipboardError CopyMethod × Clipboard)
  | .memory writes => pure (.ok .primary, .memory (writes ++ [text]))
  | .rejecting => pure (.error ⟨["memory: rejected"]⟩, .rejecting)
  | .system primary fallback taken =>
    match primary.refusal? text with
    | none => do
      log ⟨.debug, .clipboard, "widget copied to clipboard", []⟩
      pure (.ok .primary, .system primary fallback (taken ++ [text]))
    | some e => do
      log ⟨.warn, .clipboard, "failed to copy to system clipboard", [("error", .shown e)]⟩
      let (result, delivered) ← fallback.copy text [s!"arboard: {e}"]
      pure (result, .commands fallback taken delivered)
  | .commands fallback taken deliveries => do
    let (result, delivered) ← fallback.copy text []
    pure (result, .commands fallback taken (deliveries ++ delivered))

end Clipboard

end CallCapture

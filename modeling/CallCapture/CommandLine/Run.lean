import CallCapture.CommandLine.Arguments
import CallCapture.Journal.Filter
import CallCapture.Page
import CallCapture.Report
import CallCapture.Settings

/-! A run depends on nothing but its arguments and what surrounds it, so runs one after another
share the disk alone. -/

namespace CallCapture

structure Surroundings where
  environment : Environment := {}
  disk : Disk := {}
  tools : Toolbox := []
  input : List UInt8 := []
  now : Moment
  display : Except String SystemClipboard := .error Clipboard.noDisplay

inductive Failure
  | usage (e : UsageError)
  | settings (e : SettingsError)
  | source (file : Path)
  | noChoice
  | search (e : SearchError)
  | nothingSelected
  | serving (e : ServeError)
  | noDataFolder
  | tally (e : TallyError)
  | cutLogFilter
deriving DecidableEq, Repr

namespace Failure

def message : Failure → String
  | .usage e => e.message
  | .settings e => e.message
  | .source file => s!"failed to read source file: {file.text}"
  | .noChoice => "either --select or --at is required"
  | .search e => e.message
  | .nothingSelected => "nothing selected"
  | .serving e => e.message
  | .noDataFolder => "no data directory available for usage stats"
  | .tally e => e.message
  | .cutLogFilter => "a part of the log filter starts or ends within a character"

def status : Failure → Nat
  | .usage _ => 2
  | .cutLogFilter => 101
  | _ => 1

def report : Failure → String
  | .usage e => s!"error: {e.message}\n\nFor more information, try '--help'.\n"
  | e => s!"Error: {e.message}\n"

end Failure

structure Outcome where
  output : String := ""
  failure : Option Failure := none
  disk : Disk
  taken : List String := []
  deliveries : List Delivery := []

def Outcome.status (o : Outcome) : Nat :=
  match o.failure with
  | some e => e.status
  | none => 0

namespace Surroundings

def printing (s : Surroundings) (output : String) : Outcome := { output, disk := s.disk }

def failing (s : Surroundings) (e : Failure) : Outcome := { failure := some e, disk := s.disk }

def document (s : Surroundings) (file : Path) : Except Failure Document :=
  match s.disk.readText? file with
  | some text => .ok (.ofString text)
  | none => .error (.source file)

def capturer (s : Surroundings) (settings : Settings) (noCopy : Bool) : Logged Capturer := do
  let clipboard ←
    if noCopy then pure Clipboard.empty
    else Clipboard.connect s.display ⟨s.tools, settings.usesFallbackCommands⟩
  let store :=
    if settings.countsUsage then (settings.tallyFile? s.environment).map TallyStore.mk else none
  pure
    { budgets := settings.budgets
      clipboard
      feedback := ⟨{ duration := settings.snackbarDuration }, true⟩
      store
      disk := s.disk }

end Surroundings

def Choice.select (d : Document) : Choice → Except Failure Document
  | .text needle occurrence =>
    match d.selectText needle occurrence with
    | (.ok _, d) => .ok d
    | (.error e, _) => .error (.search e)
  | .offset start length => .ok (d.select start (start + length))
  | .missing => .error .noChoice

def Report.printed (r : Report) (json : Bool) : String :=
  if json then r.toJson.indented ++ "\n"
  else
    match r.finalText with
    | some text => text ++ "\n"
    | none => ""

namespace Surroundings

def capture (s : Surroundings) (settings : Settings) (a : CaptureArguments) : Logged Outcome :=
  match s.document a.file >>= fun d => a.choice.select d with
  | .error e => pure (s.failing e)
  | .ok d => do
    let c ← s.capturer settings a.noCopy
    let (report, _, c) ← c.capture s.now d (some d.selectedText)
    pure
      { output := report.printed a.json
        failure := if report.success then none else some .nothingSelected
        disk := c.disk
        taken := c.clipboard.taken
        deliveries := c.clipboard.deliveries }

def page (s : Surroundings) (settings : Settings) (file : Path) (noCopy : Bool) :
    Logged (Except Failure Page) :=
  match s.document file with
  | .error e => pure (.error e)
  | .ok d => do
    let c ← s.capturer settings noCopy
    pure (.ok ⟨d, c, none⟩)

def stats (s : Surroundings) (settings : Settings) : Outcome :=
  match settings.tallyFile? s.environment with
  | none => s.failing .noDataFolder
  | some file =>
    match (TallyStore.mk file).load s.disk with
    | .ok t => s.printing s!"{t.count.toNat}\n"
    | .error e => s.failing (.tally e)

end Surroundings

/-- How a run begins: it ends at once, or it goes on to serve its input. -/
inductive Beginning
  | ended (outcome : Outcome)
  | serving (page : Page)

def Outcome.ofServed (served : Page.Served) : Outcome where
  output := String.join served.out
  failure := served.error.map .serving
  disk := served.page.capturer.disk
  taken := served.page.capturer.clipboard.taken
  deliveries := served.page.capturer.clipboard.deliveries

def Beginning.finish (now : Moment) (input : List UInt8) : Beginning → Logged Outcome
  | .ended outcome => pure outcome
  | .serving page => do pure (.ofServed (← page.serve now .sound input))

namespace Invocation

def withSettings (i : Invocation) (s : Surroundings) (body : Settings → Logged Beginning) :
    Logged Beginning :=
  match Settings.load s.environment s.disk i.config with
  | .ok settings => body settings
  | .error e => pure (.ended (s.failing (.settings e)))

def start (i : Invocation) (s : Surroundings) : Logged Beginning :=
  match i.task with
  | .capture a => i.withSettings s fun settings => do
    pure (.ended (← s.capture settings a))
  | .serve file noCopy => i.withSettings s fun settings => do
    match ← s.page settings file noCopy with
    | .ok page => pure (.serving page)
    | .error e => pure (.ended (s.failing e))
  | .stats => i.withSettings s fun settings => pure (.ended (s.stats settings))
  | .info => pure (.ended (s.printing (ExtensionInfo.current.toJson.compact ++ "\n")))
  | .completions shell => pure (.ended (s.printing (completionScript shell)))

end Invocation

def Environment.journalFilter? (e : Environment) : Option Filter :=
  Filter.ofSetting? (e.lookup "WIDGET_CATCHER_LOG")

def Logged.keeping {α : Type} (f : Filter) (x : Logged α) : Logged α :=
  ⟨x.value, x.entries.filter f.keeps⟩

def beginCommandLine (arguments : List String) (s : Surroundings) : Logged Beginning :=
  match Invocation.read arguments with
  | .ok i => i.start s
  | .error .help => pure (.ended (s.printing helpText))
  | .error .version => pure (.ended (s.printing versionText))
  | .error (.wrong e) => pure (.ended (s.failing (.usage e)))

/-- Runs the command line on its arguments, to the end of the input. The filter of the journal is
looked at first of all. -/
def runCommandLine (arguments : List String) (s : Surroundings) : Logged Outcome :=
  match s.environment.journalFilter? with
  | none => pure (s.failing .cutLogFilter)
  | some f => Logged.keeping f do
    let beginning ← beginCommandLine arguments s
    beginning.finish s.now s.input

end CallCapture

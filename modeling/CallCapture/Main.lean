import CallCapture.CommandLine.Arguments
import CallCapture.CommandLine.Run
import CallCapture.Disk
import CallCapture.Journal.Basic
import CallCapture.Settings
import CallCapture.Timestamp
import Std.Time.DateTime

namespace CallCapture

namespace Account

def user? (status : String) : Option String :=
  (status.splitOn "\n").findSome? fun line =>
    match line.splitOn "\t" with
    | "Uid:" :: user :: _ => some user
    | _ => none

def home? (accounts user : String) : Option Path :=
  (accounts.splitOn "\n").findSome? fun line =>
    match line.splitOn ":" with
    | [_, _, number, _, _, home, _] => if number = user then some ⟨home⟩ else none
    | _ => none

end Account

def Path.locationFrom (p : Path) (here : Location) : Location :=
  p.steps.foldl
    (fun l step =>
      match step with
      | .stay => l
      | .up => l.dropLast
      | .into name => l ++ [name])
    (if p.isAbsolute then [] else here)

namespace Settings

def sources (e : Environment) (d : Disk) (explicit : Option Path) : List Path :=
  let shared := (Location.upwards d.here).flatMap fun (l : Location) =>
    [l.path.join ⟨".git"⟩, l.path.join ⟨".widget-catcher/config.toml"⟩]
  (userFile? e).toList ++ shared ++ explicit.toList

end Settings

def Task.source? : Task → Option Path
  | .capture a => some a.file
  | .serve file _ => some file
  | .stats | .info | .completions _ => none

def Invocation.tally? (i : Invocation) (e : Environment) (d : Disk) : Option Path :=
  match Settings.load e d i.config with
  | .ok settings => settings.tallyFile? e
  | .error _ => none

def Invocation.files (i : Invocation) (e : Environment) (d : Disk) : List Path :=
  Settings.sources e d i.config ++ i.task.source?.toList ++ (i.tally? e d).toList

def environmentVariables : List String :=
  ["HOME", "XDG_CONFIG_HOME", "XDG_DATA_HOME", "WIDGET_CATCHER_USAGE_FILE",
    "WIDGET_CATCHER_BALANCE_BUDGET", "WIDGET_CATCHER_LOG"]

def readAccountHome : IO (Option Path) := do
  try
    let status ← IO.FS.readFile "/proc/self/status"
    let accounts ← IO.FS.readFile "/etc/passwd"
    return (Account.user? status).bind (Account.home? accounts)
  catch _ => return none

def readEnvironment : IO Environment := do
  let values ← environmentVariables.filterMapM fun name => do
    return (← IO.getEnv name).map fun text => (name, text)
  return ⟨values, ← readAccountHome⟩

def readClock : IO Moment := do
  let instant ← IO.monoMsNow
  let time ← Std.Time.Timestamp.now
  let seconds := time.toSecondsSinceUnixEpoch.val.toNat
  let nanosecond := time.toNanosecondsSinceUnixEpoch.val.toNat % 1000000000
  match Timestamp.ofSeconds? seconds nanosecond with
  | some timestamp => return ⟨instant, timestamp⟩
  | none => throw (IO.userError "the clock shows a year after 9999")

def probe (l : Location) : IO (Option Node) := do
  try
    return some (.file (← IO.FS.readBinFile (Location.path l).text))
  catch _ =>
    try
      let _ ← IO.FS.realPath (Location.path l).text
      return some .folder
    catch _ => return none

def look (d : Disk) (l : Location) : IO Disk :=
  (Location.upwards l).foldrM
    (fun l d => do
      match ← probe l with
      | some node => return d.put l node
      | none => return d.remove l)
    d

/-- Looks at the files of an invocation, twice, since the settings name one of them. -/
def lookAround (i : Invocation) (e : Environment) (here : Location) : IO Disk := do
  let lookAt (d : Disk) : IO Disk :=
    (i.files e d).foldlM (fun d p => look d (p.locationFrom here)) d
  lookAt (← lookAt (← look { here } here))

def writeFile (l : Location) (bytes : ByteArray) : IO Unit := do
  let staged := (Location.path l).text ++ ".staged"
  IO.FS.writeBinFile staged bytes
  IO.FS.rename staged (Location.path l).text

def writeChanges (before after : Disk) : IO Unit :=
  after.entries.forM fun (l, node) => do
    if before.at? l ≠ some node then
      match node with
      | .folder => IO.FS.createDirAll (Location.path l).text
      | .file bytes => writeFile l bytes

def writeJournal (now : Moment) (f : Filter) (entries : List Entry) : IO Unit := do
  let err ← IO.getStderr
  for entry in entries.filter f.keeps do
    err.putStrLn (entry.timedLine now.timestamp)

def finish (now : Moment) (f : Filter) (s : Surroundings) (done : Logged Outcome) :
    IO UInt32 := do
  let out ← IO.getStdout
  let outcome := done.value
  writeJournal now f done.entries
  out.putStr outcome.output
  out.flush
  writeChanges s.disk outcome.disk
  match outcome.failure with
  | some failure => (← IO.getStderr).putStr failure.report
  | none => pure ()
  return outcome.status.toUInt32

partial def readLine (input : IO.FS.Stream) (line : ByteArray) : IO ByteArray := do
  let byte ← input.read 1
  if byte.isEmpty then return line
  else if byte = ⟨#[0x0a]⟩ then return line ++ byte
  else readLine input (line ++ byte)

partial def serveInput (f : Filter) (s : Surroundings) (page : Page) : IO UInt32 := do
  let line ← readLine (← IO.getStdin) .empty
  if line.isEmpty then return 0
  let now ← readClock
  let served := page.serve now .sound line.toList
  let next := served.value.page
  let status ← finish now f s (Outcome.ofServed <$> served)
  if status = 0 then serveInput f { s with disk := next.capturer.disk } next else return status

end CallCapture

open CallCapture in
def main (args : List String) : IO UInt32 := do
  let environment ← readEnvironment
  let now ← readClock
  let folder ← IO.currentDir
  let here := Path.locationFrom ⟨toString folder⟩ []
  let disk ←
    match Invocation.read args with
    | .ok i => lookAround i environment here
    | .error _ => pure { here }
  let s : Surroundings := { environment, disk, now }
  match environment.journalFilter? with
  | none => finish now [] s (pure (s.failing .cutLogFilter))
  | some f =>
    let begun := beginCommandLine args s
    match begun.value with
    | .ended outcome => finish now f s ⟨outcome, begun.entries⟩
    | .serving page => do
      writeJournal now f begun.entries
      serveInput f s page

import CallCapture.Disk
import CallCapture.Expansion
import CallCapture.Json.Text
import CallCapture.Json.Value
import CallCapture.Text.Basic
import CallCapture.Toml.Reader

/-! Layers are merged key by key, from the lowest to the highest: the built-in settings, the file of
the user, that of the workspace, one named explicitly, and the environment. -/

namespace CallCapture

/-! ### The environment -/

structure Environment where
  values : List (String × String) := []
  /-- The home folder of the account. -/
  accountHome : Option Path := none
deriving DecidableEq, Repr

namespace Environment

def lookup (e : Environment) (name : String) : Option String := e.values.lookup name

def home? (e : Environment) : Option Path :=
  match e.lookup "HOME" with
  | some text => if text.isEmpty then e.accountHome else some ⟨text⟩
  | none => e.accountHome

def baseFolder? (e : Environment) (name belowHome : String) : Option Path :=
  match e.lookup name with
  | some text =>
    if (⟨text⟩ : Path).isAbsolute then some ⟨text⟩ else e.home?.map (·.join ⟨belowHome⟩)
  | none => e.home?.map (·.join ⟨belowHome⟩)

def configFolder? (e : Environment) : Option Path := e.baseFolder? "XDG_CONFIG_HOME" ".config"

def dataFolder? (e : Environment) : Option Path := e.baseFolder? "XDG_DATA_HOME" ".local/share"

end Environment

/-! ### Layers -/

structure Settings where
  backward : Option UInt64 := none
  forward : Option UInt64 := none
  balance : Option UInt64 := none
  snackbarMillis : Option UInt64 := none
  fallbackCommands : Option Bool := none
  tallyEnabled : Option Bool := none
  tallyPath : Option String := none
deriving DecidableEq, Repr

namespace Settings

def preferring {α : Type} (upper lower : Option α) : Option α := upper.or lower

def merge (base layer : Settings) : Settings where
  backward := preferring layer.backward base.backward
  forward := preferring layer.forward base.forward
  balance := preferring layer.balance base.balance
  snackbarMillis := preferring layer.snackbarMillis base.snackbarMillis
  fallbackCommands := preferring layer.fallbackCommands base.fallbackCommands
  tallyEnabled := preferring layer.tallyEnabled base.tallyEnabled
  tallyPath := preferring layer.tallyPath base.tallyPath

def builtin : Settings where
  backward := some 50
  forward := some 100
  balance := some 10000
  snackbarMillis := some 1500
  fallbackCommands := some true
  tallyEnabled := some true

def layered (layers : List Settings) : Settings := layers.foldl merge {}

def budgets (s : Settings) : Budgets :=
  let base : Budgets := {}
  { backward := (s.backward.map UInt64.toNat).getD base.backward
    forward := (s.forward.map UInt64.toNat).getD base.forward
    balance := (s.balance.map UInt64.toNat).getD base.balance }

def snackbarDuration (s : Settings) : Nat := (s.snackbarMillis.map UInt64.toNat).getD 1500

def usesFallbackCommands (s : Settings) : Bool := s.fallbackCommands.getD true

def countsUsage (s : Settings) : Bool := s.tallyEnabled.getD true

end Settings

/-! ### In TOML -/

namespace Toml

def word? : Toml → Option UInt64
  | .integer n => if 0 ≤ n && n < UInt64.size then some (UInt64.ofNat n.toNat) else none
  | _ => none

def bool? : Toml → Option Bool
  | .bool b => some b
  | _ => none

def string? : Toml → Option String
  | .text s => some s
  | _ => none

def section? (keys : List String) : Toml → Option Entries
  | .table _ es => some es
  | .array items => some (keys.zip items)
  | .tables elements => some (keys.zip (elements.map (.table .header)))
  | .moment => some []
  | _ => none

namespace Entries

def sectionAt? (es : Entries) (name : String) (keys : List String) : Option Entries :=
  match es.lookup name with
  | some value => Toml.section? keys value
  | none => some []

def optional {α : Type} (es : Entries) (key : String) (decode : Toml → Option α) :
    Option (Option α) :=
  match es.lookup key with
  | some value => (decode value).map some
  | none => some none

end Entries

end Toml

namespace Settings

open Toml

def ofEntries? (es : Entries) : Option Settings := do
  let budgets ← es.sectionAt? "budgets" ["backward_anchor", "forward_anchor", "balance"]
  let feedback ← es.sectionAt? "feedback" ["snackbar_duration_ms"]
  let clipboard ← es.sectionAt? "clipboard" ["fallback_commands"]
  let usage ← es.sectionAt? "usage" ["enabled", "path"]
  let backward ← budgets.optional "backward_anchor" Toml.word?
  let forward ← budgets.optional "forward_anchor" Toml.word?
  let balance ← budgets.optional "balance" Toml.word?
  let snackbarMillis ← feedback.optional "snackbar_duration_ms" Toml.word?
  let fallbackCommands ← clipboard.optional "fallback_commands" Toml.bool?
  let tallyEnabled ← usage.optional "enabled" Toml.bool?
  let tallyPath ← usage.optional "path" Toml.string?
  some ⟨backward, forward, balance, snackbarMillis, fallbackCommands, tallyEnabled, tallyPath⟩

def ofTomlText? (text : List Char) : Option Settings := (Toml.read? text).bind ofEntries?

/-! ### In JSON -/

def wordToJson (n : UInt64) : Json := Json.ofNat n.toNat

def toJson (s : Settings) : Json :=
  .object
    [Json.member "budgets" (.object
      [Json.member "backward_anchor" (Json.orNull wordToJson s.backward),
       Json.member "forward_anchor" (Json.orNull wordToJson s.forward),
       Json.member "balance" (Json.orNull wordToJson s.balance)]),
     Json.member "feedback" (.object
      [Json.member "snackbar_duration_ms" (Json.orNull wordToJson s.snackbarMillis)]),
     Json.member "clipboard" (.object
      [Json.member "fallback_commands" (Json.orNull .bool s.fallbackCommands)]),
     Json.member "usage" (.object
      [Json.member "enabled" (Json.orNull .bool s.tallyEnabled),
       Json.member "path" (Json.orNull Json.ofString s.tallyPath)])]

def section? (keys : List String) (r : Json.Record) (name : String) : Option Json.Record :=
  r.orDefault name (Json.record? (keys.map fun key => ⟨key, true⟩)) ⟨[]⟩

def ofJson? (j : Json) : Option Settings := do
  let r ← j.record? [⟨"budgets", true⟩, ⟨"feedback", true⟩, ⟨"clipboard", true⟩, ⟨"usage", true⟩]
  let budgets ← section? ["backward_anchor", "forward_anchor", "balance"] r "budgets"
  let feedback ← section? ["snackbar_duration_ms"] r "feedback"
  let clipboard ← section? ["fallback_commands"] r "clipboard"
  let usage ← section? ["enabled", "path"] r "usage"
  let backward ← budgets.optional "backward_anchor" Json.word?
  let forward ← budgets.optional "forward_anchor" Json.word?
  let balance ← budgets.optional "balance" Json.word?
  let snackbarMillis ← feedback.optional "snackbar_duration_ms" Json.word?
  let fallbackCommands ← clipboard.optional "fallback_commands" Json.bool?
  let tallyEnabled ← usage.optional "enabled" Json.bool?
  let tallyPath ← usage.optional "path" Json.string?
  some ⟨backward, forward, balance, snackbarMillis, fallbackCommands, tallyEnabled, tallyPath⟩

def ofJsonText? (text : List Char) : Option Settings := (Json.read? text).bind ofJson?

end Settings

/-! ### Loading -/

inductive SettingsError
  | unreadable (path : Path)
  | invalid
deriving DecidableEq, Repr

def SettingsError.message : SettingsError → String
  | .unreadable p => s!"failed to read config file: {p.text}"
  | .invalid => "failed to parse TOML config"

def Location.upwards (l : Location) : List Location :=
  (List.range (l.length + 1)).map fun k => l.take (l.length - k)

namespace Settings

def readLayer (d : Disk) (p : Path) : Except SettingsError Settings :=
  match d.readText? p with
  | none => .error (.unreadable p)
  | some text =>
    match ofTomlText? text.toList with
    | some layer => .ok layer
    | none => .error .invalid

def readLayerIfPresent (d : Disk) (p : Option Path) : Except SettingsError Settings :=
  match p with
  | some p => if d.pathExists p then readLayer d p else .ok {}
  | none => .ok {}

def userFile? (e : Environment) : Option Path :=
  e.configFolder?.map (·.join ⟨"widget-catcher/config.toml"⟩)

def workspace (d : Disk) : Location :=
  (d.here.upwards.find? fun l => (d.at? (l ++ [".git"])).isSome).getD d.here

def workspaceFile (d : Disk) : Path := (workspace d).path.join ⟨".widget-catcher/config.toml"⟩

/-- The layer of the environment: the file of the tally, and the balance budget where its text is
a number. -/
def ofEnvironment (e : Environment) : Settings where
  tallyPath := e.lookup "WIDGET_CATCHER_USAGE_FILE"
  balance := (e.lookup "WIDGET_CATCHER_BALANCE_BUDGET").bind fun text =>
    Text.word? (Text.trim text.toList)

/-- The settings in force, an explicit file laid over those found. -/
def load (e : Environment) (d : Disk) (explicit : Option Path) : Except SettingsError Settings := do
  let user ← readLayerIfPresent d (userFile? e)
  let shared ← readLayerIfPresent d (some (workspaceFile d))
  let named ← match explicit with
    | some p => readLayer d p
    | none => .ok {}
  pure (layered [builtin, user, shared, named, ofEnvironment e])

def tallyFile? (s : Settings) (e : Environment) : Option Path :=
  match s.tallyPath with
  | some text => some ⟨text⟩
  | none => e.dataFolder?.map (·.join ⟨"widget-catcher/usage.json"⟩)

end Settings

end CallCapture

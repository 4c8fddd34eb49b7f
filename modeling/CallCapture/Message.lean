import CallCapture.Journal.Basic
import CallCapture.Json.Text
import CallCapture.Json.Value
import CallCapture.Report

namespace CallCapture

inductive PageCommand
  | capture
  | captureShortcut
deriving DecidableEq, Repr

/-- A request to the page; the widget text is what the trigger saw selected. -/
structure PageRequest where
  command : PageCommand
  widget : Option String := none
deriving DecidableEq, Repr

def PageRequest.capture (widget : String) : PageRequest := ⟨.capture, some widget⟩

structure PageResponse where
  success : Bool
  message : String
deriving DecidableEq, Repr

namespace PageResponse

def failed : PageResponse := ⟨false, "Failed to copy widget"⟩

def error : PageResponse := ⟨false, "Error occurred while copying widget"⟩

def ofReport (r : Report) : PageResponse :=
  if !r.success then failed
  else if r.errorKind.isSome then ⟨true, "Widget caught but clipboard is unavailable"⟩
  else ⟨true, "Widget copied successfully"⟩

end PageResponse

inductive RuntimeRequest
  | getExtensionInfo
  | logError (error : String)
  | logInfo (message : String)
deriving DecidableEq, Repr

structure ExtensionInfo where
  name : String
  version : String
deriving DecidableEq, Repr

def ExtensionInfo.current : ExtensionInfo := ⟨"Flutter Widget Catcher", "0.1.0"⟩

inductive Message
  | page (r : PageRequest)
  | runtime (r : RuntimeRequest)
deriving DecidableEq, Repr

/-! ### In JSON -/

namespace PageCommand

def name : PageCommand → String
  | .capture => "CATCH"
  | .captureShortcut => "CATCH_SHORTCUT"

def all : List PageCommand := [.capture, .captureShortcut]

def toJson (c : PageCommand) : Json := Json.ofString c.name

def ofJson? : Json → Option PageCommand := Json.choice? (all.map fun c => (c.name, c))

end PageCommand

namespace PageRequest

def toJson (r : PageRequest) : Json :=
  .object (Json.member "command" r.command.toJson :: Json.member? "widget" Json.ofString r.widget)

def ofJson? (j : Json) : Option PageRequest := do
  let r ← j.record? [⟨"command", false⟩, ⟨"widget", true⟩]
  let command ← r.required "command" PageCommand.ofJson?
  let widget ← r.optional "widget" Json.string?
  some ⟨command, widget⟩

end PageRequest

namespace PageResponse

def toJson (r : PageResponse) : Json :=
  .object [Json.member "success" (.bool r.success),
    Json.member "message" (Json.ofString r.message)]

def ofJson? (j : Json) : Option PageResponse := do
  let r ← j.record? [⟨"success", false⟩, ⟨"message", false⟩]
  let success ← r.required "success" Json.bool?
  let message ← r.required "message" Json.string?
  some ⟨success, message⟩

end PageResponse

namespace ExtensionInfo

def toJson (i : ExtensionInfo) : Json :=
  .object [Json.member "name" (Json.ofString i.name),
    Json.member "version" (Json.ofString i.version)]

def ofJson? (j : Json) : Option ExtensionInfo := do
  let r ← j.record? [⟨"name", false⟩, ⟨"version", false⟩]
  let name ← r.required "name" Json.string?
  let version ← r.required "version" Json.string?
  some ⟨name, version⟩

end ExtensionInfo

inductive Action
  | getExtensionInfo
  | logError
  | logInfo
deriving DecidableEq, Repr

namespace Action

def name : Action → String
  | .getExtensionInfo => "GET_EXTENSION_INFO"
  | .logError => "LOG_ERROR"
  | .logInfo => "LOG_INFO"

def all : List Action := [.getExtensionInfo, .logError, .logInfo]

def named? : Json → Option Action
  | .text (some s) => (all.map fun a => (a.name, a)).lookup s
  | _ => none

/-- An action by its name or by its place among the actions, as a served line may give it. -/
def served? : Json → Option Action
  | .text s => named? (.text s)
  | j => (Json.word? j).bind fun n => all[n.toNat]?

end Action

namespace RuntimeRequest

def toJson : RuntimeRequest → Json
  | .getExtensionInfo =>
    .object [Json.member "action" (Json.ofString Action.getExtensionInfo.name)]
  | .logError error =>
    .object [Json.member "action" (Json.ofString Action.logError.name),
      Json.member "error" (Json.ofString error)]
  | .logInfo message =>
    .object [Json.member "action" (Json.ofString Action.logInfo.name),
      Json.member "message" (Json.ofString message)]

def ofAction? (rest : Json) : Action → Option RuntimeRequest
  | .getExtensionInfo =>
    match rest with
    | .object _ | .array [] => some .getExtensionInfo
    | _ => none
  | .logError => do
    let r ← rest.record? [⟨"error", false⟩]
    let error ← r.required "error" Json.string?
    some (.logError error)
  | .logInfo => do
    let r ← rest.record? [⟨"message", false⟩]
    let message ← r.required "message" Json.string?
    some (.logInfo message)

def splitAction? : Json → Option (Json × Json)
  | .object members =>
    match members.filter (·.1 == some "action") with
    | [(_, action)] => some (action, .object (members.filter (·.1 != some "action")))
    | _ => none
  | .array (action :: rest) => some (action, .array rest)
  | _ => none

def ofJson? (action? : Json → Option Action) (j : Json) : Option RuntimeRequest := do
  let (action, rest) ← splitAction? j
  ofAction? rest (← action? action)

def read? (text : List Char) : Option RuntimeRequest :=
  (Json.readWholly? text).bind (ofJson? Action.named?)

end RuntimeRequest

namespace Message

def toJson : Message → Json
  | .page r => r.toJson
  | .runtime r => r.toJson

def ofJson? (j : Json) : Option Message :=
  match PageRequest.ofJson? j with
  | some r => some (.page r)
  | none => (RuntimeRequest.ofJson? Action.served? j).map .runtime

def read? (line : List Char) : Option Message := (Json.readWholly? line).bind ofJson?

end Message

def RuntimeRequest.answer : RuntimeRequest → Logged (Option ExtensionInfo)
  | .getExtensionInfo => pure (some .current)
  | .logError error => do
    log ⟨.error, .messages, "page reported error", [("error", .shown error)]⟩
    pure none
  | .logInfo message => do
    log ⟨.info, .messages, "page reported info", [("message", .shown message)]⟩
    pure none

end CallCapture

import CallCapture.Json.Value

namespace CallCapture

inductive Route
  | directHit
  | anchored
  | noOpeningBracket
  | endOfDocument
  | budgetExhausted
deriving DecidableEq, Repr

/-- A degraded route gives the best text at hand, and no balanced call. -/
def Route.isDegraded : Route → Bool
  | .directHit | .anchored => false
  | .noOpeningBracket | .endOfDocument | .budgetExhausted => true

def Route.label : Route → String
  | .directHit => "DirectHit"
  | .anchored => "Anchored"
  | .noOpeningBracket => "NoOpeningBracket"
  | .endOfDocument => "EndOfDocument"
  | .budgetExhausted => "BudgetExhausted"

structure Expansion where
  text : String
  route : Route
deriving DecidableEq, Repr

inductive CaptureError
  | emptySelection
  | clipboardUnavailable
deriving DecidableEq, Repr

def CaptureError.message : CaptureError → String
  | .emptySelection => "selection is empty"
  | .clipboardUnavailable => "clipboard is unavailable"

inductive CopyMethod
  | primary
  | fallback
  | skipped
deriving DecidableEq, Repr

structure Report where
  success : Bool
  finalText : Option String := none
  displayName : Option String := none
  errorKind : Option CaptureError := none
  route : Option Route := none
  copy : Option CopyMethod := none
deriving DecidableEq, Repr

def Report.failure (e : CaptureError) : Report := { success := false, errorKind := some e }

def Route.name : Route → String
  | .directHit => "direct-hit"
  | .anchored => "anchored"
  | .noOpeningBracket => "no-opening-bracket"
  | .endOfDocument => "end-of-document"
  | .budgetExhausted => "budget-exhausted"

def Route.all : List Route :=
  [.directHit, .anchored, .noOpeningBracket, .endOfDocument, .budgetExhausted]

def Route.toJson (r : Route) : Json := Json.ofString r.name

def Route.ofJson? : Json → Option Route := Json.choice? (Route.all.map fun r => (r.name, r))

def CaptureError.name : CaptureError → String
  | .emptySelection => "EmptySelection"
  | .clipboardUnavailable => "ClipboardUnavailable"

def CaptureError.all : List CaptureError := [.emptySelection, .clipboardUnavailable]

def CaptureError.toJson (e : CaptureError) : Json := Json.ofString e.name

def CaptureError.ofJson? : Json → Option CaptureError :=
  Json.choice? (CaptureError.all.map fun e => (e.name, e))

def CopyMethod.name : CopyMethod → String
  | .primary => "primary"
  | .fallback => "fallback"
  | .skipped => "skipped"

def CopyMethod.all : List CopyMethod := [.primary, .fallback, .skipped]

def CopyMethod.toJson (m : CopyMethod) : Json := Json.ofString m.name

def CopyMethod.ofJson? : Json → Option CopyMethod :=
  Json.choice? (CopyMethod.all.map fun m => (m.name, m))

namespace Report

def toJson (r : Report) : Json :=
  .object
    (Json.member "success" (.bool r.success)
      :: (Json.member? "finalText" Json.ofString r.finalText
        ++ Json.member? "displayName" Json.ofString r.displayName
        ++ Json.member? "errorKind" CaptureError.toJson r.errorKind
        ++ Json.member? "path" Route.toJson r.route
        ++ Json.member? "copy" CopyMethod.toJson r.copy))

def fields : List Json.Field :=
  [⟨"success", false⟩, ⟨"finalText", false⟩, ⟨"displayName", false⟩, ⟨"errorKind", false⟩,
   ⟨"path", false⟩, ⟨"copy", false⟩]

def ofJson? (j : Json) : Option Report := do
  let r ← j.record? fields
  let success ← r.required "success" Json.bool?
  let finalText ← r.optional "finalText" Json.string?
  let displayName ← r.optional "displayName" Json.string?
  let errorKind ← r.optional "errorKind" CaptureError.ofJson?
  let route ← r.optional "path" Route.ofJson?
  let copy ← r.optional "copy" CopyMethod.ofJson?
  some ⟨success, finalText, displayName, errorKind, route, copy⟩

end Report

end CallCapture

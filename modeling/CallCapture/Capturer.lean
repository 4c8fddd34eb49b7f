import CallCapture.Clipboard
import CallCapture.Expansion
import CallCapture.Journal.Basic
import CallCapture.Tally

/-! Only a blank selection stops a capture. A clipboard that rejects the text, or a tally that
cannot be kept, does not. -/

namespace CallCapture

/-! ### Feedback to the user -/

abbrev Instant := Int

def copiedMessage (name : String) : String := s!"Copied {name}()"

def notCopiedMessage (name : String) : String :=
  s!"Clipboard unavailable; {name}() was not copied"

structure Snackbar where
  duration : Nat := 1500
  current : Option (String × Instant) := none
  errors : List String := []
deriving DecidableEq, Repr

namespace Snackbar

/-- The message still on show; one shown at a later instant counts as just shown. -/
def visible? (s : Snackbar) (now : Instant) : Option String :=
  match s.current with
  | some (message, shownAt) => if (now - shownAt).toNat < s.duration then some message else none
  | none => none

def present (s : Snackbar) (message : String) (now : Instant) : Snackbar :=
  { s with current := some (message, now) }

def notifyError (s : Snackbar) (message : String) : Snackbar :=
  { s with errors := s.errors ++ [message] }

def tick (s : Snackbar) (now : Instant) : Snackbar :=
  if (s.visible? now).isNone then { s with current := none } else s

end Snackbar

structure Feedback where
  snackbar : Snackbar := {}
  echoes : Bool := false
deriving DecidableEq, Repr

namespace Feedback

def echoing (f : Feedback) (line : String) : Logged Unit :=
  if f.echoes then echo line else pure ()

def present (f : Feedback) (message : String) (now : Instant) : Logged Feedback := do
  f.echoing message
  pure { f with snackbar := f.snackbar.present message now }

def notifyError (f : Feedback) (message : String) : Logged Feedback := do
  f.echoing s!"error: {message}"
  pure { f with snackbar := f.snackbar.notifyError message }

end Feedback

/-! ### Captures -/

structure Moment where
  instant : Instant
  timestamp : Timestamp
deriving DecidableEq, Repr

structure Capturer where
  budgets : Budgets := {}
  clipboard : Clipboard := .empty
  feedback : Feedback := {}
  store : Option TallyStore := none
  disk : Disk := {}

/-- The name for a captured text: the one in the text; without one, that in what the trigger saw. -/
def displayName (hint : Option String) (text : String) : String :=
  let name := callName text
  if name ≠ defaultCallName then name
  else
    match hint with
    | some seen => callName seen
    | none => name

namespace Capturer

def count (now : Moment) (c : Capturer) : Logged Capturer :=
  match c.store with
  | none => pure c
  | some store => do
    let update := store.increment now.timestamp c.disk
    match update.1 with
    | .ok n => log ⟨.debug, .capture, "usage count updated", [("count", .number n.toNat)]⟩
    | .error f =>
      log ⟨.warn, .capture, "failed to update usage count", [("error", .shown f.error.message)]⟩
    pure { c with disk := TallyStore.settled update }

def deliver (now : Moment) (c : Capturer) (text name : String) :
    Logged (CopyMethod × Option CaptureError × Capturer) := do
  let (result, clipboard) ← c.clipboard.copy text
  match result with
  | .ok method =>
    let feedback ← c.feedback.present (copiedMessage name) now.instant
    pure (method, none, { c with clipboard := clipboard, feedback := feedback })
  | .error e =>
    log ⟨.error, .capture, "failed to copy to clipboard", [("error", .shown e.message)]⟩
    let feedback ← c.feedback.notifyError (notCopiedMessage name)
    pure (.skipped, some .clipboardUnavailable,
      { c with clipboard := clipboard, feedback := feedback })

/-- Captures the call at the live selection. What the trigger saw serves for the name alone. -/
def capture (now : Moment) (c : Capturer) (d : Document) (hint : Option String) :
    Logged (Report × Document × Capturer) := do
  let (result, d) ← d.expand c.budgets
  match result with
  | .error e =>
    log ⟨.warn, .capture, "catch aborted", [("error", .shown e.message)]⟩
    pure (.failure e, d, c)
  | .ok e =>
    if e.route.isDegraded then
      log ⟨.info, .capture, "degraded expansion", [("path", .shown e.route.label)]⟩
    let name := displayName hint e.text
    let (copy, error, c) ← c.deliver now e.text name
    let c ← c.count now
    pure (⟨true, some e.text, some name, error, some e.route, some copy⟩, d, c)

/-- The keyboard shortcut: it acts on a selection that is not blank, and sees just that. -/
def captureShortcut (now : Moment) (c : Capturer) (d : Document) :
    Logged (Option Report × Document × Capturer) :=
  if d.selectsBlank then pure (none, d, c)
  else do
    let (report, d, c) ← c.capture now d (some d.selectedText)
    pure (some report, d, c)

end Capturer

end CallCapture

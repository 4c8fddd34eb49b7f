import CallCapture.Capturer
import CallCapture.Document
import CallCapture.Message
import CallCapture.Text.Basic

namespace CallCapture

structure Page where
  document : Document
  capturer : Capturer
  lastReport : Option Report := none

namespace Page

def handle (now : Moment) (p : Page) (r : PageRequest) : Logged (PageResponse × Page) :=
  match r.command with
  | .capture => do
    let (report, d, c) ← p.capturer.capture now p.document (some (r.widget.getD ""))
    pure (.ofReport report, ⟨d, c, some report⟩)
  | .captureShortcut => do
    let (report, d, c) ← p.capturer.captureShortcut now p.document
    pure ((report.map PageResponse.ofReport).getD .failed, ⟨d, c, report⟩)

end Page

/-! ### Serving -/

/-- The moments at which the lines of an input are taken up, by their place in it. -/
structure Timing where
  moment : Nat → Moment

namespace Timing

def steady (now : Moment) : Timing := ⟨fun _ => now⟩

def later (t : Timing) (n : Nat) : Timing := ⟨fun i => t.moment (n + i)⟩

@[simp] theorem later_moment (t : Timing) (n i : Nat) : (t.later n).moment i = t.moment (n + i) :=
  rfl

@[simp] theorem later_zero (t : Timing) : t.later 0 = t := by
  simp only [later, Nat.zero_add]

@[simp] theorem later_later (t : Timing) (m n : Nat) : (t.later m).later n = t.later (m + n) := by
  simp only [later, Nat.add_assoc]

@[simp] theorem steady_moment (now : Moment) (i : Nat) : (steady now).moment i = now := rfl

@[simp] theorem steady_later (now : Moment) (n : Nat) : (steady now).later n = steady now := rfl

end Timing

instance : Coe Moment Timing := ⟨Timing.steady⟩

/-- What may fail while replies are written: each test is asked with the number of replies that
have been flushed. -/
structure Outlet where
  writeFails : Nat → Bool := fun _ => false
  flushFails : Nat → Bool := fun _ => false

def Outlet.sound : Outlet := {}

@[simp] theorem Outlet.sound_writeFails (n : Nat) : Outlet.sound.writeFails n = false := rfl

@[simp] theorem Outlet.sound_flushFails (n : Nat) : Outlet.sound.flushFails n = false := rfl

inductive ServeError
  | read
  | write
  | flush
deriving DecidableEq, Repr

def ServeError.message : ServeError → String
  | .read => "failed to read request line"
  | .write => "failed to write response"
  | .flush => "failed to flush response"

def invalidRequest : String := "the line holds neither a page request nor a runtime request"

namespace Page

def selectHint (p : Page) (r : PageRequest) : Logged Page :=
  match r.command, r.widget with
  | .capture, some widget =>
    let needle := String.ofList (Text.trim widget.toList)
    if needle.isEmpty then pure p
    else do
      let (found, d) := p.document.selectText needle 0
      match found with
      | .ok _ => pure ()
      | .error e =>
        log ⟨.warn, .messages, "widget text not found; keeping current selection",
          [("error", .shown e.message)]⟩
      pure { p with document := d }
  | _, _ => pure p

def answerLine (now : Moment) (p : Page) (line : List Char) : Logged (Option Json × Page) :=
  if Text.isBlankText line then pure (none, p)
  else
    match Message.read? line with
    | some (.page r) => do
      let p ← p.selectHint r
      let (response, p) ← p.handle now r
      pure (some response.toJson, p)
    | some (.runtime r) => do
      let reply ← r.answer
      pure (reply.map ExtensionInfo.toJson, p)
    | none => do
      log ⟨.error, .messages, "invalid request", [("error", .shown invalidRequest)]⟩
      pure (some PageResponse.error.toJson, p)

structure Served where
  out : List String
  error : Option ServeError
  page : Page

/-- Serves lines, `taken` of them having been taken up and `flushed` replies flushed before. -/
def serveLines (t : Timing) (outlet : Outlet) (taken flushed : Nat) (p : Page) :
    List (List UInt8) → Logged Served
  | [] => pure ⟨[], none, p⟩
  | line :: rest =>
    match Text.decodeLine? line with
    | none => pure ⟨[], some .read, p⟩
    | some text => do
      let (reply, p) ← p.answerLine (t.moment taken) text.toList
      match reply with
      | none => serveLines t outlet (taken + 1) flushed p rest
      | some j =>
        let written := j.compact ++ "\n"
        if outlet.writeFails flushed then pure ⟨[], some .write, p⟩
        else if outlet.flushFails flushed then pure ⟨[written], some .flush, p⟩
        else
          let served ← serveLines t outlet (taken + 1) (flushed + 1) p rest
          pure { served with out := written :: served.out }

def serve (t : Timing) (outlet : Outlet) (p : Page) (input : List UInt8) : Logged Served :=
  serveLines t outlet 0 0 p (Text.lines input)

end Page

/-! ### Dispatching -/

inductive DispatchError
  | noSelection
  | transport (cause : String)
  | refused (response : PageResponse)
deriving DecidableEq, Repr

def DispatchError.message : DispatchError → String
  | .noSelection => "Please select some text first"
  | .transport _ => "Failed to communicate with page. Please refresh and try again."
  | .refused _ => "Failed to catch widget. Please try again."

/-- A channel to a page, with a state of its own: what a request comes to, or why it got lost. -/
structure Transport (σ : Type) where
  send : σ → PageRequest → Logged (Except String PageResponse × σ)

def Page.transport (now : Moment) : Transport Page where
  send p r := do
    let (response, p) ← p.handle now r
    pure (.ok response, p)

namespace Dispatch

def request? (selection : Option String) : Option PageRequest :=
  match selection with
  | some text =>
    let widget := Text.trim text.toList
    if widget.isEmpty then none else some (.capture (String.ofList widget))
  | none => none

def forward {σ : Type} (t : Transport σ) (selection : Option String) (s : σ) :
    Logged (Except DispatchError PageResponse × σ) :=
  match request? selection with
  | none => pure (.error .noSelection, s)
  | some r => do
    let (answer, s) ← t.send s r
    match answer with
    | .error cause => pure (.error (.transport cause), s)
    | .ok response =>
      pure (if response.success then .ok response else .error (.refused response), s)

def run {σ : Type} (t : Transport σ) (selection : Option String) (s : σ) (f : Feedback) :
    Logged (Except DispatchError PageResponse × σ × Feedback) := do
  let (outcome, s) ← forward t selection s
  match outcome with
  | .ok response =>
    log ⟨.info, .messages, "widget caught", [("message", .shown response.message)]⟩
    pure (outcome, s, f)
  | .error e =>
    log ⟨.warn, .messages, "widget catch failed", [("error", .shown e.message)]⟩
    let f ← f.notifyError e.message
    pure (outcome, s, f)

end Dispatch

end CallCapture

import CallCapture.Page
import CallCapture.Proofs.Serve

namespace CallCapture.Page

/-- The lines that are taken up when `flushed` replies have been flushed before. -/
def takenUp (outlet : Outlet) (flushed : Nat) : List (List UInt8) → List String
  | [] => []
  | line :: rest =>
    match Text.decodeLine? line with
    | none => []
    | some text =>
      if answerable text then
        if outlet.writeFails flushed || outlet.flushFails flushed then [text]
        else text :: takenUp outlet (flushed + 1) rest
      else text :: takenUp outlet flushed rest

theorem serveLines_page (t : Timing) (outlet : Outlet) (taken flushed : Nat) (p : Page)
    (lines : List (List UInt8)) :
    (serveLines t outlet taken flushed p lines).value.page =
      p.acceptAll (requests (t.later taken) (takenUp outlet flushed lines)) := by
  induction lines generalizing taken flushed p with
  | nil => rfl
  | cons line rest ih =>
    rw [takenUp, serveLines]
    cases Text.decodeLine? line with
    | none => rfl
    | some text =>
      have answered := reply?_isSome (t.moment taken) p text
      simp only [Logged.bind_value, answerLine_value, ← answered]
      cases p.reply? (t.moment taken) text with
      | none =>
        simp only [Option.isSome_none, Bool.false_eq_true, if_false, acceptAll_requests_cons,
          Timing.later_moment, Nat.add_zero, Timing.later_later]
        exact ih (taken + 1) flushed _
      | some reply =>
        have alone : (p.after (t.moment taken) text) =
            p.acceptAll (requests (t.later taken) [text]) := by
          rw [acceptAll_requests_cons, requests_nil, acceptAll_nil, Timing.later_moment,
            Nat.add_zero]
        cases lost : outlet.writeFails flushed with
        | true =>
          simp only [Option.isSome_some, if_true, Bool.true_or, Logged.pure_value, alone]
        | false =>
          cases unflushed : outlet.flushFails flushed with
          | true =>
            simp only [Option.isSome_some, if_true, Bool.or_true, Bool.false_eq_true, if_false,
              Logged.pure_value, alone]
          | false =>
            simp only [Option.isSome_some, if_true, Bool.or_self, Bool.false_eq_true, if_false,
              Logged.bind_value, Logged.pure_value, acceptAll_requests_cons, Timing.later_moment,
              Nat.add_zero, Timing.later_later]
            exact ih (taken + 1) (flushed + 1) _

theorem serve_page (t : Timing) (outlet : Outlet) (p : Page) (input : List UInt8) :
    (p.serve t outlet input).value.page =
      p.acceptAll (requests t (takenUp outlet 0 (Text.lines input))) := by
  rw [serve, serveLines_page, Timing.later_zero]

end CallCapture.Page

namespace CallCapture

namespace Document

inductive Edit
  | select (start stop : Nat)
  | selectText (needle : String) (occurrence : Nat)
  | selectAll
  | extend (dir : Direction)
  | collapse
  | restore (s : Span)
deriving DecidableEq, Repr

def edit (d : Document) : Edit → Document
  | .select start stop => d.select start stop
  | .selectText needle occurrence => (d.selectText needle occurrence).2
  | .selectAll => d.selectAll
  | .extend dir => (d.extend dir).2
  | .collapse => d.collapse
  | .restore s => d.restore s

end Document

namespace Page

inductive Step
  | edit (e : Document.Edit)
  | request (now : Moment) (r : PageRequest)
deriving DecidableEq

def step (p : Page) : Step → Page
  | .edit e => { p with document := p.document.edit e }
  | .request now r => (p.handle now r).value.2

def steps (p : Page) (ss : List Step) : Page := ss.foldl step p

/-- The reports of the requests among steps, in order; a request without a report adds none. -/
def reports (p : Page) : List Step → List Report
  | [] => []
  | .edit e :: rest => (p.step (.edit e)).reports rest
  | .request now r :: rest =>
    (p.step (.request now r)).lastReport.toList ++ (p.step (.request now r)).reports rest

@[simp] theorem steps_nil (p : Page) : p.steps [] = p := rfl

@[simp] theorem steps_cons (p : Page) (s : Step) (ss : List Step) :
    p.steps (s :: ss) = (p.step s).steps ss := rfl

theorem steps_append (p : Page) (ss ss' : List Step) :
    p.steps (ss ++ ss') = (p.steps ss).steps ss' := by
  rw [steps, List.foldl_append]
  rfl

def hintSteps (r : PageRequest) : List Step :=
  match r.command, r.widget with
  | .capture, some widget =>
    if (String.ofList (Text.trim widget.toList)).isEmpty then []
    else [.edit (.selectText (String.ofList (Text.trim widget.toList)) 0)]
  | _, _ => []

theorem selectHint_value (p : Page) (r : PageRequest) :
    (p.selectHint r).value = p.steps (hintSteps r) := by
  obtain ⟨command, widget⟩ := r
  cases command with
  | captureShortcut => rfl
  | capture =>
    cases widget with
    | none => rfl
    | some widget =>
      simp only [selectHint, hintSteps]
      split
      · rfl
      · simp only [steps_cons, steps_nil, step, Document.edit]
        generalize p.document.selectText (String.ofList (Text.trim widget.toList)) 0 = selected
        obtain ⟨_ | _, d⟩ := selected
        · rfl
        · rfl

theorem accept_page (now : Moment) (p : Page) (r : PageRequest) :
    (p.accept now r).2 = p.steps (hintSteps r ++ [.request now r]) := by
  rw [steps_append, ← selectHint_value]
  rfl

theorem acceptAll_eq_steps (p : Page) (rs : List (Moment × PageRequest)) :
    p.acceptAll rs = p.steps (rs.flatMap fun r => hintSteps r.2 ++ [.request r.1 r.2]) := by
  induction rs generalizing p with
  | nil => rfl
  | cons r rs ih =>
    rw [List.flatMap_cons, steps_append, ← accept_page, ← ih]
    rfl

inductive Action
  | edit (e : Document.Edit)
  | handle (now : Moment) (r : PageRequest)
  | send (now : Moment) (r : PageRequest)
  | serve (t : Timing) (outlet : Outlet) (input : List UInt8)
  | dispatch (now : Moment) (selection : Option String) (told : Feedback)

def act (p : Page) : Action → Page
  | .edit e => { p with document := p.document.edit e }
  | .handle now r => (p.handle now r).value.2
  | .send now r => ((Page.transport now).send p r).value.2
  | .serve t outlet input => (p.serve t outlet input).value.page
  | .dispatch now selection told => (Dispatch.run (Page.transport now) selection p told).value.2.1

def run (p : Page) (actions : List Action) : Page := actions.foldl act p

def Action.steps : Action → List Step
  | .edit e => [.edit e]
  | .handle now r => [.request now r]
  | .send now r => [.request now r]
  | .serve t outlet input =>
    (requests t (takenUp outlet 0 (Text.lines input))).flatMap fun r =>
      hintSteps r.2 ++ [.request r.1 r.2]
  | .dispatch now selection _ => (Dispatch.request? selection).toList.map (.request now)

theorem dispatch_page (now : Moment) (selection : Option String) (p : Page) (told : Feedback) :
    (Dispatch.run (Page.transport now) selection p told).value.2.1 =
      p.steps ((Dispatch.request? selection).toList.map (.request now)) := by
  unfold Dispatch.run Dispatch.forward
  cases Dispatch.request? selection with
  | none => rfl
  | some r =>
    simp only [transport, Logged.bind_value, Logged.pure_value]
    cases (p.handle now r).value.1.success with
    | true => rfl
    | false => rfl

theorem act_eq_steps (p : Page) (a : Action) : p.act a = p.steps a.steps := by
  cases a with
  | edit e => rfl
  | handle now r => rfl
  | send now r => rfl
  | serve t outlet input => rw [act, serve_page, acceptAll_eq_steps, Action.steps]
  | dispatch now selection told => exact dispatch_page now selection p told

theorem run_eq_steps (p : Page) (actions : List Action) :
    p.run actions = p.steps (actions.flatMap Action.steps) := by
  induction actions generalizing p with
  | nil => rfl
  | cons a actions ih =>
    rw [List.flatMap_cons, steps_append, ← act_eq_steps, ← ih]
    rfl

end Page

end CallCapture

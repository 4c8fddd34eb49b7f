import CallCapture.Page
import CallCapture.Proofs.Capture
import Mathlib

namespace CallCapture.Page

variable {p : Page} {r : PageRequest}

def seen (p : Page) (r : PageRequest) : Option String :=
  match r.command with
  | .capture => some (r.widget.getD "")
  | .captureShortcut => some p.document.selectedText

def blankReport (r : PageRequest) : Option Report :=
  match r.command with
  | .capture => some (.failure .emptySelection)
  | .captureShortcut => none

theorem handle_shown (now : Moment) (r : PageRequest) (shown : p.document.selectsBlank = false) :
    (p.handle now r).value =
      (.ofReport (p.capturer.capture now p.document (p.seen r)).value.1,
        ⟨(p.capturer.capture now p.document (p.seen r)).value.2.1,
          (p.capturer.capture now p.document (p.seen r)).value.2.2,
          some (p.capturer.capture now p.document (p.seen r)).value.1⟩) := by
  obtain ⟨command, widget⟩ := r
  cases command with
  | capture => rfl
  | captureShortcut =>
    rw [handle, Logged.bind_value, Capturer.captureShortcut_shown shown]
    rfl

theorem handle_blank (now : Moment) (r : PageRequest) (blank : p.document.selectsBlank = true) :
    (p.handle now r).value = (.failed, ⟨p.document, p.capturer, blankReport r⟩) := by
  obtain ⟨command, widget⟩ := r
  cases command with
  | capture =>
    rw [handle, Logged.bind_value, Capturer.capture_blank blank]
    rfl
  | captureShortcut =>
    rw [handle, Logged.bind_value, Capturer.captureShortcut_blank blank]
    rfl

theorem handle_expanded (now : Moment) (r : PageRequest) (shown : p.document.selectsBlank = false) :
    ∃ e d', (p.document.expand p.capturer.budgets).value = (.ok e, d') ∧
      d'.selectsBlank = false ∧ e.text = String.ofList (Text.trim d'.selected) ∧
      let name := displayName (p.seen r) e.text
      let delivered := (p.capturer.deliver now e.text name).value
      (p.handle now r).value.2 =
        ⟨d', (delivered.2.2.count now).value,
          some ⟨true, some e.text, some name, delivered.2.1, some e.route, some delivered.1⟩⟩ := by
  obtain ⟨e, d', grown, kept, text⟩ := Document.expand_shown p.capturer.budgets shown
  refine ⟨e, d', grown, kept, text, ?_⟩
  rw [handle_shown now r shown, Capturer.capture_expanded grown]

/-- The report of a request: what the capture that it asks for gives back. -/
def reportOf (now : Moment) (p : Page) (r : PageRequest) : Option Report :=
  match r.command with
  | .capture => some (p.capturer.capture now p.document (some (r.widget.getD ""))).value.1
  | .captureShortcut => (p.capturer.captureShortcut now p.document).value.1

theorem handle_lastReport (now : Moment) (p : Page) (r : PageRequest) :
    (p.handle now r).value.2.lastReport = p.reportOf now r := by
  obtain ⟨command, widget⟩ := r
  cases command with
  | capture => rfl
  | captureShortcut => rfl

theorem handle_response (now : Moment) (p : Page) (r : PageRequest) :
    (p.handle now r).value.1 = ((p.reportOf now r).map PageResponse.ofReport).getD .failed := by
  obtain ⟨command, widget⟩ := r
  cases command with
  | capture => rfl
  | captureShortcut => rfl

theorem ofReport_success (report : Report) :
    (PageResponse.ofReport report).success = report.success := by
  unfold PageResponse.ofReport
  cases report.success with
  | false => rfl
  | true =>
    cases report.errorKind with
    | none => rfl
    | some e => rfl

theorem handle_success_iff (now : Moment) (p : Page) (r : PageRequest) :
    (p.handle now r).value.1.success = true ↔
      ∃ report, p.reportOf now r = some report ∧ report.success = true := by
  rw [handle_response]
  cases p.reportOf now r with
  | none =>
    constructor
    · intro success
      cases success
    · rintro ⟨report, given, _⟩
      cases given
  | some report =>
    rw [Option.map_some, Option.getD_some, ofReport_success]
    constructor
    · intro success
      exact ⟨report, rfl, success⟩
    · rintro ⟨_, ⟨⟩, success⟩
      exact success

theorem reportOf_blank (now : Moment) (r : PageRequest) (blank : p.document.selectsBlank = true) :
    p.reportOf now r = blankReport r := by
  rw [← handle_lastReport, handle_blank now r blank]

theorem reportOf_shown (now : Moment) (r : PageRequest) (shown : p.document.selectsBlank = false) :
    ∃ text name error route copy,
      p.reportOf now r = some ⟨true, some text, some name, error, some route, some copy⟩ ∧
      (p.handle now r).value.2.document.selectsBlank = false ∧
      text = String.ofList (Text.trim (p.handle now r).value.2.document.selected) ∧
      (error = some .clipboardUnavailable ∧ copy = .skipped ∨ error = none ∧ copy ≠ .skipped) := by
  obtain ⟨e, d', _, kept, text, handled⟩ := handle_expanded now r shown
  have outcome := p.capturer.deliver_skipped_or now e.text (displayName (p.seen r) e.text)
  rw [← handle_lastReport, handled]
  refine ⟨e.text, displayName (p.seen r) e.text, _, e.route, _, rfl, kept, text, ?_⟩
  rcases outcome with ⟨skipped, failed⟩ | ⟨taken, fine⟩
  · exact .inl ⟨failed, skipped⟩
  · exact .inr ⟨fine, taken⟩

theorem blankReport_not_success (r : PageRequest) {report : Report}
    (given : blankReport r = some report) : report.success = false := by
  obtain ⟨command, widget⟩ := r
  cases command with
  | capture =>
    cases given
    rfl
  | captureShortcut => cases given

/-- Report, response and selection tell one outcome. A request fails just when the selection is
blank, and then nothing but the last report has changed; any other is reported with all its parts,
and its text is what the selection then shows, trimmed. -/
theorem handle_consistent (now : Moment) (p : Page) (r : PageRequest) :
    let answered := (p.handle now r).value
    answered.2.lastReport = p.reportOf now r ∧
    (p.document.selectsBlank = true ↔ p.reportOf now r = blankReport r) ∧
    (p.document.selectsBlank = true →
      answered.2.document = p.document ∧ answered.2.capturer = p.capturer) ∧
    (p.document.selectsBlank = false →
      ∃ text name error route copy,
        p.reportOf now r = some ⟨true, some text, some name, error, some route, some copy⟩ ∧
        text ≠ "" ∧
        (∀ c, text.toList.head? = some c → Text.isBlank c = false) ∧
        (∀ c, text.toList.getLast? = some c → Text.isBlank c = false) ∧
        text = String.ofList (Text.trim answered.2.document.selected) ∧
        (error = some .clipboardUnavailable ↔ copy = .skipped) ∧
        (error = none ↔ copy ≠ .skipped)) ∧
    (answered.1.success = true ↔
      ∃ report, p.reportOf now r = some report ∧ report.success = true) := by
  intro answered
  refine ⟨p.handle_lastReport now r, ⟨fun blank => reportOf_blank now r blank, ?_⟩, ?_, ?_,
    p.handle_success_iff now r⟩
  · intro failed
    apply Bool.eq_true_of_not_eq_false
    intro shown
    obtain ⟨_, _, _, _, _, report, _⟩ := reportOf_shown now r shown
    cases blankReport_not_success r (failed.symm.trans report)
  · intro blank
    have handled : answered = _ := handle_blank now r blank
    rw [handled]
    exact ⟨rfl, rfl⟩
  · intro shown
    obtain ⟨text, name, error, route, copy, report, kept, trimmed, outcome⟩ :=
      reportOf_shown now r shown
    obtain ⟨some, front, back⟩ := Text.trimmed_text trimmed kept
    refine ⟨text, name, error, route, copy, report, some, front, back, trimmed, ?_, ?_⟩
    · rcases outcome with ⟨rfl, rfl⟩ | ⟨rfl, taken⟩
      · simp only
      · simp only [reduceCtorEq, taken]
    · rcases outcome with ⟨rfl, rfl⟩ | ⟨rfl, taken⟩
      · simp only [reduceCtorEq, ne_eq, not_true_eq_false]
      · simp only [ne_eq, taken, not_false_eq_true]

def rejectingPage : Page :=
  ⟨(Document.ofString " Text('a') ").select 1 5, { clipboard := .rejecting }, none⟩

theorem reportOf_rejected (now : Moment) :
    rejectingPage.reportOf now ⟨.capture, none⟩ = some ⟨true, some "Text('a')", some "Text",
      some .clipboardUnavailable, some .directHit, some .skipped⟩ := by
  have grown : (rejectingPage.document.expand rejectingPage.capturer.budgets).value =
      (.ok ⟨"Text('a')", .directHit⟩, (Document.ofString " Text('a') ").select 1 10) := by
    apply Prod.ext
    · cbv
    · apply Document.ext
      · cbv
      · cbv
  have name : displayName (some "") "Text('a')" = "Text" := by cbv
  simp only [reportOf, Capturer.capture_expanded grown, Option.getD_none, name]
  rw [Capturer.deliver_rejecting rfl]

theorem handle_rejected_text :
    ∃ now, (rejectingPage.handle now ⟨.capture, none⟩).value.1.success = true ∧
      (rejectingPage.handle now ⟨.capture, none⟩).value.2.lastReport =
        some ⟨true, some "Text('a')", some "Text", some .clipboardUnavailable, some .directHit,
          some .skipped⟩ := by
  refine ⟨⟨0, ⟨2024, 1, 1, 0, 0, 0, 0, 0, rfl, rfl, rfl⟩⟩, ?_⟩
  obtain ⟨last, _, _, _, success⟩ := handle_consistent _ rejectingPage ⟨.capture, none⟩
  rw [reportOf_rejected] at last success
  refine ⟨success.mpr ⟨_, rfl, ?_⟩, last⟩
  rfl

end CallCapture.Page

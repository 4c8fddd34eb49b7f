import CallCapture.Proofs.Collaborators
import CallCapture.Proofs.Framing
import CallCapture.Proofs.History
import CallCapture.Proofs.Usage

/-! A run fails at a text that cannot be selected, while a served request goes on with the selection
there is. On a page that nothing was selected on, this comes to the same. -/

namespace CallCapture

variable {settings : Settings} {file : Path} {text needle : String} {d : Document}

theorem Capturer.capture_inMemory {c : Capturer} {e : Expansion} {d' : Document}
    (memory : c.clipboard = .empty) (grown : (d.expand c.budgets).value = (.ok e, d'))
    (hint : Option String) (now : Moment) :
    let captured := (c.capture now d hint).value
    let report : Report :=
      ⟨true, some e.text, some (displayName hint e.text), none, some e.route, some .primary⟩
    captured.1 = report ∧ captured.2.2.clipboard.writes = [e.text] ∧
      captured.2.2.disk = c.counted now report := by
  intro captured report
  have reported : captured.1 = c.success e hint := (capture_success now grown hint).1
  have left : captured.2.2 = _ := (capture_leaves now c d hint).1
  rw [success, memory] at reported
  refine ⟨reported, ?_, ?_⟩
  · rw [left, memory, reported]
    rfl
  · rw [left, reported]
    rfl

theorem Document.selectText_shown {d' : Document} {s : Span}
    (trimmed : Text.trim needle.toList = needle.toList)
    (selected : d.selectText needle 0 = (.ok s, d')) :
    d'.selectedText = needle ∧ d'.selectsBlank = false := by
  obtain ⟨filled, _, _, _, _, _, shown⟩ := selectText_ok (congrArg (·.1) selected)
  rw [selected] at shown
  have content : d'.selected = needle.toList := by
    rw [← shown, selectedText, String.toList_ofList]
  refine ⟨shown, ?_⟩
  rw [selectsBlank, content, Text.isBlankText, trimmed]
  simpa using filled

namespace Page

variable {p : Page} {t : Timing}

theorem serve_request (t : Timing) (p : Page) (r : PageRequest) :
    (p.serve t .sound (Message.framed [.page r])).value =
      ⟨[written (p.accept (t.moment 0) r).1.toJson], none, (p.accept (t.moment 0) r).2⟩ := by
  rw [serve, Message.lines_framed, serveLines_messages]
  rfl

theorem selectHint_trimmed (trimmed : Text.trim needle.toList = needle.toList) (p : Page) :
    (p.selectHint (.capture needle)).value =
      { p with document := (p.document.selectText needle 0).2 } := by
  simp only [selectHint, PageRequest.capture, trimmed, String.ofList_toList]
  cases empty : needle.isEmpty with
  | true =>
    rw [if_pos rfl, Document.selectText, if_pos empty]
    rfl
  | false =>
    rw [if_neg Bool.false_ne_true]
    generalize p.document.selectText needle 0 = selected
    obtain ⟨_ | _, d⟩ := selected
    · rfl
    · rfl

/-- A page on a text with the budgets that are set and a clipboard in memory, and nothing selected
or copied yet. -/
structure Fresh (p : Page) (settings : Settings) (text : String) : Prop where
  document : p.document = .ofString text
  budgets : p.capturer.budgets = settings.budgets
  clipboard : p.capturer.clipboard = .empty

theorem Fresh.serve_unselected (fresh : p.Fresh settings text)
    (trimmed : Text.trim needle.toList = needle.toList) {e : SearchError}
    (unselected : ((Document.ofString text).selectText needle 0).1 = .error e) :
    (p.serve t .sound (Message.framed [.page (.capture needle)])).value =
      ⟨[written PageResponse.failed.toJson], none,
        { p with lastReport := some (.failure .emptySelection) }⟩ := by
  have blank : p.document.selectsBlank = true := by
    rw [fresh.document]
    rfl
  have kept : (p.selectHint (.capture needle)).value = p := by
    rw [selectHint_trimmed trimmed, fresh.document, (Document.selectText_error unselected).2,
      ← fresh.document]
  rw [serve_request, accept, kept, handle_blank _ _ blank]
  rfl

theorem Fresh.serve_selected (fresh : p.Fresh settings text)
    (trimmed : Text.trim needle.toList = needle.toList) {found : Span}
    (selected : (Document.ofString text).selectText needle 0 = (.ok found, d)) :
    let captured := (p.capturer.capture (t.moment 0) d (some needle)).value
    (p.serve t .sound (Message.framed [.page (.capture needle)])).value =
      ⟨[written (PageResponse.ofReport captured.1).toJson], none,
        ⟨captured.2.1, captured.2.2, some captured.1⟩⟩ := by
  have found : (p.selectHint (.capture needle)).value = { p with document := d } := by
    rw [selectHint_trimmed trimmed, fresh.document, selected]
  rw [serve_request, accept, found]
  rfl

end Page

namespace Surroundings

variable {s : Surroundings}

theorem page_fresh (settings : Settings) (source : s.disk.readText? file = some text) :
    ∃ p, (s.page settings file true).value = .ok p ∧ p.Fresh settings text := by
  refine ⟨⟨.ofString text, (s.capturer settings true).value, none⟩, ?_, ⟨rfl, rfl, rfl⟩⟩
  rw [page, document, source]
  rfl

theorem capture_uncopied (settings : Settings) {a : CaptureArguments} (dry : a.noCopy = true) :
    (s.capture settings a).value.taken = [] ∧ (s.capture settings a).value.deliveries = [] := by
  unfold capture
  cases s.document a.file >>= fun d => a.choice.select d with
  | error e => exact ⟨rfl, rfl⟩
  | ok d =>
    obtain ⟨left, _⟩ :=
      Capturer.capture_leaves s.now (s.capturer settings a.noCopy).value d (some d.selectedText)
    have memory : (s.capturer settings a.noCopy).value.clipboard = .empty := by
      rw [dry]
      rfl
    simp only [Logged.bind_value, Logged.pure_value]
    rw [left, memory]
    unfold Clipboard.given
    split
    · exact ⟨rfl, rfl⟩
    · exact ⟨rfl, rfl⟩

theorem capture_unselected (settings : Settings) (json : Bool)
    (source : s.disk.readText? file = some text) {e : SearchError}
    (unselected : (Document.ofString text).selectText needle 0 = (.error e, d)) :
    let a : CaptureArguments := ⟨file, .text needle 0, true, json⟩
    (s.capture settings a).value = s.failing (.search e) ∧ s.captured settings a = none := by
  intro a
  have fails : (s.document a.file >>= fun d => a.choice.select d) = .error (.search e) := by
    simp only [a, document, source, bind, Except.bind, Choice.select, unselected]
  rw [capture, captured, fails]
  exact ⟨rfl, rfl⟩

theorem capture_selected (settings : Settings) (json : Bool)
    (source : s.disk.readText? file = some text)
    (trimmed : Text.trim needle.toList = needle.toList) {found : Span}
    (selected : (Document.ofString text).selectText needle 0 = (.ok found, d)) :
    let a : CaptureArguments := ⟨file, .text needle 0, true, json⟩
    let captured := ((s.capturer settings true).value.capture s.now d (some needle)).value
    s.captured settings a = some captured.1 ∧
      (s.capture settings a).value.disk = captured.2.2.disk := by
  intro a captured
  have selects : (s.document a.file >>= fun d => a.choice.select d) = .ok d := by
    simp only [a, document, source, bind, Except.bind, Choice.select, selected]
  rw [capture, Surroundings.captured, selects]
  simp only [(Document.selectText_shown trimmed selected).1]
  exact ⟨rfl, rfl⟩

end Surroundings

def Launch.Captures (l : Launch) (settings : Settings) (a : CaptureArguments) : Prop :=
  l.surroundings.environment.journalFilter?.isSome ∧
    ∃ config, Invocation.read l.arguments = .ok ⟨config, .capture a⟩ ∧
      Settings.load l.surroundings.environment l.surroundings.disk config = .ok settings

/-- A text that is its own trim is captured alike by a run that selects it, without copying, and
by a page that is fresh on the same document. Either both fail, and then nothing is captured,
copied or counted; or both succeed with the same report, of which the run prints the text and the
page copies it, and each counts one success. The run reaches no clipboard. -/
theorem Surroundings.capture_served_alike {s : Surroundings} {p : Page} (json : Bool)
    (source : s.disk.readText? file = some text)
    (trimmed : Text.trim needle.toList = needle.toList) (fresh : p.Fresh settings text)
    (t : Timing) :
    let a : CaptureArguments := ⟨file, .text needle 0, true, json⟩
    let ran := (s.capture settings a).value
    let served := (p.serve t .sound (Message.framed [.page (.capture needle)])).value
    (∀ l : Launch, l.surroundings = s → l.Captures settings a → l.outcome = ran) ∧
    served.error = none ∧ (ran.taken = [] ∧ ran.deliveries = []) ∧
    ((ran.status ≠ 0 ∧ ran.output = "" ∧ s.captured settings a = none ∧ ran.disk = s.disk ∧
        served.out = [Page.written PageResponse.failed.toJson] ∧
        served.page.lastReport = some (.failure .emptySelection) ∧
        served.page.capturer = p.capturer) ∨
      ∃ final name route,
        let report : Report := ⟨true, some final, some name, none, some route, some .primary⟩
        ran.status = 0 ∧ ran.output = report.printed json ∧
        (json = false → ran.output = final ++ "\n") ∧
        s.captured settings a = some report ∧
        ran.disk = (s.capturer settings true).value.counted s.now report ∧
        served.out = [Page.written (PageResponse.ofReport report).toJson] ∧
        served.page.lastReport = some report ∧
        served.page.capturer.clipboard.writes = [final] ∧
        served.page.capturer.disk = p.capturer.counted (t.moment 0) report) := by
  intro a ran served
  constructor
  · rintro l rfl ⟨readable, config, asks, loaded⟩
    exact Launch.outcome_of_capture readable asks loaded
  rcases selected : (Document.ofString text).selectText needle 0 with ⟨result, d⟩
  cases result with
  | error e =>
    obtain ⟨failed, never⟩ := capture_unselected settings json source selected
    have failing : ran = s.failing (.search e) := failed
    have answered : served = _ := fresh.serve_unselected trimmed (congrArg (·.1) selected)
    rw [failing, answered]
    exact ⟨rfl, ⟨rfl, rfl⟩, .inl ⟨Nat.one_ne_zero, rfl, never, rfl, rfl, rfl, rfl⟩⟩
  | ok found =>
    have visible := (Document.selectText_shown trimmed selected).2
    have answered : served = _ := fresh.serve_selected trimmed selected
    obtain ⟨once, disk⟩ := capture_selected settings json source trimmed selected
    obtain ⟨output, fine⟩ := s.capture_shows settings a
    have uncopied : ran.taken = [] ∧ ran.deliveries = [] := s.capture_uncopied settings rfl
    obtain ⟨e, d', grown, _, _⟩ := Document.expand_shown settings.budgets visible
    obtain ⟨report, _, counted⟩ := Capturer.capture_inMemory
      (c := (s.capturer settings true).value) rfl grown (some needle) s.now
    obtain ⟨report', copied, counted'⟩ := Capturer.capture_inMemory fresh.clipboard
      (by rw [fresh.budgets]; exact grown) (some needle) (t.moment 0)
    rw [report] at once
    rw [once] at output fine
    have succeeded : ran.failure = none := Option.isNone_iff_eq_none.mp fine
    rw [answered, report']
    refine ⟨rfl, uncopied, .inr ⟨e.text, displayName (some needle) e.text, e.route, ?_, output, ?_,
      once, disk.trans counted, rfl, rfl, copied, counted'⟩⟩
    · rw [Outcome.status, succeeded]
    · rintro rfl
      exact output

theorem Surroundings.capture_served_alike_call :
    let s := TallyStore.capturing.surroundings
    let settings := { Settings.builtin with tallyPath := some "/u" }
    ∃ p report, (s.page settings ⟨"/a"⟩ true).value = .ok p ∧
      TallyStore.capturing.outcome.output = "A()\n" ∧
      s.captured settings ⟨⟨"/a"⟩, .text "A" 0, true, false⟩ = some report ∧
      let served := (p.serve s.now .sound (Message.framed [.page (.capture "A")])).value
      served.page.lastReport = some report ∧
        served.page.capturer.clipboard.writes = ["A()"] := by
  intro s settings
  have source : s.disk.readText? ⟨"/a"⟩ = some "A()" := by cbv
  have trimmed : Text.trim "A".toList = "A".toList := by decide
  obtain ⟨p, opened, fresh⟩ := page_fresh settings source
  obtain ⟨runs, _, _, ⟨failed, _⟩ | ⟨final, _, _, _, _, printed, once, _, _, last, copied, _⟩⟩ :=
    capture_served_alike false source trimmed fresh s.now
  · exact absurd rfl failed
  · have captures : TallyStore.capturing.Captures settings _ :=
      ⟨rfl, none, TallyStore.capturing_asks, TallyStore.settings_loaded.1⟩
    have ended := runs TallyStore.capturing rfl captures
    have output : TallyStore.capturing.outcome.output = "A()\n" := rfl
    have whole : final = "A()" := by
      have same : "A()" ++ "\n" = final ++ "\n" := by
        rw [← printed rfl, ← ended, output]
        rfl
      exact (String.append_left_inj _).mp same.symm
    subst whole
    exact ⟨p, _, opened, output, once, last, copied⟩

end CallCapture

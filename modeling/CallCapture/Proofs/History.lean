import CallCapture.Proofs.Handling
import CallCapture.Proofs.Occurrence
import CallCapture.Proofs.Serve

namespace CallCapture

/-- Clipboards that differ in what was written to them at most. -/
inductive Clipboard.Alike : Clipboard → Clipboard → Prop
  | memory (writes writes' : List String) : Alike (.memory writes) (.memory writes')
  | rejecting : Alike .rejecting .rejecting
  | system (primary : SystemClipboard) (fallback : Fallback) (taken taken' : List String) :
      Alike (.system primary fallback taken) (.system primary fallback taken')
  | commands (fallback : Fallback) (taken taken' : List String)
      (deliveries deliveries' : List Delivery) :
      Alike (.commands fallback taken deliveries) (.commands fallback taken' deliveries')

theorem Clipboard.copy_alike {c c' : Clipboard} (alike : c.Alike c') (text : String) :
    (c.copy text).value.1 = (c'.copy text).value.1 ∧
      ∃ copied, (c.copy text).value.2.writes = c.writes ++ copied ∧
        (c'.copy text).value.2.writes = c'.writes ++ copied := by
  cases alike with
  | memory writes writes' => exact ⟨rfl, [text], rfl, rfl⟩
  | rejecting => exact ⟨rfl, [], rfl, rfl⟩
  | system primary fallback taken taken' =>
    simp only [copy]
    cases primary.refusal? text with
    | none => exact ⟨rfl, [text], rfl, rfl⟩
    | some e => exact ⟨rfl, _, rfl, rfl⟩
  | commands fallback taken taken' deliveries deliveries' =>
    refine ⟨rfl, (fallback.copy text []).value.2.map (·.text), ?_, ?_⟩
    · simp only [copy, Logged.bind_value, Logged.pure_value, writes, List.map_append,
        List.append_assoc]
    · simp only [copy, Logged.bind_value, Logged.pure_value, writes, List.map_append,
        List.append_assoc]

theorem Capturer.deliver_alike {c c' : Capturer} (alike : c.clipboard.Alike c'.clipboard)
    (now now' : Moment) (text name : String) :
    let delivered := (c.deliver now text name).value
    let delivered' := (c'.deliver now' text name).value
    delivered.1 = delivered'.1 ∧ delivered.2.1 = delivered'.2.1 ∧
      ∃ copied, delivered.2.2.clipboard.writes = c.clipboard.writes ++ copied ∧
        delivered'.2.2.clipboard.writes = c'.clipboard.writes ++ copied := by
  obtain ⟨result, copied, written, written'⟩ := Clipboard.copy_alike alike text
  intro delivered delivered'
  simp only [delivered, delivered', deliver, Logged.bind_value]
  revert result written written'
  generalize (c.clipboard.copy text).value = r
  generalize (c'.clipboard.copy text).value = r'
  obtain ⟨outcome, clipboard⟩ := r
  obtain ⟨outcome', clipboard'⟩ := r'
  rintro rfl written written'
  cases outcome with
  | ok method => exact ⟨rfl, rfl, copied, written, written'⟩
  | error e => exact ⟨rfl, rfl, copied, written, written'⟩

namespace Page

variable {p q : Page} {line widget : String}

theorem request?_some {r : PageRequest} (asked : request? line = some r) :
    Text.isBlankText line.toList = false ∧ Message.read? line.toList = some (.page r) := by
  unfold request? at asked
  split at asked
  · cases asked
  next shown =>
    split at asked
    next read =>
      cases asked
      exact ⟨by simpa using shown, read⟩
    · cases asked

theorem selectHint_occurs (shown : Text.trim widget.toList ≠ [])
    (occurs : ∃ i, OccursAt (Text.trim widget.toList) p.document.chars i) :
    ∃ d : Document, d.selectsBlank = false ∧ ∀ q : Page, q.document.chars = p.document.chars →
      (q.selectHint ⟨.capture, some widget⟩).value = { q with document := d } := by
  obtain ⟨j, there, selects⟩ := Document.selectText_of_occurs shown occurs
  refine ⟨p.document.select j (j + (Text.trim widget.toList).length), ?_, ?_⟩
  · rw [Document.selectsBlank, Document.select_selected p.document there shown, Text.isBlankText,
      Text.trim_trim]
    simpa using shown
  · intro q same
    have filled : (String.ofList (Text.trim widget.toList)).isEmpty = false := by simpa using shown
    rw [selectHint]
    simp only [filled, Document.selectText_congr same selects]
    rfl

theorem serve_capture {input : List UInt8}
    (framed : (Text.lines input).map Text.decodeLine? = [some line]) {r : PageRequest}
    (asked : request? line = some r) (t : Timing) (p : Page) :
    (p.serve t .sound input).value =
      ⟨[written (p.accept (t.moment 0) r).1.toJson], none, (p.accept (t.moment 0) r).2⟩ := by
  obtain ⟨shown, read⟩ := request?_some asked
  have decoded : (Text.lines input).map Text.decodeLine? = [line].map some := framed
  rw [serve, serveLines_value decoded, replies_cons, reply?_page shown read,
    acceptAll_requests_cons, after, asked]
  rfl

theorem response_of_lastReport {now : Moment} {r : PageRequest} {report : Report}
    (remembered : (p.handle now r).value.2.lastReport = some report) :
    (p.handle now r).value.1 = .ofReport report := by
  rw [handle_lastReport] at remembered
  rw [handle_response, remembered]
  rfl

theorem count_writes (now : Moment) (c : Capturer) :
    (c.count now).value.clipboard.writes = c.clipboard.writes := by
  obtain ⟨disk, counted⟩ := c.count_value now
  rw [counted]

theorem handle_alike {r : PageRequest} (capture : r.command = .capture)
    (sameDocument : q.document = p.document)
    (sameBudgets : q.capturer.budgets = p.capturer.budgets)
    (alike : p.capturer.clipboard.Alike q.capturer.clipboard)
    (visible : p.document.selectsBlank = false) (now now' : Moment) :
    let handled := (p.handle now r).value
    let handled' := (q.handle now' r).value
    ∃ report copied, report.success = true ∧ report.errorKind ≠ some .emptySelection ∧
      handled.1 = .ofReport report ∧ handled'.1 = .ofReport report ∧
      handled.2.lastReport = some report ∧ handled'.2.lastReport = some report ∧
      handled.2.capturer.clipboard.writes = p.capturer.clipboard.writes ++ copied ∧
      handled'.2.capturer.clipboard.writes = q.capturer.clipboard.writes ++ copied ∧
      handled.2.document = handled'.2.document := by
  obtain ⟨e, d, grown, _, _, left⟩ := handle_expanded now r visible
  obtain ⟨e', d', grown', _, _, left'⟩ :=
    handle_expanded now' r (p := q) (by rw [sameDocument]; exact visible)
  rw [sameDocument, sameBudgets, grown] at grown'
  obtain ⟨sameResult, rfl⟩ := Prod.mk.inj grown'
  cases sameResult
  have seen : q.seen r = p.seen r := by simp only [Page.seen, capture]
  rw [seen] at left'
  dsimp only at left left'
  have outcome := p.capturer.deliver_skipped_or now e.text (displayName (p.seen r) e.text)
  obtain ⟨sameMethod, sameError, copied, written, written'⟩ :=
    Capturer.deliver_alike alike now now' e.text (displayName (p.seen r) e.text)
  rw [← sameMethod, ← sameError] at left'
  intro handled handled'
  have reported : handled.2.lastReport = some _ := congrArg Page.lastReport left
  have reported' : handled'.2.lastReport = some _ := congrArg Page.lastReport left'
  refine ⟨_, copied, rfl, ?_, response_of_lastReport reported, response_of_lastReport reported',
    reported, reported', ?_, ?_, ?_⟩
  · rcases outcome with ⟨_, failed⟩ | ⟨_, fine⟩
    · simp [failed]
    · simp [fine]
  · rw [left, count_writes, written]
  · rw [left', count_writes, written']
  · rw [left, left']

/-- A capture fired on a text that occurs in the document does not depend on what went before. Two
pages on the same text, with the same budgets and clipboards that behave alike, answer its line
with the same success, report the same, copy the same text and end with the same selection. -/
theorem serve_capture_independent (sameText : q.document.chars = p.document.chars)
    (sameBudgets : q.capturer.budgets = p.capturer.budgets)
    (alike : p.capturer.clipboard.Alike q.capturer.clipboard) {input : List UInt8}
    (framed : (Text.lines input).map Text.decodeLine? = [some line])
    (asked : request? line = some ⟨.capture, some widget⟩)
    (shown : Text.trim widget.toList ≠ [])
    (occurs : ∃ i, OccursAt (Text.trim widget.toList) p.document.chars i) (t t' : Timing) :
    let served := (p.serve t .sound input).value
    let served' := (q.serve t' .sound input).value
    ∃ reply report copied,
      served.out = [written (PageResponse.toJson reply)] ∧ served.error = none ∧
      served'.out = [written reply.toJson] ∧ served'.error = none ∧
      reply.success = true ∧ report.success = true ∧ report.errorKind ≠ some .emptySelection ∧
      served.page.lastReport = some report ∧ served'.page.lastReport = some report ∧
      served.page.capturer.clipboard.writes = p.capturer.clipboard.writes ++ copied ∧
      served'.page.capturer.clipboard.writes = q.capturer.clipboard.writes ++ copied ∧
      served.page.document = served'.page.document := by
  obtain ⟨d, visible, selects⟩ := selectHint_occurs shown occurs
  have handled := handle_alike (p := { p with document := d }) (q := { q with document := d })
    (r := ⟨.capture, some widget⟩) rfl rfl sameBudgets alike visible (t.moment 0) (t'.moment 0)
  obtain ⟨report, copied, success, selected, replied, replied', reported, reported', rest⟩ :=
    handled
  intro served served'
  have result : served = _ := serve_capture framed asked t p
  have result' : served' = _ := serve_capture framed asked t' q
  rw [accept, selects p rfl] at result
  rw [accept, selects q sameText] at result'
  rw [result, result', replied, replied']
  exact ⟨_, report, copied, rfl, rfl, rfl, rfl, by rw [ofReport_success, success], success,
    selected, reported, reported', rest⟩

theorem serve_capture_independent_text :
    let now : Moment := ⟨0, ⟨2024, 1, 1, 0, 0, 0, 0, 0, rfl, rfl, rfl⟩⟩
    let d := Document.ofString "Row(a) Text(b)"
    let p : Page := ⟨d, {}, none⟩
    let q : Page := ⟨d.select 0 6, { clipboard := .memory ["Row(a)"] }, none⟩
    let input := "[\"CATCH\",\" Text\"]\n".toUTF8.data.toList
    let served := (p.serve now .sound input).value
    let served' := (q.serve now .sound input).value
    served.out = served'.out ∧ served.page.lastReport = served'.page.lastReport ∧
      served'.page.capturer.clipboard.writes =
        "Row(a)" :: served.page.capturer.clipboard.writes ∧
      served.page.document = served'.page.document := by
  intro now d p q input served served'
  have framed : (Text.lines input).map Text.decodeLine? = [some "[\"CATCH\",\" Text\"]"] := by
    decide
  have read : Message.read? "[\"CATCH\",\" Text\"]".toList =
      some (.page ⟨.capture, some " Text"⟩) := by cbv
  have filled : Text.isBlankText "[\"CATCH\",\" Text\"]".toList = false := by cbv
  have asked := request?_page filled read
  have shown : Text.trim " Text".toList ≠ [] := by decide
  have occurs : ∃ i, OccursAt (Text.trim " Text".toList) p.document.chars i := ⟨7, by decide⟩
  obtain ⟨reply, report, copied, out, _, out', _, _, _, _, last, last', written, written', same⟩ :=
    serve_capture_independent (p := p) (q := q) rfl rfl (.memory [] ["Row(a)"]) framed asked shown
      occurs now now
  have fresh : served.page.capturer.clipboard.writes = copied := written
  exact ⟨out.trans out'.symm, last.trans last'.symm, by rw [fresh]; exact written', same⟩

end Page

end CallCapture

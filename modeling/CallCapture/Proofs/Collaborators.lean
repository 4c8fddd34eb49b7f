import CallCapture.Proofs.Capture

/-! The expansion listens to the document and the budgets alone. What the trigger saw names the
capture, the clipboard says how it was copied, and the tally decides nothing but what is on the
disk. -/

namespace CallCapture

/-! ### What is echoed -/

def Entry.echo? : Entry → Option String
  | .event _ => none
  | .echo line => some line

namespace Logged

def echoes {α : Type} (x : Logged α) : List String := x.entries.filterMap Entry.echo?

@[simp] theorem echoes_pure {α : Type} (a : α) : (pure a : Logged α).echoes = [] := rfl

@[simp] theorem echoes_bind {α β : Type} (x : Logged α) (f : α → Logged β) :
    (x >>= f).echoes = x.echoes ++ (f x.value).echoes := List.filterMap_append

@[simp] theorem echoes_log (e : Event) : (log e).echoes = [] := rfl

end Logged

theorem Document.expand_echoes (b : Budgets) (d : Document) : (d.expand b).echoes = [] := by
  unfold expand
  cases d.growth? b with
  | none => rfl
  | some g => exact List.filterMap_eq_nil_iff.mpr (by simp [Entry.echo?])

theorem Fallback.tryCommands_echoes (tools : Toolbox) (text : String) (attempts : List String)
    (commands : List Command) : (tryCommands tools text attempts commands).echoes = [] := by
  induction commands generalizing attempts with
  | nil => rfl
  | cons command commands ih =>
    rw [tryCommands]
    split
    · rfl
    · simp only [Logged.echoes_bind, Logged.echoes_log, Logged.echoes_pure, ih, List.append_nil]

theorem Fallback.copy_echoes (text : String) (attempts : List String) (f : Fallback) :
    (f.copy text attempts).echoes = [] := by
  unfold copy
  split
  · rw [Logged.echoes_bind, tryCommands_echoes]
    split
    · rfl
    · rfl
  · rfl

theorem Clipboard.copy_echoes (text : String) (c : Clipboard) : (c.copy text).echoes = [] := by
  cases c with
  | memory writes => rfl
  | rejecting => rfl
  | system primary fallback taken =>
    rw [copy]
    split
    · rfl
    · simp only [Logged.echoes_bind, Logged.echoes_log, Logged.echoes_pure, fallback.copy_echoes,
        List.append_nil]
  | commands fallback taken deliveries =>
    simp only [copy, Logged.echoes_bind, Logged.echoes_pure, fallback.copy_echoes, List.append_nil]

theorem Capturer.count_echoes (now : Moment) (c : Capturer) : (c.count now).echoes = [] := by
  unfold count
  cases c.store with
  | none => rfl
  | some store =>
    dsimp only
    split
    · rfl
    · rfl

/-! ### What each collaborator does with a report -/

def CopyMethod.reported : Except ClipboardError CopyMethod → CopyMethod × Option CaptureError
  | .ok method => (method, none)
  | .error _ => (.skipped, some .clipboardUnavailable)

def Clipboard.given (c : Clipboard) (r : Report) : Clipboard :=
  match r.finalText with
  | some text => (c.copy text).value.2
  | none => c

/-- What a capture tells the user: the message that its name was copied, or else the error notice
for that name; without a name nothing. -/
def Feedback.told (f : Feedback) (r : Report) (now : Instant) : Logged Feedback :=
  match r.displayName, r.errorKind with
  | some name, none => f.present (copiedMessage name) now
  | some name, some _ => f.notifyError (notCopiedMessage name)
  | none, _ => pure f

namespace Capturer

def counted (now : Moment) (c : Capturer) (r : Report) : Disk :=
  match r.success, c.store with
  | true, some store => TallyStore.settled (store.increment now.timestamp c.disk)
  | _, _ => c.disk

def success (c : Capturer) (e : Expansion) (hint : Option String) : Report :=
  let (method, error) := CopyMethod.reported (c.clipboard.copy e.text).value.1
  ⟨true, some e.text, some (displayName hint e.text), error, some e.route, some method⟩

theorem deliver_success (now : Moment) (c : Capturer) (e : Expansion) (hint : Option String) :
    let r := c.success e hint
    let delivered := c.deliver now e.text (displayName hint e.text)
    r = ⟨true, some e.text, some (displayName hint e.text), delivered.value.2.1, some e.route,
      some delivered.value.1⟩ ∧
    delivered.value.2.2 =
      { c with
        clipboard := c.clipboard.given r
        feedback := (c.feedback.told r now.instant).value } ∧
    delivered.echoes = (c.feedback.told r now.instant).echoes := by
  have quiet := Clipboard.copy_echoes e.text c.clipboard
  simp only [success, deliver, Clipboard.given, Logged.bind_value, Logged.echoes_bind, quiet]
  generalize (c.clipboard.copy e.text).value = answer
  obtain ⟨result, clipboard⟩ := answer
  cases result with
  | ok method =>
    refine ⟨rfl, rfl, ?_⟩
    rw [List.nil_append, Logged.echoes_bind, Logged.echoes_pure, List.append_nil]
    rfl
  | error _ =>
    refine ⟨rfl, rfl, ?_⟩
    rw [List.nil_append, Logged.echoes_bind, Logged.echoes_log, List.nil_append,
      Logged.echoes_bind, Logged.echoes_pure, List.append_nil]
    rfl

theorem count_disk (now : Moment) (c : Capturer) {r : Report} (success : r.success = true) :
    (c.count now).value = { c with disk := c.counted now r } := by
  rw [counted, success]
  obtain ⟨budgets, clipboard, feedback, store, disk⟩ := c
  cases store with
  | none => rfl
  | some store =>
    rw [count]
    dsimp only
    split
    · rfl
    · rfl

/-! ### One capture -/

theorem capture_success (now : Moment) {c : Capturer} {d d' : Document} {e : Expansion}
    (grown : (d.expand c.budgets).value = (.ok e, d')) (hint : Option String) :
    (c.capture now d hint).value.1 = c.success e hint ∧
      (c.capture now d hint).value.2.1 = d' := by
  rw [capture_expanded grown, (c.deliver_success now e hint).1]
  exact ⟨rfl, rfl⟩

/-- The report on a capture decides what is left with the clipboard, the user and the tally. -/
theorem capture_leaves (now : Moment) (c : Capturer) (d : Document) (hint : Option String) :
    let r := (c.capture now d hint).value.1
    (c.capture now d hint).value.2.2 =
      { c with
        clipboard := c.clipboard.given r
        feedback := (c.feedback.told r now.instant).value
        disk := c.counted now r } ∧
    (c.capture now d hint).echoes = (c.feedback.told r now.instant).echoes := by
  intro r
  cases blank : d.selectsBlank with
  | true =>
    have report : r = .failure .emptySelection := congrArg (·.1) (capture_blank blank)
    rw [report]
    refine ⟨congrArg (·.2.2) (capture_blank blank), ?_⟩
    rw [capture, Logged.echoes_bind, Document.expand_echoes, Document.expand_blank blank]
    rfl
  | false =>
    obtain ⟨e, d', grown, _, _⟩ := Document.expand_shown c.budgets blank
    obtain ⟨_, delivered, echoed⟩ := c.deliver_success now e hint
    have report : r = c.success e hint := (capture_success now grown hint).1
    rw [report]
    constructor
    · rw [capture_expanded grown, delivered]
      exact count_disk now _ rfl
    · rw [capture, Logged.echoes_bind, Document.expand_echoes, grown]
      dsimp only
      split
      · simp only [Logged.echoes_bind, Logged.echoes_log, Logged.echoes_pure, count_echoes, echoed,
          List.nil_append, List.append_nil]
      · simp only [Logged.echoes_bind, Logged.echoes_pure, count_echoes, echoed, List.nil_append,
          List.append_nil]

/-! ### Two captures -/

theorem capture_reports (now now' : Moment) (c c' : Capturer) (same : c'.budgets = c.budgets)
    (d : Document) (hint hint' : Option String) :
    let r := (c.capture now d hint).value
    let r' := (c'.capture now' d hint').value
    r'.2.1 = r.2.1 ∧
      ((r.1 = .failure .emptySelection ∧ r'.1 = .failure .emptySelection) ∨
        ∃ e, r.1 = c.success e hint ∧ r'.1 = c'.success e hint') := by
  intro r r'
  cases blank : d.selectsBlank with
  | true =>
    have failed : r = (.failure .emptySelection, d, c) := capture_blank blank
    have failed' : r' = (.failure .emptySelection, d, c') := capture_blank blank
    rw [failed, failed']
    exact ⟨rfl, .inl ⟨rfl, rfl⟩⟩
  | false =>
    obtain ⟨e, d', grown, _, _⟩ := Document.expand_shown c.budgets blank
    obtain ⟨report, document⟩ := capture_success now grown hint
    rw [← same] at grown
    obtain ⟨report', document'⟩ := capture_success now' grown hint'
    exact ⟨document'.trans document.symm, .inr ⟨e, report, report'⟩⟩

theorem capture_expands_alike (now now' : Moment) (c c' : Capturer)
    (same : c'.budgets = c.budgets) (d : Document) (hint hint' : Option String) :
    let r := (c.capture now d hint).value
    let r' := (c'.capture now' d hint').value
    r'.1.success = r.1.success ∧ r'.1.finalText = r.1.finalText ∧ r'.1.route = r.1.route ∧
      r'.2.1 = r.2.1 := by
  intro r r'
  obtain ⟨document, ⟨failed, failed'⟩ | ⟨e, report, report'⟩⟩ :=
    capture_reports now now' c c' same d hint hint'
  · exact ⟨by rw [failed, failed'], by rw [failed, failed'], by rw [failed, failed'], document⟩
  · have given : r.1 = c.success e hint := report
    have given' : r'.1 = c'.success e hint' := report'
    rw [given, given']
    exact ⟨rfl, rfl, rfl, document⟩

theorem capture_renamed (now : Moment) (c : Capturer) (d : Document) (hint hint' : Option String) :
    let r := (c.capture now d hint).value
    let r' := (c.capture now d hint').value
    r'.1 = { r.1 with displayName := r'.1.displayName } ∧ r'.2.1 = r.2.1 ∧
      r'.2.2 = { r.2.2 with feedback := r'.2.2.feedback } := by
  intro r r'
  obtain ⟨document, reports⟩ := capture_reports now now c c rfl d hint hint'
  have left : r.2.2 = _ := (capture_leaves now c d hint).1
  have left' : r'.2.2 = _ := (capture_leaves now c d hint').1
  have named : r'.1 = { r.1 with displayName := r'.1.displayName } := by
    rcases reports with ⟨failed, failed'⟩ | ⟨e, report, report'⟩
    · rw [show r.1 = _ from failed, show r'.1 = _ from failed']
    · rw [show r.1 = _ from report, show r'.1 = _ from report']
      rfl
  refine ⟨named, document, ?_⟩
  have given : c.clipboard.given r'.1 = c.clipboard.given r.1 := by
    rw [named]
    rfl
  have counted : c.counted now r'.1 = c.counted now r.1 := by
    rw [named]
    rfl
  rw [left, left']
  exact congrArg₂ (fun clipboard disk => (⟨c.budgets, clipboard, _, c.store, disk⟩ : Capturer))
    given counted

theorem capture_recounted (now : Moment) (c : Capturer) (d : Document) (hint : Option String)
    (store' : Option TallyStore) (disk' : Disk) :
    let x := c.capture now d hint
    let x' := Capturer.capture now { c with store := store', disk := disk' } d hint
    x'.value.1 = x.value.1 ∧ x'.value.2.1 = x.value.2.1 ∧
      x'.value.2.2 = { x.value.2.2 with store := store', disk := x'.value.2.2.disk } ∧
      x'.echoes = x.echoes := by
  intro x x'
  obtain ⟨document, reports⟩ := capture_reports now now c
    { c with store := store', disk := disk' } rfl d hint hint
  obtain ⟨left, echoed⟩ := capture_leaves now c d hint
  obtain ⟨left', echoed'⟩ := capture_leaves now { c with store := store', disk := disk' } d hint
  have report : x'.value.1 = x.value.1 := by
    rcases reports with ⟨failed, failed'⟩ | ⟨e, report, report'⟩
    · exact failed'.trans failed.symm
    · exact report'.trans report.symm
  refine ⟨report, document, ?_, ?_⟩
  · rw [show x'.value.2.2 = _ from left', show x.value.2.2 = _ from left,
      show (Capturer.capture now { c with store := store', disk := disk' } d hint).value.1 = _
        from report]
  · rw [show x'.echoes = _ from echoed', show x.echoes = _ from echoed,
      show (Capturer.capture now { c with store := store', disk := disk' } d hint).value.1 = _
        from report]

theorem capture_recopied (now : Moment) (c : Capturer) (d : Document) (hint : Option String)
    (clipboard' : Clipboard) :
    let r := (c.capture now d hint).value
    let r' := (Capturer.capture now { c with clipboard := clipboard' } d hint).value
    r'.1 = { r.1 with copy := r'.1.copy, errorKind := r'.1.errorKind } ∧ r'.2.1 = r.2.1 ∧
      r'.2.2 =
        { r.2.2 with clipboard := r'.2.2.clipboard, feedback := r'.2.2.feedback } := by
  intro r r'
  obtain ⟨document, reports⟩ := capture_reports now now c { c with clipboard := clipboard' } rfl d
    hint hint
  have left : r.2.2 = _ := (capture_leaves now c d hint).1
  have left' : r'.2.2 = _ :=
    (capture_leaves now { c with clipboard := clipboard' } d hint).1
  have copied : r'.1 = { r.1 with copy := r'.1.copy, errorKind := r'.1.errorKind } := by
    rcases reports with ⟨failed, failed'⟩ | ⟨e, report, report'⟩
    · rw [show r.1 = _ from failed, show r'.1 = _ from failed']
    · rw [show r.1 = _ from report, show r'.1 = _ from report']
      rfl
  refine ⟨copied, document, ?_⟩
  have counted : c.counted now r'.1 = c.counted now r.1 := by
    rw [copied]
    rfl
  rw [left, left']
  exact congrArg (fun disk => (⟨c.budgets, _, _, c.store, disk⟩ : Capturer)) counted

/-- What each collaborator has a say in. Whatever the trigger saw, the clipboard answers and the
tally holds, a capture has the same success, text, route and selection. What the trigger saw changes
the name alone, and what is told under it; the tally changes nothing but the disk; the answer of the
clipboard changes how the copy is reported, and with it which of the two calls tells the user. -/
theorem capture_collaborators (now now' : Moment) (c : Capturer) (d : Document)
    (hint hint' : Option String) (clipboard' : Clipboard) (feedback' : Feedback)
    (store' : Option TallyStore) (disk' : Disk) :
    let base := c.capture now d hint
    let other := Capturer.capture now' ⟨c.budgets, clipboard', feedback', store', disk'⟩ d hint'
    let renamed := c.capture now d hint'
    let recounted := Capturer.capture now { c with store := store', disk := disk' } d hint
    let recopied := Capturer.capture now { c with clipboard := clipboard' } d hint
    (other.value.1.success = base.value.1.success ∧
      other.value.1.finalText = base.value.1.finalText ∧
      other.value.1.route = base.value.1.route ∧ other.value.2.1 = base.value.2.1) ∧
    (renamed.value.1 = { base.value.1 with displayName := renamed.value.1.displayName } ∧
      renamed.value.2.1 = base.value.2.1 ∧
      renamed.value.2.2 = { base.value.2.2 with feedback := renamed.value.2.2.feedback }) ∧
    (recounted.value.1 = base.value.1 ∧ recounted.value.2.1 = base.value.2.1 ∧
      recounted.value.2.2 =
        { base.value.2.2 with store := store', disk := recounted.value.2.2.disk } ∧
      recounted.echoes = base.echoes) ∧
    (recopied.value.1 =
        { base.value.1 with
          copy := recopied.value.1.copy, errorKind := recopied.value.1.errorKind } ∧
      recopied.value.2.1 = base.value.2.1 ∧
      recopied.value.2.2 =
        { base.value.2.2 with
          clipboard := recopied.value.2.2.clipboard
          feedback := recopied.value.2.2.feedback }) ∧
    (base.value.2.2.clipboard = c.clipboard.given base.value.1 ∧
      base.value.2.2.feedback = (c.feedback.told base.value.1 now.instant).value ∧
      base.echoes = (c.feedback.told base.value.1 now.instant).echoes) := by
  obtain ⟨left, echoed⟩ := capture_leaves now c d hint
  exact ⟨capture_expands_alike now now' c ⟨c.budgets, clipboard', feedback', store', disk'⟩ rfl d
      hint hint', capture_renamed now c d hint hint',
    capture_recounted now c d hint store' disk', capture_recopied now c d hint clipboard',
    congrArg Capturer.clipboard left, congrArg Capturer.feedback left, echoed⟩

end Capturer

end CallCapture

import CallCapture.Page
import CallCapture.Proofs.Collaborators
import CallCapture.Proofs.Handling

/-! The dispatcher, the menu of a page and the shortcut look for blanks in the same way: what a page
offers is what it captures. -/

namespace CallCapture

/-- The channel with every request written down that is sent over it. -/
def Transport.recording {σ : Type} (t : Transport σ) : Transport (σ × List PageRequest) where
  send := fun (s, sent) r => do
    let (answer, s) ← t.send s r
    pure (answer, s, sent ++ [r])

namespace Dispatch

variable {σ : Type} {t : Transport σ} {selection : Option String} {r : PageRequest}

/-! ### The request -/

/-- Nothing is selected: there is no text, or one of blanks alone. -/
def Unselected (selection : Option String) : Prop :=
  ∀ text, selection = some text → Text.AllBlank text.toList

theorem request?_blank {text : String} (blank : Text.isBlankText text.toList = true) :
    request? (some text) = none := if_pos blank

theorem request?_shown {text : String} (shown : Text.isBlankText text.toList = false) :
    request? (some text) = some (.capture (String.ofList (Text.trim text.toList))) :=
  if_neg (by rw [← Text.isBlankText, shown]; exact Bool.false_ne_true)

theorem unselected_some_iff {text : String} :
    Unselected (some text) ↔ Text.isBlankText text.toList = true := by
  rw [Text.isBlankText_iff_allBlank]
  constructor
  · intro unselected
    exact unselected text rfl
  · rintro blank _ ⟨⟩
    exact blank

theorem request?_eq_none_iff : request? selection = none ↔ Unselected selection := by
  cases selection with
  | none =>
    constructor
    · intro _ text given
      cases given
    · intro _
      rfl
  | some text =>
    rw [unselected_some_iff]
    cases shown : Text.isBlankText text.toList with
    | true => exact ⟨fun _ => rfl, fun _ => request?_blank shown⟩
    | false =>
      rw [request?_shown shown]
      constructor
      · intro missing
        cases missing
      · intro blank
        cases blank

theorem request?_eq_some (asked : request? selection = some r) :
    ∃ text widget, selection = some text ∧ widget = String.ofList (Text.trim text.toList) ∧
      widget ≠ "" ∧ r = .capture widget := by
  cases selection with
  | none => cases asked
  | some text =>
    cases shown : Text.isBlankText text.toList with
    | true =>
      rw [request?_blank shown] at asked
      cases asked
    | false =>
      rw [request?_shown shown] at asked
      cases asked
      exact ⟨text, _, rfl, rfl, (Text.trimmed_text rfl shown).1, rfl⟩

/-! ### The outcome -/

/-- What an answer comes to: a lost request and a response without success are errors. -/
def judged : Except String PageResponse → Except DispatchError PageResponse
  | .error cause => .error (.transport cause)
  | .ok response => if response.success then .ok response else .error (.refused response)

theorem judged_ne_noSelection (answer : Except String PageResponse) :
    judged answer ≠ .error .noSelection := by
  unfold judged
  split
  · exact nofun
  · split
    · exact nofun
    · exact nofun

theorem forward_unselected (t : Transport σ) (s : σ) (missing : request? selection = none) :
    (forward t selection s).value = (.error .noSelection, s) := by
  rw [forward, missing]
  rfl

theorem forward_sent (t : Transport σ) (s : σ) (asked : request? selection = some r) :
    (forward t selection s).value = (judged (t.send s r).value.1, (t.send s r).value.2) := by
  rw [forward, asked]
  dsimp only
  rw [Logged.bind_value]
  generalize (t.send s r).value = answered
  obtain ⟨answer, s⟩ := answered
  cases answer with
  | error cause => rfl
  | ok response => rfl

def told (f : Feedback) : Except DispatchError PageResponse → Feedback
  | .ok _ => f
  | .error e => { f with snackbar := f.snackbar.notifyError e.message }

theorem run_value (t : Transport σ) (selection : Option String) (s : σ) (f : Feedback) :
    (run t selection s f).value =
      ((forward t selection s).value.1, (forward t selection s).value.2,
        told f (forward t selection s).value.1) := by
  rw [run, Logged.bind_value]
  generalize (forward t selection s).value = forwarded
  obtain ⟨outcome, s⟩ := forwarded
  cases outcome with
  | error e => rfl
  | ok response => rfl

theorem run_echoes (t : Transport σ) (selection : Option String) (s : σ) (f : Feedback) :
    (run t selection s f).echoes =
      (forward t selection s).echoes ++
        match (forward t selection s).value.1 with
        | .ok _ => []
        | .error e => (f.notifyError e.message).echoes := by
  rw [run, Logged.echoes_bind]
  generalize (forward t selection s).value = forwarded
  obtain ⟨outcome, s⟩ := forwarded
  cases outcome with
  | error e =>
    simp only [Logged.echoes_bind, Logged.echoes_log, Logged.echoes_pure, List.nil_append,
      List.append_nil]
  | ok response =>
    simp only [Logged.echoes_bind, Logged.echoes_log, Logged.echoes_pure, List.nil_append]

theorem forward_recording (t : Transport σ) (selection : Option String) (s : σ)
    (sent : List PageRequest) :
    (forward t.recording selection (s, sent)).value =
      ((forward t selection s).value.1, (forward t selection s).value.2,
        sent ++ (request? selection).toList) := by
  cases asked : request? selection with
  | none =>
    rw [forward_unselected _ _ asked, forward_unselected _ _ asked, Option.toList_none,
      List.append_nil]
  | some r =>
    rw [forward_sent _ _ asked, forward_sent _ _ asked]
    rfl

theorem forward_noSelection_iff (s : σ) :
    (forward t selection s).value.1 = .error .noSelection ↔ Unselected selection := by
  rw [← request?_eq_none_iff]
  cases asked : request? selection with
  | none =>
    rw [forward_unselected _ _ asked]
    exact ⟨fun _ => rfl, fun _ => rfl⟩
  | some r =>
    rw [forward_sent _ _ asked]
    constructor
    · intro same
      exact absurd same (judged_ne_noSelection _)
    · intro missing
      cases missing

/-! ### A page and its own menu -/

theorem handle_shown_success (now : Moment) {p : Page} (r : PageRequest)
    (shown : p.document.selectsBlank = false) : (p.handle now r).value.1.success = true := by
  rw [Page.handle_success_iff]
  obtain ⟨_, _, _, _, _, report, _⟩ := Page.reportOf_shown now r shown
  exact ⟨_, report, rfl⟩

theorem request?_offeredText (d : Document) :
    request? d.offeredText = none ↔ d.selectsBlank = true := by
  cases blank : d.selectsBlank with
  | true => simp [Document.offeredText, blank, request?]
  | false =>
    have chars : Text.isBlankText d.selectedText.toList = false := by
      rw [Document.selectedText, String.toList_ofList]
      exact blank
    rw [Document.offeredText, blank, if_neg Bool.false_ne_true, request?_shown chars]
    constructor
    · intro missing
      cases missing
    · intro other
      cases other

theorem forward_offered (now : Moment) (p : Page) :
    (p.document.selectsBlank = true ∧
      (forward (Page.transport now) p.document.offeredText p).value = (.error .noSelection, p)) ∨
    (p.document.selectsBlank = false ∧
      ∃ response, (forward (Page.transport now) p.document.offeredText p).value.1 =
        .ok response) := by
  cases asked : request? p.document.offeredText with
  | none => exact .inl ⟨(request?_offeredText _).mp asked, forward_unselected _ _ asked⟩
  | some r =>
    have shown : p.document.selectsBlank = false := by
      apply Bool.eq_false_of_not_eq_true
      intro blank
      rw [(request?_offeredText _).mpr blank] at asked
      cases asked
    refine .inr ⟨shown, (p.handle now r).value.1, ?_⟩
    have success := handle_shown_success now r shown
    rw [forward_sent _ _ asked]
    simp only [Page.transport, Logged.bind_value, Logged.pure_value, judged, success, if_true]

theorem run_offered (now : Moment) (p : Page) (f : Feedback) :
    let offered := (run (Page.transport now) p.document.offeredText p f).value
    ((∃ response, offered.1 = .ok response) ↔ p.document.selectsBlank = false) ∧
      ∀ e, offered.1 = .error e → e = .noSelection ∧ offered.2.1 = p := by
  intro offered
  have ran : offered = _ := run_value (Page.transport now) p.document.offeredText p f
  rw [ran]
  rcases forward_offered now p with ⟨blank, forwarded⟩ | ⟨shown, response, forwarded⟩
  · rw [forwarded, blank]
    refine ⟨⟨?_, ?_⟩, ?_⟩
    · rintro ⟨response, given⟩
      cases given
    · intro shown
      cases shown
    · rintro _ ⟨⟩
      exact ⟨rfl, rfl⟩
  · rw [forwarded, shown]
    refine ⟨⟨fun _ => rfl, fun _ => ⟨response, rfl⟩⟩, ?_⟩
    rintro e ⟨⟩

/-- A dispatcher sends nothing for a text that is missing or blank, and says so; for any other it
sends one request, with the text trimmed. An error is told once, in its own words, and a success
not at all. What a page offers of its own selection is captured there whenever it is not blank, and
else the page stays as it is. -/
theorem run_dispatches {σ : Type} (t : Transport σ) (selection : Option String) (s : σ)
    (sent : List PageRequest) (f : Feedback) :
    let ran := (run t selection s f).value
    let recorded := (run t.recording selection (s, sent) f).value
    recorded = (ran.1, (ran.2.1, recorded.2.1.2), ran.2.2) ∧
    (ran.1 = .error .noSelection ↔ Unselected selection) ∧
    (recorded.2.1.2 = sent ↔ Unselected selection) ∧
    (Unselected selection → ran.2.1 = s) ∧
    (¬ Unselected selection →
      ∃ text widget, selection = some text ∧ widget = String.ofList (Text.trim text.toList) ∧
        widget ≠ "" ∧ recorded.2.1.2 = sent ++ [.capture widget]) ∧
    (∀ e, ran.1 = .error e →
      ran.2.2.snackbar = { f.snackbar with errors := f.snackbar.errors ++ [e.message] } ∧
      (run t selection s f).echoes =
        (forward t selection s).echoes ++ (f.notifyError e.message).echoes) ∧
    (∀ response, ran.1 = .ok response →
      ran.2.2 = f ∧ (run t selection s f).echoes = (forward t selection s).echoes) ∧
    ∀ (now : Moment) (p : Page),
      let offered := (run (Page.transport now) p.document.offeredText p f).value
      ((∃ response, offered.1 = .ok response) ↔ p.document.selectsBlank = false) ∧
        ∀ e, offered.1 = .error e → e = .noSelection ∧ offered.2.1 = p := by
  intro ran recorded
  have same : ran = _ := run_value t selection s f
  have same' : recorded = _ := run_value t.recording selection (s, sent) f
  rw [forward_recording] at same'
  have all : recorded.2.1.2 = sent ++ (request? selection).toList := congrArg (·.2.1.2) same'
  refine ⟨?_, ?_, ?_, ?_, ?_, ?_, ?_, ?_⟩
  · rw [all, same, same']
  · rw [same]
    exact forward_noSelection_iff s
  · rw [all, List.append_right_eq_self, Option.toList_eq_nil_iff, request?_eq_none_iff]
  · intro unselected
    rw [same, forward_unselected t s (request?_eq_none_iff.mpr unselected)]
  · intro selected
    obtain ⟨r, asked⟩ := Option.ne_none_iff_exists'.mp (mt request?_eq_none_iff.mp selected)
    obtain ⟨text, widget, given, trimmed, some, rfl⟩ := request?_eq_some asked
    refine ⟨text, widget, given, trimmed, some, ?_⟩
    rw [all, asked, Option.toList_some]
  · intro e failed
    rw [same] at failed ⊢
    rw [run_echoes, failed]
    exact ⟨rfl, rfl⟩
  · intro response succeeded
    rw [same] at succeeded ⊢
    rw [run_echoes, succeeded]
    exact ⟨rfl, List.append_nil _⟩
  · intro now p
    exact run_offered now p f

def lost : Transport Nat where
  send n _ := pure (.error "no receiver", n + 1)

theorem run_dispatches_lost :
    ¬ Unselected (some " Row ") ∧
      (run lost.recording (some " Row ") (0, []) {}).value.2.1 = (1, [.capture "Row"]) ∧
      (run lost (some " Row ") 0 {}).value.2.2.snackbar.errors =
        ["Failed to communicate with page. Please refresh and try again."] := by
  have selected : ¬ Unselected (some " Row ") := by
    intro unselected
    have blank : Text.isBlank 'R' = true := unselected " Row " rfl 'R' (by decide)
    revert blank
    decide
  obtain ⟨recorded, _, _, _, once, failed, _⟩ := run_dispatches lost (some " Row ") 0 [] {}
  obtain ⟨text, widget, given, trimmed, _, written⟩ := once selected
  cases given
  have row : widget = "Row" := trimmed.trans (by decide)
  have outcome : (run lost (some " Row ") 0 {}).value.1 = .error (.transport "no receiver") := by
    rw [run_value, forward_sent lost 0 (request?_shown (by decide))]
    rfl
  refine ⟨selected, ?_, ?_⟩
  · rw [recorded, written, row]
    rfl
  · rw [(failed _ outcome).1]
    rfl

end Dispatch

end CallCapture

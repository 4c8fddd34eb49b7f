import CallCapture.Proofs.Capture
import CallCapture.Proofs.FirstName
import Mathlib

/-! The default name, found in the captured text, counts as if the text had none: it gives way to
any other name that the trigger saw. -/

namespace CallCapture

/-- The leftmost name of a text. -/
def Names (text name : String) : Prop := FirstName text.toList name.toList

/-- The order of priority: the name in the text, without one the name in what the trigger saw, and
without either the default. -/
structure NamedByPriority (hint : Option String) (text name : String) : Prop where
  inText : ∀ n, Names text n → name = n
  inHint : (∀ n, ¬ Names text n) → ∀ seen ∈ hint, ∀ n, Names seen n → name = n
  inNeither : (∀ n, ¬ Names text n) → (∀ seen ∈ hint, ∀ n, ¬ Names seen n) →
    name = defaultCallName

/-- The text names the default, and what the trigger saw names another. -/
def Overridden (hint : Option String) (text : String) : Prop :=
  Names text defaultCallName ∧ ∃ seen ∈ hint, ∃ n, Names seen n ∧ n ≠ defaultCallName

theorem callName_of_names {text name : String} (named : Names text name) :
    callName text = name := by
  rw [callName, callName?_eq_some_iff.mpr named]
  exact String.ofList_toList

theorem callName_of_nameless {text : String} (nameless : ∀ n, ¬ Names text n) :
    callName text = defaultCallName := by
  have none : callName? text.toList = none := by
    rw [Option.eq_none_iff_forall_ne_some]
    intro name found
    apply nameless (String.ofList name)
    rw [Names, String.toList_ofList]
    exact callName?_eq_some_iff.mp found
  rw [callName, none]

theorem names_callName {text : String} (other : callName text ≠ defaultCallName) :
    Names text (callName text) := by
  by_contra unnamed
  apply other
  apply callName_of_nameless
  intro n found
  apply unnamed
  rw [callName_of_names found]
  exact found

theorem displayName_of_other (hint : Option String) {text : String}
    (other : callName text ≠ defaultCallName) : displayName hint text = callName text := by
  simp only [displayName, if_pos other]

theorem displayName_of_default (hint : Option String) {text : String}
    (same : callName text = defaultCallName) :
    displayName hint text = (hint.map callName).getD defaultCallName := by
  simp only [displayName, same, ne_eq, not_true_eq_false, if_false]
  cases hint with
  | none => rfl
  | some seen => rfl

theorem displayName_of_seen {hint : Option String} {text seen n : String}
    (same : callName text = defaultCallName) (saw : seen ∈ hint) (named : Names seen n) :
    displayName hint text = n := by
  rw [displayName_of_default hint same, Option.mem_def.mp saw, Option.map_some, Option.getD_some,
    callName_of_names named]

theorem displayName_of_unseen {hint : Option String} {text : String}
    (same : callName text = defaultCallName) (nameless : ∀ seen ∈ hint, ∀ n, ¬ Names seen n) :
    displayName hint text = defaultCallName := by
  rw [displayName_of_default hint same]
  cases hint with
  | none => rfl
  | some seen => exact callName_of_nameless (nameless seen rfl)

/-- The default in the text and another name in the hint are all that breaks the order. -/
theorem displayName_priority_iff (hint : Option String) (text : String) :
    NamedByPriority hint text (displayName hint text) ↔ ¬ Overridden hint text := by
  constructor
  · rintro priority ⟨default, seen, saw, n, named, other⟩
    have shown := displayName_of_seen (callName_of_names default) saw named
    exact other (shown.symm.trans (priority.inText defaultCallName default))
  · intro kept
    by_cases same : callName text = defaultCallName
    · refine ⟨fun n named => ?_, fun _ seen saw n named => displayName_of_seen same saw named,
        fun _ nameless => displayName_of_unseen same nameless⟩
      obtain rfl : n = defaultCallName := (callName_of_names named).symm.trans same
      cases hint with
      | none => exact displayName_of_default none same
      | some seen =>
        rw [displayName_of_default _ same]
        by_contra other
        exact kept ⟨named, seen, rfl, callName seen, names_callName other, other⟩
    · have shown := displayName_of_other hint same
      refine ⟨fun n named => shown.trans (callName_of_names named), fun nameless => ?_,
        fun nameless => ?_⟩
      · exact absurd (callName_of_nameless nameless) same
      · exact absurd (callName_of_nameless nameless) same

/-- The name that a capture reports. A name in the text other than the default is shown whatever
the trigger saw; else the name that the trigger saw is, and else the default. The order of priority
holds just when the text does not name the default while the trigger saw another name. -/
theorem capture_displayName_iff (now : Moment) (c : Capturer) (d : Document) (hint : Option String)
    (success : (c.capture now d hint).value.1.success = true) :
    ∃ text name, (c.capture now d hint).value.1.finalText = some text ∧
      (c.capture now d hint).value.1.displayName = some name ∧
      (∀ n, Names text n → n ≠ defaultCallName → name = n) ∧
      ((∀ n, Names text n → n = defaultCallName) →
        (∀ seen ∈ hint, ∀ n, Names seen n → name = n) ∧
        ((∀ seen ∈ hint, ∀ n, ¬ Names seen n) → name = defaultCallName)) ∧
      (NamedByPriority hint text name ↔ ¬ Overridden hint text) := by
  have shown : d.selectsBlank = false := by
    rw [Bool.eq_false_iff]
    intro blank
    rw [Capturer.capture_blank blank] at success
    cases success
  obtain ⟨e, d', grown, _, _⟩ := Document.expand_shown c.budgets shown
  rw [Capturer.capture_expanded grown]
  refine ⟨e.text, displayName hint e.text, rfl, rfl, ?_, ?_, displayName_priority_iff hint e.text⟩
  · intro n named other
    rw [← callName_of_names named] at other ⊢
    exact displayName_of_other hint other
  · intro onlyDefault
    have same : callName e.text = defaultCallName := by
      by_contra other
      exact other (onlyDefault _ (names_callName other))
    exact ⟨fun seen saw n named => displayName_of_seen same saw named,
      fun nameless => displayName_of_unseen same nameless⟩

theorem capture_overridden_report (now : Moment) :
    (({} : Capturer).capture now ((Document.ofString "Widget(x)").select 0 6)
      (some "Row(")).value.1 =
      ⟨true, some "Widget(x)", some "Row", none, some .directHit, some .primary⟩ := by
  cbv

theorem names_default : Names "Widget(x)" defaultCallName := callName?_eq_some_iff.mp (by cbv)

theorem capture_shows_row :
    let now : Moment := ⟨0, ⟨2024, 1, 1, 0, 0, 0, 0, 0, rfl, rfl, rfl⟩⟩
    let report := (({} : Capturer).capture now ((Document.ofString "Widget(x)").select 0 6)
      (some "Row(")).value.1
    report.success = true ∧ report.finalText = some "Widget(x)" ∧
      report.displayName = some "Row" ∧ ¬ NamedByPriority (some "Row(") "Widget(x)" "Row" := by
  intro now report
  have whole : report = _ := capture_overridden_report now
  have success : report.success = true := by rw [whole]
  obtain ⟨text, name, final, displayed, _, _, priority⟩ :=
    capture_displayName_iff now {} ((Document.ofString "Widget(x)").select 0 6) (some "Row(")
      success
  rw [capture_overridden_report] at final displayed
  cases final
  cases displayed
  refine ⟨success, by rw [whole], by rw [whole], ?_⟩
  rw [priority, not_not]
  exact ⟨names_default, "Row(", rfl, "Row", callName?_eq_some_iff.mp (by cbv), by decide⟩

/-- The order of priority does not hold for every capture: what the trigger saw goes before the
default name, also where the text has that name. -/
theorem capture_not_always_named_by_priority :
    ¬ ∀ (now : Moment) (c : Capturer) (d : Document) (hint : Option String) (text name : String),
      (c.capture now d hint).value.1.success = true →
      (c.capture now d hint).value.1.finalText = some text →
      (c.capture now d hint).value.1.displayName = some name → NamedByPriority hint text name := by
  intro always
  let now : Moment := ⟨0, ⟨2024, 1, 1, 0, 0, 0, 0, 0, rfl, rfl, rfl⟩⟩
  have report := capture_overridden_report now
  have priority := always now {} ((Document.ofString "Widget(x)").select 0 6) (some "Row(")
    "Widget(x)" "Row" (by rw [report]) (by rw [report]) (by rw [report])
  exact absurd (priority.inText defaultCallName names_default) (by decide)

end CallCapture

import CallCapture.Proofs.Handling
import CallCapture.Proofs.Session

namespace CallCapture

/-- The texts and names of the captures that are reported as successes, in order. -/
def Reported (reports : List Report) (caught : List (String × String)) : Prop :=
  (reports.filter (·.success)).map (fun r => (r.finalText, r.displayName)) =
    caught.map fun c => (some c.1, some c.2)

/-- What captures leave with the clipboard and with the user, given their texts and names. -/
structure Recorded (before after : Capturer) (caught : List (String × String)) : Prop where
  accepting : ∀ writes, before.clipboard = .memory writes →
    after.clipboard = .memory (writes ++ caught.map (·.1)) ∧
    after.feedback.snackbar.errors = before.feedback.snackbar.errors ∧
    after.feedback.snackbar.current.map (·.1) =
      (caught.getLast?.map fun c => copiedMessage c.2).or
        (before.feedback.snackbar.current.map (·.1))
  rejecting : before.clipboard = .rejecting →
    after.clipboard = .rejecting ∧
    after.feedback.snackbar.current = before.feedback.snackbar.current ∧
    after.feedback.snackbar.errors =
      before.feedback.snackbar.errors ++ caught.map fun c => notCopiedMessage c.2

theorem Reported.append {xs ys : List Report} {cs ds : List (String × String)}
    (hx : Reported xs cs) (hy : Reported ys ds) : Reported (xs ++ ys) (cs ++ ds) := by
  rw [Reported, List.filter_append, List.map_append, hx, hy, List.map_append]

theorem Reported.unique {xs : List Report} {cs ds : List (String × String)}
    (hc : Reported xs cs) (hd : Reported xs ds) : cs = ds := by
  have injective : Function.Injective fun c : String × String => (some c.1, some c.2) := by
    intro c d same
    exact Prod.ext (Option.some.inj (congrArg Prod.fst same))
      (Option.some.inj (congrArg Prod.snd same))
  exact List.map_injective_iff.mpr injective (hc.symm.trans hd)

namespace Recorded

variable {a b c : Capturer} {cs ds : List (String × String)}

theorem nothing (a : Capturer) : Recorded a a [] where
  accepting := by
    intro writes accepts
    rw [accepts, List.map_nil, List.append_nil]
    exact ⟨rfl, rfl, rfl⟩
  rejecting := by
    intro rejects
    rw [rejects, List.map_nil, List.append_nil]
    exact ⟨rfl, rfl, rfl⟩

theorem trans (first : Recorded a b cs) (second : Recorded b c ds) : Recorded a c (cs ++ ds) where
  accepting := by
    intro writes accepts
    obtain ⟨written, quiet, shown⟩ := first.accepting writes accepts
    obtain ⟨written', quiet', shown'⟩ := second.accepting _ written
    refine ⟨?_, quiet'.trans quiet, ?_⟩
    · rw [written', List.map_append, List.append_assoc]
    · rw [shown', shown, List.getLast?_append, Option.map_or, Option.or_assoc]
  rejecting := by
    intro rejects
    obtain ⟨refused, unshown, told⟩ := first.rejecting rejects
    obtain ⟨refused', unshown', told'⟩ := second.rejecting refused
    refine ⟨refused', unshown'.trans unshown, ?_⟩
    rw [told', told, List.map_append, List.append_assoc]

theorem delivered (now : Moment) (a : Capturer) (text name : String) :
    Recorded a ((a.deliver now text name).value.2.2.count now).value [(text, name)] := by
  obtain ⟨disk, counted⟩ := Capturer.count_value now (a.deliver now text name).value.2.2
  rw [counted]
  constructor
  · intro writes accepts
    rw [Capturer.deliver_memory accepts]
    exact ⟨rfl, rfl, rfl⟩
  · intro rejects
    rw [Capturer.deliver_rejecting rejects]
    exact ⟨rfl, rfl, rfl⟩

end Recorded

namespace Page

theorem request_blank (now : Moment) {p : Page} (r : PageRequest)
    (blank : p.document.selectsBlank = true) :
    (p.step (.request now r)).capturer = p.capturer := by
  rw [step, handle_blank now r blank]

theorem request_recorded (now : Moment) (p : Page) (r : PageRequest) :
    ∃ caught, Reported (p.step (.request now r)).lastReport.toList caught ∧
      Recorded p.capturer (p.step (.request now r)).capturer caught := by
  cases blank : p.document.selectsBlank with
  | true =>
    refine ⟨[], ?_, ?_⟩
    · rw [step, handle_blank now r blank]
      obtain ⟨command, widget⟩ := r
      cases command with
      | capture => rfl
      | captureShortcut => rfl
    · rw [request_blank now r blank]
      exact .nothing _
  | false =>
    obtain ⟨e, d', _, _, _, handled⟩ := handle_expanded now r blank
    refine ⟨[(e.text, displayName (p.seen r) e.text)], ?_, ?_⟩
    · rw [step, handled]
      rfl
    · rw [step, handled]
      exact .delivered now p.capturer e.text (displayName (p.seen r) e.text)

theorem steps_recorded (p : Page) (ss : List Step) :
    ∃ caught, Reported (p.reports ss) caught ∧
      Recorded p.capturer (p.steps ss).capturer caught := by
  induction ss generalizing p with
  | nil => exact ⟨[], rfl, .nothing _⟩
  | cons s ss ih =>
    obtain ⟨later, reported, recorded⟩ := ih (p.step s)
    cases s with
    | edit e => exact ⟨later, reported, recorded⟩
    | request now r =>
      obtain ⟨caught, first, once⟩ := request_recorded now p r
      exact ⟨caught ++ later, first.append reported, once.trans recorded⟩

/-- Over every session the successes that are reported are exactly what the clipboard and the user
got, in order; a request that finds the selection blank adds nothing to either. -/
theorem run_recorded (p : Page) (actions : List Action) :
    p.run actions = p.steps (actions.flatMap Action.steps) ∧
    (∃ caught, Reported (p.reports (actions.flatMap Action.steps)) caught ∧
      Recorded p.capturer (p.run actions).capturer caught) ∧
    ∀ now r, (p.run actions).document.selectsBlank = true →
      ((p.run actions).act (.handle now r)).capturer = (p.run actions).capturer := by
  refine ⟨p.run_eq_steps actions, ?_, fun now r blank => request_blank now r blank⟩
  rw [run_eq_steps]
  exact p.steps_recorded _

theorem run_recorded_row_and_text :
    let now : Moment := ⟨0, ⟨2024, 1, 1, 0, 0, 0, 0, 0, rfl, rfl, rfl⟩⟩
    let p : Page := ⟨.ofString "Row(a) Text(b)", {}, none⟩
    let actions : List Action := [.edit (.select 0 3), .handle now ⟨.capture, none⟩,
      .edit (.selectText "Text" 0), .dispatch now (some "Row") {}, .edit (.select 6 7),
      .send now ⟨.captureShortcut, none⟩]
    (p.run actions).capturer.clipboard = .memory ["Row(a)", "Text(b)"] ∧
      (p.run actions).capturer.feedback.snackbar.errors = [] ∧
      (p.run actions).capturer.feedback.snackbar.current.map (·.1) = some "Copied Text()" := by
  intro now p actions
  obtain ⟨_, ⟨caught, reported, recorded⟩, _⟩ := run_recorded p actions
  have reports : Reported (p.reports (actions.flatMap Action.steps))
      [("Row(a)", "Row"), ("Text(b)", "Text")] := by
    unfold Reported
    cbv
  obtain rfl := reported.unique reports
  exact recorded.accepting [] rfl

end Page

end CallCapture

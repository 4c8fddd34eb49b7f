import CallCapture.Capturer
import CallCapture.Proofs.Reexpansion

namespace CallCapture

theorem Fallback.copy_ne_skipped (text : String) (attempts : List String) (f : Fallback) :
    (f.copy text attempts).value.1 ≠ .ok .skipped := by
  unfold copy
  split
  · rw [Logged.bind_value]
    split
    · exact nofun
    · exact nofun
  · exact nofun

theorem Clipboard.copy_ne_skipped (text : String) (c : Clipboard) :
    (c.copy text).value.1 ≠ .ok .skipped := by
  cases c with
  | memory writes => exact nofun
  | rejecting => exact nofun
  | system primary fallback taken =>
    rw [copy]
    split
    · exact nofun
    · exact fallback.copy_ne_skipped text _
  | commands fallback taken deliveries => exact fallback.copy_ne_skipped text []

namespace Capturer

variable {now : Moment} {c : Capturer} {d : Document} {hint : Option String}

theorem deliver_memory {writes : List String} (accepts : c.clipboard = .memory writes)
    (now : Moment) (text name : String) :
    (c.deliver now text name).value =
      (.primary, none,
        { c with
          clipboard := .memory (writes ++ [text])
          feedback :=
            { c.feedback with
              snackbar := c.feedback.snackbar.present (copiedMessage name) now.instant } }) := by
  rw [deliver, accepts]
  rfl

theorem deliver_rejecting (rejects : c.clipboard = .rejecting) (now : Moment)
    (text name : String) :
    (c.deliver now text name).value =
      (.skipped, some .clipboardUnavailable,
        { c with
          clipboard := .rejecting
          feedback :=
            { c.feedback with
              snackbar := c.feedback.snackbar.notifyError (notCopiedMessage name) } }) := by
  rw [deliver, rejects]
  rfl

theorem deliver_skipped_or (now : Moment) (c : Capturer) (text name : String) :
    ((c.deliver now text name).value.1 = .skipped ∧
      (c.deliver now text name).value.2.1 = some .clipboardUnavailable) ∨
    ((c.deliver now text name).value.1 ≠ .skipped ∧
      (c.deliver now text name).value.2.1 = none) := by
  have taken := Clipboard.copy_ne_skipped text c.clipboard
  simp only [deliver, Logged.bind_value]
  generalize (c.clipboard.copy text).value = r at taken
  obtain ⟨result, clipboard⟩ := r
  cases result with
  | ok method => exact .inr ⟨fun same => taken (congrArg Except.ok same), rfl⟩
  | error e => exact .inl ⟨rfl, rfl⟩

theorem count_value (now : Moment) (c : Capturer) :
    ∃ disk, (c.count now).value = { c with disk := disk } := by
  obtain ⟨budgets, clipboard, feedback, store, disk⟩ := c
  cases store with
  | none => exact ⟨disk, rfl⟩
  | some store =>
    unfold count
    dsimp only
    split
    · exact ⟨_, rfl⟩
    · exact ⟨_, rfl⟩

theorem capture_blank (blank : d.selectsBlank = true) :
    (c.capture now d hint).value = (.failure .emptySelection, d, c) := by
  rw [capture, Logged.bind_value, Document.expand_blank blank]
  rfl

theorem capture_expanded {e : Expansion} {d' : Document}
    (h : (d.expand c.budgets).value = (.ok e, d')) :
    (c.capture now d hint).value =
      (⟨true, some e.text, some (displayName hint e.text),
        (c.deliver now e.text (displayName hint e.text)).value.2.1, some e.route,
        some (c.deliver now e.text (displayName hint e.text)).value.1⟩, d',
        ((c.deliver now e.text (displayName hint e.text)).value.2.2.count now).value) := by
  rw [capture, Logged.bind_value, h]
  dsimp only
  split
  · rfl
  · rfl

theorem captureShortcut_blank (blank : d.selectsBlank = true) :
    (c.captureShortcut now d).value = (none, d, c) := by
  rw [captureShortcut, if_pos blank]
  rfl

theorem captureShortcut_shown (shown : d.selectsBlank = false) :
    (c.captureShortcut now d).value =
      (some (c.capture now d (some d.selectedText)).value.1,
        (c.capture now d (some d.selectedText)).value.2) := by
  rw [captureShortcut, if_neg (by rw [shown]; exact Bool.false_ne_true)]
  rfl

end Capturer

end CallCapture

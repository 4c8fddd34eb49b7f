import CallCapture.Proofs.Collaborators
import CallCapture.Proofs.Handling
import CallCapture.Proofs.Offsets

/-! Whatever is done with a document comes down to edits of its selection and expansions, none of
which fails on bare offsets. -/

namespace CallCapture

namespace Document

inductive Move
  | edit (e : Edit)
  | expand (b : Budgets)
deriving DecidableEq, Repr

def move (d : Document) : Move → Document
  | .edit e => d.edit e
  | .expand b => (d.expand b).value.2

def moves (d : Document) (ms : List Move) : Document := ms.foldl move d

/-- All that can be done with a document. Captures, and the pages that hold the document for a
while, come with capturers of their own. -/
inductive Operation
  | move (m : Move)
  | capture (now : Moment) (c : Capturer) (hint : Option String)
  | captureShortcut (now : Moment) (c : Capturer)
  | onPage (c : Capturer) (last : Option Report) (a : Page.Action)

def operate (d : Document) : Operation → Document
  | .move m => d.move m
  | .capture now c hint => (c.capture now d hint).value.2.1
  | .captureShortcut now c => (c.captureShortcut now d).value.2.1
  | .onPage c last a => (Page.act ⟨d, c, last⟩ a).document

def run (d : Document) (ops : List Operation) : Document := ops.foldl operate d

end Document

def Page.Step.move (b : Budgets) : Page.Step → Document.Move
  | .edit e => .edit e
  | .request _ _ => .expand b

def Document.Operation.moves : Document.Operation → List Document.Move
  | .move m => [m]
  | .capture _ c _ => [.expand c.budgets]
  | .captureShortcut _ c => [.expand c.budgets]
  | .onPage c _ a => a.steps.map (Page.Step.move c.budgets)

namespace Offsets

def move? (o : Offsets) : Document.Move → Option Offsets
  | .edit e => o.edit? e
  | .expand b => (o.expand? b).map (·.2)

def moves? (o : Offsets) (ms : List Document.Move) : Option Offsets := ms.foldlM move? o

end Offsets

namespace Document

theorem edit_chars (d : Document) (e : Edit) : (d.edit e).chars = d.chars := by
  cases e with
  | select start stop => rfl
  | selectText needle occurrence =>
    simp only [edit, selectText]
    cases needle.isEmpty with
    | true => rfl
    | false =>
      cases scanFor needle.toList occurrence 0 d.chars with
      | none => rfl
      | some i => rfl
  | selectAll => rfl
  | extend dir =>
    cases dir with
    | forward => rfl
    | backward =>
      simp only [edit, extend]
      split
      · rfl
      · rfl
  | collapse => rfl
  | restore s => rfl

theorem expand_chars (b : Budgets) (d : Document) : (d.expand b).value.2.chars = d.chars := by
  cases blank : d.selectsBlank with
  | true => rw [expand_blank blank]
  | false =>
    obtain ⟨g, grown⟩ := growth?_shown b blank
    rw [expand_grown grown]
    rcases growth?_cases blank grown with ⟨_, rfl⟩ | ⟨_, anchored, found, rfl⟩ | ⟨_, _, rfl⟩
    · exact closeCall_chars b .directHit d.probed
    · obtain ⟨_, _, _, _, same, _⟩ := anchor?_eq_some found
      exact (closeCall_chars b .anchored anchored).trans same
    · rfl

theorem move_chars (d : Document) (m : Move) : (d.move m).chars = d.chars := by
  cases m with
  | edit e => exact d.edit_chars e
  | expand b => exact d.expand_chars b

theorem moves_chars (d : Document) (ms : List Move) : (d.moves ms).chars = d.chars := by
  induction ms generalizing d with
  | nil => rfl
  | cons m ms ih => exact (ih (d.move m)).trans (d.move_chars m)

theorem moves_append (d : Document) (ms ms' : List Move) :
    d.moves (ms ++ ms') = (d.moves ms).moves ms' := List.foldl_append

end Document

theorem Offsets.move?_offsets (d : Document) (m : Document.Move) :
    d.offsets.move? m = some (d.move m).offsets := by
  cases m with
  | edit e => exact edit?_offsets d e
  | expand b => rw [move?, expand?_offsets, Option.map_some, Document.move]

theorem Offsets.moves?_offsets (d : Document) (ms : List Document.Move) :
    d.offsets.moves? ms = some (d.moves ms).offsets := by
  induction ms generalizing d with
  | nil => rfl
  | cons m ms ih =>
    rw [moves?, List.foldlM_cons, move?_offsets, Option.bind_eq_bind, Option.bind_some]
    exact ih (d.move m)

theorem Capturer.capture_document (now : Moment) (c : Capturer) (d : Document)
    (hint : Option String) :
    (c.capture now d hint).value.2.1 = (d.expand c.budgets).value.2 := by
  cases blank : d.selectsBlank with
  | true => rw [capture_blank blank, Document.expand_blank blank]
  | false =>
    obtain ⟨e, d', grown, _, _⟩ := Document.expand_shown c.budgets blank
    rw [capture_expanded grown, grown]

theorem Capturer.captureShortcut_document (now : Moment) (c : Capturer) (d : Document) :
    (c.captureShortcut now d).value.2.1 = (d.expand c.budgets).value.2 := by
  cases blank : d.selectsBlank with
  | true => rw [captureShortcut_blank blank, Document.expand_blank blank]
  | false =>
    rw [captureShortcut_shown blank]
    exact c.capture_document now d _

namespace Page

theorem step_moves (p : Page) (s : Step) :
    (p.step s).document = p.document.move (s.move p.capturer.budgets) ∧
      (p.step s).capturer.budgets = p.capturer.budgets := by
  cases s with
  | edit e => exact ⟨rfl, rfl⟩
  | request now r =>
    cases blank : p.document.selectsBlank with
    | true =>
      rw [step, handle_blank now r blank, Step.move, Document.move, Document.expand_blank blank]
      exact ⟨rfl, rfl⟩
    | false =>
      obtain ⟨left, _⟩ := Capturer.capture_leaves now p.capturer p.document (p.seen r)
      rw [step, handle_shown now r blank]
      have budgets := congrArg Capturer.budgets left
      exact ⟨p.capturer.capture_document now p.document (p.seen r), budgets⟩

theorem steps_moves (p : Page) (ss : List Step) :
    (p.steps ss).document = p.document.moves (ss.map (Step.move p.capturer.budgets)) := by
  induction ss generalizing p with
  | nil => rfl
  | cons s ss ih =>
    obtain ⟨document, budgets⟩ := p.step_moves s
    rw [steps_cons, ih, document, budgets]
    rfl

end Page

namespace Document

theorem operate_eq_moves (d : Document) (op : Operation) : d.operate op = d.moves op.moves := by
  cases op with
  | move m => rfl
  | capture now c hint => exact c.capture_document now d hint
  | captureShortcut now c => exact c.captureShortcut_document now d
  | onPage c last a => rw [operate, Page.act_eq_steps, Page.steps_moves, Operation.moves]

theorem run_eq_moves (d : Document) (ops : List Operation) :
    d.run ops = d.moves (ops.flatMap Operation.moves) := by
  induction ops generalizing d with
  | nil => rfl
  | cons op ops ih =>
    rw [List.flatMap_cons, moves_append, ← operate_eq_moves, ← ih]
    rfl

/-- Whatever has been done with a document, its text is the same and its selection is in order and
within it. On bare offsets the same moves go through without a failure and end on the same offsets;
there the selection can be read and measured, and every further move goes through as well. -/
theorem run_contained (d : Document) (ops : List Operation) :
    let reached := d.run ops
    reached.chars = d.chars ∧
      reached.selection.start ≤ reached.selection.stop ∧
      reached.selection.stop ≤ d.chars.length ∧
      d.offsets.moves? (ops.flatMap Operation.moves) = some reached.offsets ∧
      reached.offsets.selected? = some reached.selected ∧
      reached.offsets.size? = some reached.selection.size ∧
      (∀ dir, reached.offsets.extend? dir =
        some ((reached.extend dir).1, (reached.extend dir).2.offsets)) ∧
      ∀ m, reached.offsets.move? m = some (reached.move m).offsets := by
  intro reached
  have text : reached.chars = d.chars := by
    rw [show reached = _ from d.run_eq_moves ops, moves_chars]
  have fits : reached.selection.stop ≤ reached.chars.length := reached.fits
  have moved := Offsets.moves?_offsets d (ops.flatMap Operation.moves)
  rw [← run_eq_moves] at moved
  exact ⟨text, reached.ordered, text ▸ fits, moved, Offsets.selected?_offsets reached,
    Offsets.size?_offsets reached, Offsets.extend?_offsets reached,
    Offsets.move?_offsets reached⟩

end Document

end CallCapture

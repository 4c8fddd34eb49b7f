import CallCapture.Proofs.Containment

/-! Only the number of steps in either direction counts, and the characters that the steps return
are those that the selection gains. -/

namespace CallCapture

namespace Offsets

def extendBy? (o : Offsets) : List Direction → Option (List (Option Char) × Offsets)
  | [] => some ([], o)
  | dir :: rest => do
    let (c, o) ← o.extend? dir
    let (cs, o) ← o.extendBy? rest
    some (c :: cs, o)

theorem extendBy?_offsets (d : Document) (dirs : List Direction) :
    d.offsets.extendBy? dirs = some ((d.extendBy dirs).1, (d.extendBy dirs).2.offsets) := by
  induction dirs generalizing d with
  | nil => rfl
  | cons dir dirs ih =>
    rw [extendBy?, extend?_offsets]
    simp only [Option.bind_eq_bind, Option.bind_some, ih]
    rfl

end Offsets

namespace Document

/-- No character is left in a direction. -/
def AtBoundary (d : Document) : Direction → Prop
  | .forward => d.selection.stop = d.length
  | .backward => d.selection.start = 0

/-- The characters returned by the steps in one direction, in the order of the steps. -/
def returned (dir : Direction) (dirs : List Direction) (answers : List (Option Char)) :
    List Char :=
  (dirs.zip answers).filterMap fun step => if step.1 = dir then step.2 else none

theorem extend_forward_cases (d : Document) :
    (d.AtBoundary .forward ∧ d.extend .forward = (none, d)) ∨
    ∃ c, ¬ d.AtBoundary .forward ∧ d.extend .forward = (some c, d.advance 1) ∧
      (d.advance 1).selected = d.selected ++ [c] := by
  cases next : d.chars[d.selection.stop]? with
  | none =>
    obtain ⟨ended, same, _⟩ := Offsets.extend_forward_end next
    exact .inl ⟨ended, same⟩
  | some c =>
    obtain ⟨grows, _⟩ := Offsets.extend_forward next
    obtain ⟨within, _⟩ := List.getElem?_eq_some_iff.mp next
    have one : d.slice ⟨d.selection.stop, d.selection.stop + 1⟩ = [c] := by
      rw [d.slice_cons next (Nat.lt_succ_self _), slice_self]
    refine .inr ⟨c, Nat.ne_of_lt within, grows, ?_⟩
    rw [selected, advance_selection within, slice_congr (d.advance_chars 1),
      ← d.slice_append d.ordered (Nat.le_succ _), one]
    rfl

theorem extend_backward_cases (d : Document) :
    (d.AtBoundary .backward ∧ d.extend .backward = (none, d)) ∨
    ∃ c, ¬ d.AtBoundary .backward ∧ d.extend .backward = (some c, d.retreat 1) ∧
      (d.retreat 1).selected = c :: d.selected := by
  cases start : d.selection.start with
  | zero => exact .inl ⟨start, by simp only [extend, start]⟩
  | succ n =>
    obtain ⟨c, before, back⟩ := Offsets.extend_backward start
    have left : ¬ d.AtBoundary .backward := fun first => Nat.succ_ne_zero n (start.symm.trans first)
    exact .inr ⟨c, left, back, Offsets.selected_retreat_one start before⟩

section

variable (d : Document) (dir : Direction)

theorem extend_eq_none_iff :
    ((d.extend dir).1 = none ↔ d.AtBoundary dir) ∧ (d.AtBoundary dir → (d.extend dir).2 = d) := by
  cases dir with
  | forward =>
    rcases d.extend_forward_cases with ⟨ended, step⟩ | ⟨c, left, step, _⟩
    · simp only [step, ended, implies_true, and_self]
    · simp only [step, left, reduceCtorEq, false_implies, and_self]
  | backward =>
    rcases d.extend_backward_cases with ⟨ended, step⟩ | ⟨c, left, step, _⟩
    · simp only [step, ended, implies_true, and_self]
    · simp only [step, left, reduceCtorEq, false_implies, and_self]

theorem extend_backward_snd : (d.extend .backward).2 = d.retreat 1 := by
  rcases d.extend_backward_cases with ⟨first, step⟩ | ⟨c, _, step, _⟩
  · have start : d.selection.start = 0 := first
    rw [step]
    apply Document.ext
    · rfl
    · rw [retreat_selection, start, Nat.zero_sub, ← start]
  · rw [step]

theorem extend_selected :
    (d.extend dir).2.selected =
      (returned .backward [dir] [(d.extend dir).1]).reverse ++ d.selected ++
        returned .forward [dir] [(d.extend dir).1] := by
  cases dir with
  | forward =>
    rcases d.extend_forward_cases with ⟨_, step⟩ | ⟨c, _, step, gains⟩
    · rw [step]
      exact (List.append_nil d.selected).symm
    · rw [step]
      exact gains
  | backward =>
    rcases d.extend_backward_cases with ⟨_, step⟩ | ⟨c, _, step, gains⟩
    · rw [step]
      exact (List.append_nil d.selected).symm
    · rw [step]
      exact gains.trans (List.append_nil (c :: d.selected)).symm

variable (dirs dirs' : List Direction)

theorem returned_cons (side : Direction) (c : Option Char) (cs : List (Option Char)) :
    returned side (dir :: dirs) (c :: cs) = returned side [dir] [c] ++ returned side dirs cs :=
  List.filterMap_append (l := [(dir, c)])

theorem extendBy_cons :
    d.extendBy (dir :: dirs) =
      ((d.extend dir).1 :: ((d.extend dir).2.extendBy dirs).1,
        ((d.extend dir).2.extendBy dirs).2) := rfl

theorem extendBy_append :
    d.extendBy (dirs ++ dirs') =
      ((d.extendBy dirs).1 ++ ((d.extendBy dirs).2.extendBy dirs').1,
        ((d.extendBy dirs).2.extendBy dirs').2) := by
  induction dirs generalizing d with
  | nil => rfl
  | cons dir dirs ih =>
    rw [List.cons_append, extendBy_cons, extendBy_cons, ih]
    rfl

theorem extendBy_length : (d.extendBy dirs).1.length = dirs.length := by
  induction dirs generalizing d with
  | nil => rfl
  | cons dir dirs ih => exact congrArg (· + 1) (ih (d.extend dir).2)

/-- Steps forward and steps back do not get in each other's way. -/
theorem extendBy_eq :
    (d.extendBy dirs).2 =
      (d.retreat (dirs.count .backward)).advance (dirs.count .forward) := by
  induction dirs generalizing d with
  | nil => exact (advance_zero d).symm
  | cons dir dirs ih =>
    refine (ih (d.extend dir).2).trans ?_
    cases dir with
    | forward =>
      rw [List.count_cons_self, List.count_cons_of_ne (by decide), Nat.add_comm, ← advance_advance]
      rfl
    | backward =>
      rw [List.count_cons_self, List.count_cons_of_ne (by decide), Nat.add_comm,
        extend_backward_snd, Offsets.retreat_retreat]

theorem extendBy_selected :
    (d.extendBy dirs).2.selected =
      (returned .backward dirs (d.extendBy dirs).1).reverse ++ d.selected ++
        returned .forward dirs (d.extendBy dirs).1 := by
  induction dirs generalizing d with
  | nil => exact (List.append_nil d.selected).symm
  | cons dir dirs ih =>
    have first (side : Direction) := returned_cons dir dirs side (d.extend dir).1
      ((d.extend dir).2.extendBy dirs).1
    rw [extendBy_cons, ih, extend_selected, first, first, List.reverse_append]
    simp only [List.append_assoc]

theorem extendBy_getElem? (before after : List Direction) :
    (d.extendBy (before ++ dir :: after)).1[before.length]? =
      some ((d.extendBy before).2.extend dir).1 := by
  rw [extendBy_append, ← d.extendBy_length before, List.getElem?_append_right (Nat.le_refl _),
    Nat.sub_self]
  rfl

end

/-- Steps forward and back, however they are mixed, come to their numbers: the start goes back by
as many characters as there are steps back, and the end forward likewise, each as far as the text
goes. Each step returns nothing just where no character is left for it, and then changes nothing. In
front of the text selected before stand the characters that the steps back returned, the last of
them first, and after it those that the steps forward returned. On bare offsets the same steps go
through one by one. -/
theorem extendBy_counted (d : Document) (dirs : List Direction) :
    let answers := (d.extendBy dirs).1
    let grown := (d.extendBy dirs).2
    (grown.chars = d.chars ∧
      grown.selection = ⟨d.selection.start - dirs.count .backward,
        min (d.selection.stop + dirs.count .forward) d.length⟩) ∧
    (answers.length = dirs.length ∧
      ∀ before dir after, dirs = before ++ dir :: after →
        let reached := (d.extendBy before).2
        answers[before.length]? = some (reached.extend dir).1 ∧
          ((reached.extend dir).1 = none ↔ reached.AtBoundary dir) ∧
          (reached.AtBoundary dir → (reached.extend dir).2 = reached)) ∧
    grown.selected =
      (returned .backward dirs answers).reverse ++ d.selected ++ returned .forward dirs answers ∧
    (∀ dirs', dirs'.count .forward = dirs.count .forward →
      dirs'.count .backward = dirs.count .backward → (d.extendBy dirs').2 = grown) ∧
    d.offsets.extendBy? dirs = some (answers, grown.offsets) := by
  intro answers grown
  have counted : grown = _ := d.extendBy_eq dirs
  refine ⟨by rw [counted]; exact ⟨rfl, rfl⟩, ⟨d.extendBy_length dirs, ?_⟩,
    d.extendBy_selected dirs, ?_, Offsets.extendBy?_offsets d dirs⟩
  · rintro before dir after rfl
    exact ⟨d.extendBy_getElem? dir before after, extend_eq_none_iff _ dir⟩
  · intro dirs' forward backward
    rw [counted, extendBy_eq, forward, backward]

theorem extendBy_counted_call :
    let d := (ofString "a(b)c,").select 2 3
    let before : List Direction := [.backward, .forward, .backward]
    let dirs := before ++ [.backward, .forward]
    (d.extendBy dirs).2.selection = ⟨0, 5⟩ ∧
    (d.extendBy dirs).2.selected = ['a', '('] ++ d.selected ++ [')', 'c'] ∧
    (d.extendBy dirs).1[3]? = some none ∧
    ((d.extendBy before).2.extend .backward).2 = (d.extendBy before).2 ∧
    (d.extendBy [.forward, .forward, .backward, .backward, .backward]).2 = (d.extendBy dirs).2 := by
  intro d before dirs
  obtain ⟨⟨_, selection⟩, ⟨_, each⟩, text, others, _⟩ := extendBy_counted d dirs
  obtain ⟨answer, nothing, unchanged⟩ := each before .backward [.forward] rfl
  have first : (d.extendBy before).2.AtBoundary .backward := rfl
  exact ⟨selection, text, answer.trans (congrArg some (nothing.mpr first)), unchanged first,
    others _ rfl rfl⟩

end Document

end CallCapture

import CallCapture.Call
import Mathlib.Data.List.Infix

/-! A balanced word leaves every stack as it was, and a text that empties a stack answers its
brackets one by one, with balanced words between the answers. -/

namespace CallCapture

theorem answer_opens {o c : Char} (h : opening? c = some o) :
    isOpening o = true ∧ isClosing o = false := by
  unfold opening? at h
  split at h
  all_goals cases h
  all_goals decide

theorem answer_closes {o c : Char} (h : opening? c = some o) :
    isOpening c = false ∧ isClosing c = true := by
  unfold opening? at h
  split at h
  all_goals cases h
  all_goals decide

theorem answer_of_parenthesis {c : Char} : opening? c = some '(' ↔ c = ')' := by
  constructor
  · intro h
    unfold opening? at h
    split at h
    · rfl
    all_goals cases h
  · intro h
    rw [h]
    rfl

theorem closing_answers {c : Char} (h : isClosing c = true) : ∃ o, opening? c = some o := by
  simp only [isClosing, Bool.or_eq_true, decide_eq_true_eq] at h
  rcases h with (rfl | rfl) | rfl
  · exact ⟨'(', rfl⟩
  · exact ⟨'[', rfl⟩
  · exact ⟨'{', rfl⟩

namespace BracketStack

@[simp] theorem push_items (s : BracketStack) (c : Char) : (s.push c).items = c :: s.items := rfl

theorem isEmpty_iff {s : BracketStack} : s.isEmpty = true ↔ s = empty := by
  cases s with
  | mk items => cases items <;> simp [isEmpty, empty]

/-! ### One character -/

theorem feed_plain (s : BracketStack) {c : Char} (plain : isBracket c = false) :
    (s.feed c).2 = s := by
  simp only [isBracket, Bool.or_eq_false_iff] at plain
  simp only [feed, plain.1, plain.2, Bool.false_eq_true, if_false]

theorem feed_opening (s : BracketStack) {c : Char} (opens : isOpening c = true) :
    (s.feed c).2 = s.push c := by
  simp only [feed, opens, if_true]

theorem feed_answer (s : BracketStack) {o c : Char} (h : opening? c = some o) :
    ((s.push o).feed c).2 = s := by
  have closes := answer_closes h
  simp [feed, closes.1, closes.2, push, top?, h]

theorem feed_unanswered (s : BracketStack) {c : Char} (closes : isClosing c = true)
    (other : s.top? ≠ opening? c) : (s.feed c).2 = s.push c := by
  obtain ⟨o, h⟩ := closing_answers closes
  simp only [feed, (answer_closes h).1, closes, Bool.false_eq_true, if_false, if_true, if_neg other]

theorem feed_cases (s : BracketStack) (c : Char) :
    (isBracket c = false ∧ (s.feed c).2 = s) ∨
    (isOpening c = true ∧ (s.feed c).2 = s.push c) ∨
    (∃ o t, opening? c = some o ∧ s = push t o ∧ (s.feed c).2 = t) ∨
    (isClosing c = true ∧ (s.feed c).2 = s.push c ∧ s.top? ≠ opening? c) := by
  cases opens : isOpening c with
  | true => exact .inr (.inl ⟨rfl, s.feed_opening opens⟩)
  | false =>
    cases closes : isClosing c with
    | false =>
      have plain : isBracket c = false := by simp only [isBracket, opens, closes, Bool.or_false]
      exact .inl ⟨plain, s.feed_plain plain⟩
    | true =>
      obtain ⟨o, h⟩ := closing_answers closes
      cases s with
      | mk items =>
        cases items with
        | nil =>
          have other : (BracketStack.mk []).top? ≠ opening? c := by simp [top?, h]
          exact .inr (.inr (.inr ⟨rfl, feed_unanswered _ closes other, other⟩))
        | cons x items =>
          by_cases hx : x = o
          · subst hx
            exact .inr (.inr (.inl ⟨x, ⟨items⟩, h, rfl, feed_answer ⟨items⟩ h⟩))
          · have other : (BracketStack.mk (x :: items)).top? ≠ opening? c := by
              simpa [top?, h] using hx
            exact .inr (.inr (.inr ⟨rfl, feed_unanswered _ closes other, other⟩))

/-! ### Closing brackets stay -/

theorem closing_mem_feed {s : BracketStack} {x : Char} (closes : isClosing x = true)
    (member : x ∈ s.items) (c : Char) : x ∈ (s.feed c).2.items := by
  rcases s.feed_cases c with ⟨_, e⟩ | ⟨_, e⟩ | ⟨o, t, h, rfl, e⟩ | ⟨_, e, _⟩
  · rw [e]
    exact member
  · rw [e]
    exact List.mem_cons_of_mem _ member
  · rw [e]
    rcases List.mem_cons.mp member with rfl | below
    · rw [(answer_opens h).2] at closes
      cases closes
    · exact below
  · rw [e]
    exact List.mem_cons_of_mem _ member

theorem closing_mem_after {s : BracketStack} {x : Char} (closes : isClosing x = true)
    (member : x ∈ s.items) (w : List Char) : x ∈ (s.after w).items := by
  induction w generalizing s with
  | nil => exact member
  | cons c w ih => exact ih (closing_mem_feed closes member c)

theorem after_not_empty_of_closing {s : BracketStack} {x : Char} (closes : isClosing x = true)
    (member : x ∈ s.items) (w : List Char) : s.after w ≠ empty := by
  intro h
  have stays := closing_mem_after closes member w
  rw [h] at stays
  cases stays

end BracketStack

/-! ### Balanced words leave the stack as it was -/

theorem Balanced.after {w : List Char} (h : Balanced w) (s : BracketStack) : s.after w = s := by
  induction h generalizing s with
  | nil => rfl
  | plain plain _ ih => rw [BracketStack.after_cons, s.feed_plain plain, ih]
  | @pair o c v w answer _ _ inner outer =>
    calc s.after (o :: (v ++ c :: w))
        = (s.push o).after (v ++ c :: w) := by
          rw [BracketStack.after_cons, s.feed_opening (answer_opens answer).1]
      _ = (s.push o).after (c :: w) := by rw [BracketStack.after_append, inner]
      _ = s.after w := by rw [BracketStack.after_cons, s.feed_answer answer]
      _ = s := outer s

theorem Balanced.items_suffix_after_take {w : List Char} (h : Balanced w) (s : BracketStack)
    (n : Nat) : s.items <:+ (s.after (w.take n)).items := by
  induction h generalizing s n with
  | nil => rw [List.take_nil]; exact List.suffix_refl _
  | @plain c w plain _ ih =>
    cases n with
    | zero => exact List.suffix_refl _
    | succ n =>
      rw [List.take_succ_cons, BracketStack.after_cons, s.feed_plain plain]
      exact ih s n
  | @pair o c v w answer inner _ ihv ihw =>
    cases n with
    | zero => exact List.suffix_refl _
    | succ n =>
      rw [List.take_succ_cons, BracketStack.after_cons, s.feed_opening (answer_opens answer).1]
      by_cases short : n ≤ v.length
      · rw [List.take_append_of_le_length short]
        exact (List.suffix_cons o s.items).trans (ihv (s.push o) n)
      · obtain ⟨m, rfl⟩ : ∃ m, n = v.length + (m + 1) := ⟨n - v.length - 1, by omega⟩
        rw [List.take_length_add_append, List.take_succ_cons, BracketStack.after_append,
          inner.after, BracketStack.after_cons, s.feed_answer answer]
        exact ihw s m

/-! ### What a stack demands -/

/-- The text answers the brackets of a stack, the innermost first: a balanced word stands before
each answer, and one after the last. -/
def Answers : List Char → List Char → Prop
  | [], w => Balanced w
  | o :: items, w =>
    ∃ v c rest, w = v ++ c :: rest ∧ opening? c = some o ∧ Balanced v ∧ Answers items rest

theorem Answers.plain {items w : List Char} {c : Char} (plain : isBracket c = false)
    (h : Answers items w) : Answers items (c :: w) := by
  cases items with
  | nil => exact Balanced.plain plain h
  | cons o items =>
    obtain ⟨v, x, rest, rfl, answer, inner, outer⟩ := h
    exact ⟨c :: v, x, rest, rfl, answer, .plain plain inner, outer⟩

theorem Answers.pair {items v rest : List Char} {o c : Char} (answer : opening? c = some o)
    (inner : Balanced v) (h : Answers items rest) : Answers items (o :: (v ++ c :: rest)) := by
  cases items with
  | nil => exact Balanced.pair answer inner h
  | cons p items =>
    obtain ⟨u, x, rest, rfl, last, middle, outer⟩ := h
    refine ⟨o :: (v ++ c :: u), x, rest, ?_, last, .pair answer inner middle, outer⟩
    simp only [List.cons_append, List.append_assoc]

theorem answers_of_emptied {s : BracketStack} {w : List Char}
    (emptied : (s.after w).isEmpty = true) : Answers s.items w := by
  induction w generalizing s with
  | nil =>
    rw [BracketStack.after_nil, BracketStack.isEmpty_iff] at emptied
    rw [emptied]
    exact Balanced.nil
  | cons c w ih =>
    rw [BracketStack.after_cons] at emptied
    have h := ih emptied
    rcases s.feed_cases c with ⟨plain, e⟩ | ⟨opens, e⟩ | ⟨o, t, answer, rfl, e⟩ | ⟨closes, e, _⟩
    · rw [e] at h
      exact h.plain plain
    · rw [e] at h
      obtain ⟨v, x, rest, rfl, answer, inner, outer⟩ := h
      exact outer.pair answer inner
    · rw [e] at h
      exact ⟨[], c, w, rfl, answer, .nil, h⟩
    · rw [e] at h
      obtain ⟨_, x, _, _, answer, _, _⟩ := h
      rw [(answer_opens answer).2] at closes
      cases closes

theorem balanced_iff_emptied {w : List Char} :
    Balanced w ↔ BracketStack.empty.after w = .empty := by
  constructor
  · intro h
    exact h.after .empty
  · intro h
    exact answers_of_emptied (s := .empty) (BracketStack.isEmpty_iff.mpr h)

instance (w : List Char) : Decidable (Balanced w) := decidable_of_iff _ balanced_iff_emptied.symm

theorem first_occurrence_unique {a : Char} {u w r t : List Char} (hu : a ∉ u) (hw : a ∉ w)
    (same : u ++ a :: r = w ++ a :: t) : r = t := by
  rcases List.append_eq_append_iff.mp same with ⟨e, rfl, back⟩ | ⟨e, rfl, back⟩
  · cases e with
    | nil => exact (List.cons.inj back).2
    | cons x e =>
      obtain rfl := (List.cons.inj back).1
      exact absurd (List.mem_append_right u List.mem_cons_self) hw
  · cases e with
    | nil => exact (List.cons.inj back).2.symm
    | cons x e =>
      obtain rfl := (List.cons.inj back).1
      exact absurd (List.mem_append_right w List.mem_cons_self) hu

/-- A text that ends with a balanced call is one from its first opening parenthesis on only if
there is none before that call. -/
theorem opening_not_mem_of_balanced {x w body body' : List Char} (inner : Balanced body)
    (whole : Balanced body') (first : '(' ∉ w)
    (same : x ++ '(' :: (body ++ [')']) = w ++ '(' :: (body' ++ [')'])) : '(' ∉ x := by
  intro member
  obtain ⟨u, v, rfl, before⟩ := List.eq_append_cons_of_mem member
  have rest : v ++ '(' :: (body ++ [')']) = body' ++ [')'] := by
    apply first_occurrence_unique before first
    rw [← same, List.append_assoc, List.cons_append]
  have split : body' = v ++ '(' :: body := by
    apply (List.append_left_inj [')']).mp
    rw [← rest, List.append_assoc, List.cons_append]
  -- the parenthesis that opens the call is still unanswered at the end of the longer body
  have emptied := whole.after .empty
  rw [split, BracketStack.after_append, BracketStack.after_cons,
    BracketStack.feed_opening _ (by decide), inner.after] at emptied
  cases emptied

/-! ### Mismatches -/

/-- A closing bracket meets an opening one of another kind, with nothing unanswered between. -/
def Mismatched (w : List Char) : Prop :=
  ∃ u o v c rest, w = u ++ o :: (v ++ c :: rest) ∧ isOpening o = true ∧ Balanced v ∧
    isClosing c = true ∧ opening? c ≠ some o

theorem Mismatched.append {w : List Char} (h : Mismatched w) (more : List Char) :
    Mismatched (w ++ more) := by
  obtain ⟨u, o, v, c, rest, rfl, found⟩ := h
  refine ⟨u, o, v, c, rest ++ more, ?_, found⟩
  simp only [List.append_assoc, List.cons_append]

theorem Mismatched.after_not_empty {w : List Char} (h : Mismatched w) (s : BracketStack) :
    s.after w ≠ .empty := by
  obtain ⟨u, o, v, c, rest, rfl, opens, inner, closes, other⟩ := h
  have unanswered : (((s.after u).push o).feed c).2 = ((s.after u).push o).push c :=
    BracketStack.feed_unanswered _ closes (fun same => other same.symm)
  rw [BracketStack.after_append, BracketStack.after_cons, BracketStack.feed_opening _ opens,
    BracketStack.after_append, inner.after, BracketStack.after_cons, unanswered]
  exact BracketStack.after_not_empty_of_closing closes List.mem_cons_self rest

theorem Balanced.not_mismatched {w : List Char} (h : Balanced w) : ¬ Mismatched w := by
  intro wrong
  exact wrong.after_not_empty .empty (h.after .empty)

end CallCapture

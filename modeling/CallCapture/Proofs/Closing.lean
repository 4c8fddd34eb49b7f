import CallCapture.Expansion
import CallCapture.Proofs.Balance

/-! The walk to the closing bracket ends in one of three ways, told apart by where the stack is
first empty: within the budget, not before the end of the text, or not before the budget is spent.
-/

namespace CallCapture

/-- The first `k` characters of the text empty the stack, and fewer do not. -/
structure EmptiesAt (s : BracketStack) (w : List Char) (k : Nat) : Prop where
  within : k ≤ w.length
  emptied : (s.after (w.take k)).isEmpty = true
  before : ∀ j < k, (s.after (w.take j)).isEmpty = false

def StaysOpen (s : BracketStack) (w : List Char) (n : Nat) : Prop :=
  ∀ j ≤ n, (s.after (w.take j)).isEmpty = false

theorem StaysOpen.not_emptiesAt {s : BracketStack} {w : List Char} {n k : Nat}
    (h : StaysOpen s w n) (short : k ≤ n) : ¬ EmptiesAt s w k := by
  intro e
  have shut := e.emptied
  rw [h k short] at shut
  cases shut

theorem EmptiesAt.unique {s : BracketStack} {w : List Char} {j k : Nat} (hj : EmptiesAt s w j)
    (hk : EmptiesAt s w k) : j = k := by
  rcases Nat.lt_trichotomy j k with less | same | more
  · have shut := hj.emptied
    rw [hk.before j less] at shut
    cases shut
  · exact same
  · have shut := hk.emptied
    rw [hj.before k more] at shut
    cases shut

theorem emptiesAt_zero {s : BracketStack} (shut : s.isEmpty = true) (w : List Char) :
    EmptiesAt s w 0 where
  within := Nat.zero_le _
  emptied := shut
  before := fun j hj => absurd hj (Nat.not_lt_zero j)

theorem staysOpen_zero {s : BracketStack} (opened : s.isEmpty = false) (w : List Char) :
    StaysOpen s w 0 := by
  intro j hj
  rw [Nat.le_zero.mp hj]
  exact opened

theorem EmptiesAt.cons {s : BracketStack} {c : Char} {w : List Char} {k : Nat}
    (opened : s.isEmpty = false) (h : EmptiesAt (s.feed c).2 w k) :
    EmptiesAt s (c :: w) (k + 1) where
  within := Nat.succ_le_succ h.within
  emptied := h.emptied
  before := by
    intro j hj
    cases j with
    | zero => exact opened
    | succ j => exact h.before j (Nat.lt_of_succ_lt_succ hj)

theorem StaysOpen.cons {s : BracketStack} {c : Char} {w : List Char} {n : Nat}
    (opened : s.isEmpty = false) (h : StaysOpen (s.feed c).2 w n) :
    StaysOpen s (c :: w) (n + 1) := by
  intro j hj
  cases j with
  | zero => exact opened
  | succ j => exact h j (Nat.le_of_succ_le_succ hj)

inductive ClosingSpec (budget : Nat) (s : BracketStack) (taken : Nat) (ahead : List Char) :
    Nat × Closing → Prop
  | balanced (k : Nat) (near : k ≤ budget) (emptied : EmptiesAt s ahead k) :
      ClosingSpec budget s taken ahead (taken + k, .balanced)
  | textEnded (near : ahead.length < budget) (opened : StaysOpen s ahead ahead.length) :
      ClosingSpec budget s taken ahead (taken + ahead.length, .textEnded)
  | budgetSpent (within : budget ≤ ahead.length) (opened : StaysOpen s ahead budget) :
      ClosingSpec budget s taken ahead
        (taken + budget, .budgetSpent (s.after (ahead.take budget)).size)

theorem ClosingSpec.cons {budget taken : Nat} {s : BracketStack} {c : Char} {ahead : List Char}
    {r : Nat × Closing} (opened : s.isEmpty = false)
    (h : ClosingSpec budget (s.feed c).2 (taken + 1) ahead r) :
    ClosingSpec (budget + 1) s taken (c :: ahead) r := by
  cases h with
  | balanced k near emptied =>
    rw [Nat.add_assoc, Nat.add_comm 1]
    exact .balanced (k + 1) (Nat.succ_le_succ near) (emptied.cons opened)
  | textEnded near still =>
    rw [Nat.add_assoc, Nat.add_comm 1]
    exact .textEnded (Nat.succ_lt_succ near) (still.cons opened)
  | budgetSpent within still =>
    rw [Nat.add_assoc, Nat.add_comm 1]
    exact .budgetSpent (Nat.succ_le_succ within) (still.cons opened)

theorem closeBrackets_shut {s : BracketStack} (shut : s.isEmpty = true) (budget taken : Nat)
    (ahead : List Char) : closeBrackets budget s taken ahead = (taken, .balanced) := by
  unfold closeBrackets
  cases ahead with
  | nil => simp only [shut, if_true]
  | cons c ahead => simp only [shut, if_true]

theorem closeBrackets_spec (budget : Nat) (s : BracketStack) (taken : Nat) (ahead : List Char) :
    ClosingSpec budget s taken ahead (closeBrackets budget s taken ahead) := by
  induction ahead generalizing budget s taken with
  | nil =>
    cases shut : s.isEmpty with
    | true =>
      rw [closeBrackets_shut shut]
      exact .balanced 0 (Nat.zero_le _) (emptiesAt_zero shut [])
    | false =>
      simp only [closeBrackets, shut, Bool.false_eq_true, if_false]
      cases budget with
      | zero => exact .budgetSpent (Nat.zero_le _) (staysOpen_zero shut [])
      | succ budget => exact .textEnded (Nat.zero_lt_succ _) (staysOpen_zero shut [])
  | cons c ahead ih =>
    cases shut : s.isEmpty with
    | true =>
      rw [closeBrackets_shut shut]
      exact .balanced 0 (Nat.zero_le _) (emptiesAt_zero shut _)
    | false =>
      cases budget with
      | zero =>
        simp only [closeBrackets, shut, Bool.false_eq_true, if_false]
        exact .budgetSpent (Nat.zero_le _) (staysOpen_zero shut _)
      | succ budget =>
        simp only [closeBrackets, shut, Bool.false_eq_true, if_false]
        exact (ih budget (s.feed c).2 (taken + 1)).cons shut

theorem ClosingSpec.unique {budget taken : Nat} {s : BracketStack} {ahead : List Char}
    {r r' : Nat × Closing} (h : ClosingSpec budget s taken ahead r)
    (h' : ClosingSpec budget s taken ahead r') : r = r' := by
  cases h with
  | balanced k near emptied =>
    cases h' with
    | balanced j _ emptied' => rw [emptied.unique emptied']
    | textEnded _ opened => exact absurd emptied (opened.not_emptiesAt emptied.within)
    | budgetSpent _ opened => exact absurd emptied (opened.not_emptiesAt near)
  | textEnded near opened =>
    cases h' with
    | balanced j _ emptied => exact absurd emptied (opened.not_emptiesAt emptied.within)
    | textEnded _ _ => rfl
    | budgetSpent within _ => exact absurd near (Nat.not_lt_of_le within)
  | budgetSpent within opened =>
    cases h' with
    | balanced j near emptied => exact absurd emptied (opened.not_emptiesAt near)
    | textEnded near _ => exact absurd near (Nat.not_lt_of_le within)
    | budgetSpent _ _ => rfl

theorem closeBrackets_eq {budget taken : Nat} {s : BracketStack} {ahead : List Char}
    {r : Nat × Closing} (ends : ClosingSpec budget s taken ahead r) :
    closeBrackets budget s taken ahead = r :=
  (closeBrackets_spec budget s taken ahead).unique ends

theorem closeBrackets_bounds (budget : Nat) (s : BracketStack) (taken : Nat) (ahead : List Char) :
    taken ≤ (closeBrackets budget s taken ahead).1 ∧
      (closeBrackets budget s taken ahead).1 ≤ taken + ahead.length := by
  have walk := closeBrackets_spec budget s taken ahead
  generalize closeBrackets budget s taken ahead = r at walk
  cases walk with
  | balanced k near emptied =>
    exact ⟨Nat.le_add_right _ _, Nat.add_le_add_left emptied.within _⟩
  | textEnded near opened => exact ⟨Nat.le_add_right _ _, Nat.le_refl _⟩
  | budgetSpent within opened => exact ⟨Nat.le_add_right _ _, Nat.add_le_add_left within _⟩

theorem closeBrackets_nil (budget : Nat) (s : BracketStack) (taken : Nat) :
    (closeBrackets budget s taken []).1 = taken :=
  Nat.le_antisymm (closeBrackets_bounds budget s taken []).2
    (closeBrackets_bounds budget s taken []).1

/-- A text that is cut where the walk has been, or before, is walked over to its end. -/
theorem closeBrackets_take {budget taken j : Nat} {s : BracketStack} {ahead : List Char}
    (far : taken + j ≤ (closeBrackets budget s taken ahead).1) :
    (closeBrackets budget s taken (ahead.take j)).1 = taken + j := by
  induction ahead generalizing budget s taken j with
  | nil =>
    rw [closeBrackets_nil] at far
    rw [List.take_nil, closeBrackets_nil]
    omega
  | cons c ahead ih =>
    cases j with
    | zero => rw [List.take_zero, closeBrackets_nil, Nat.add_zero]
    | succ j =>
      cases shut : s.isEmpty with
      | true =>
        rw [closeBrackets_shut shut] at far
        omega
      | false =>
        cases budget with
        | zero =>
          simp only [closeBrackets, shut, Bool.false_eq_true, if_false] at far
          omega
        | succ budget =>
          simp only [closeBrackets, shut, Bool.false_eq_true, if_false] at far
          simp only [List.take_succ_cons, closeBrackets, shut, Bool.false_eq_true, if_false]
          rw [ih (by omega)]
          omega

/-- A text that closes a call: a balanced body, and the parenthesis that ends it. -/
def ClosesCall (w : List Char) : Prop := ∃ body, Balanced body ∧ w = body ++ [')']

theorem closesCall_not_nil : ¬ ClosesCall [] := by
  rintro ⟨body, _, h⟩
  exact List.append_ne_nil_of_right_ne_nil body (List.cons_ne_nil _ _) h.symm

theorem ClosesCall.balanced_call {w : List Char} (h : ClosesCall w) : Balanced ('(' :: w) := by
  obtain ⟨body, inner, rfl⟩ := h
  exact .pair rfl inner .nil

/-- The call's parenthesis lies below everything in the body, so it is answered last. -/
theorem emptiesAt_body {body : List Char} (h : Balanced body) (rest : List Char) :
    EmptiesAt (BracketStack.empty.push '(') (body ++ ')' :: rest) (body.length + 1) where
  within := by simp
  emptied := by
    rw [List.take_length_add_append, BracketStack.after_append, h.after]
    rfl
  before := by
    intro j hj
    rw [List.take_append_of_le_length (Nat.le_of_lt_succ hj)]
    have below := h.items_suffix_after_take (BracketStack.empty.push '(') j
    cases shut : ((BracketStack.empty.push '(').after (body.take j)).isEmpty with
    | false => rfl
    | true =>
      rw [BracketStack.isEmpty_iff.mp shut] at below
      exact absurd (List.suffix_nil.mp below) (List.cons_ne_nil _ _)

theorem emptiesAt_call_iff {w : List Char} {k : Nat} :
    EmptiesAt (BracketStack.empty.push '(') w k ↔ k ≤ w.length ∧ ClosesCall (w.take k) := by
  constructor
  · intro h
    obtain ⟨body, c, rest, split, answer, inner, _⟩ := answers_of_emptied h.emptied
    obtain rfl := answer_of_parenthesis.mp answer
    have whole : w = body ++ ')' :: (rest ++ w.drop k) := by
      calc w = w.take k ++ w.drop k := (List.take_append_drop k w).symm
        _ = body ++ ')' :: (rest ++ w.drop k) := by rw [split, List.append_assoc, List.cons_append]
    have last : k = body.length + 1 := h.unique (whole ▸ emptiesAt_body inner _)
    refine ⟨h.within, body, inner, ?_⟩
    rw [last, whole, List.take_length_add_append]
    rfl
  · rintro ⟨within, body, inner, split⟩
    have length : k = body.length + 1 := by
      rw [← List.length_take_of_le within, split, List.length_append, List.length_singleton]
    have whole : w = body ++ ')' :: w.drop k := by
      calc w = w.take k ++ w.drop k := (List.take_append_drop k w).symm
        _ = body ++ ')' :: w.drop k := by rw [split, List.append_assoc, List.singleton_append]
    rw [whole, length]
    exact emptiesAt_body inner _

end CallCapture

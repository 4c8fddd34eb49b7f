import CallCapture.Proofs.Balance
import Mathlib.Logic.Relation

/-! Two brackets that stand side by side and answer each other are a pair. Pairs are deleted in any
order, and what is left is what stands on the stack, the outermost bracket first. -/

namespace CallCapture

def brackets (w : List Char) : List Char := w.filter isBracket

def Reduces : List Char → List Char → Prop := Relation.ReflTransGen Cancels

def Settled (w : List Char) : Prop := ∀ v, ¬ Cancels w v

structure NormalForm (w n : List Char) : Prop where
  reached : Reduces w n
  settled : Settled n

theorem opening?_eq_some_iff {o c : Char} :
    opening? c = some o ↔ (o, c) ∈ [('(', ')'), ('[', ']'), ('{', '}')] := by
  constructor
  · intro h
    unfold opening? at h
    split at h
    all_goals cases h
    all_goals decide
  · intro pair
    simp only [List.mem_cons, Prod.mk.injEq, List.not_mem_nil, or_false] at pair
    rcases pair with ⟨rfl, rfl⟩ | ⟨rfl, rfl⟩ | ⟨rfl, rfl⟩
    all_goals rfl

theorem opening?_of_opening {c : Char} (opens : isOpening c = true) : opening? c = none := by
  rw [Option.eq_none_iff_forall_ne_some]
  intro o h
  rw [(answer_closes h).1] at opens
  cases opens

theorem isBracket_iff {c : Char} : isBracket c = true ↔ c ∈ ['(', ')', '[', ']', '{', '}'] := by
  simp only [isBracket, isOpening, isClosing, Bool.or_eq_true, decide_eq_true_eq, List.mem_cons,
    List.not_mem_nil, or_false]
  tauto

theorem brackets_cons_bracket {c : Char} (bracket : isBracket c = true) (w : List Char) :
    brackets (c :: w) = c :: brackets w := List.filter_cons_of_pos bracket

theorem brackets_cons_plain {c : Char} (plain : isBracket c = false) (w : List Char) :
    brackets (c :: w) = brackets w := by
  apply List.filter_cons_of_neg
  rw [plain]
  exact Bool.false_ne_true

namespace Cancels

variable {a b : List Char}

theorem exists_pair (h : Cancels a b) :
    ∃ u o c v, opening? c = some o ∧ a = u ++ o :: c :: v ∧ b = u ++ v := by
  obtain ⟨u, v, answer⟩ := h
  exact ⟨u, _, _, v, answer, rfl, rfl⟩

theorem length (h : Cancels a b) : b.length + 2 = a.length := by
  obtain ⟨u, v, _⟩ := h
  simp only [List.length_append, List.length_cons]
  omega

theorem wellFounded : WellFounded fun b a => Cancels a b :=
  Subrelation.wf (fun h => Nat.lt_of_lt_of_eq (Nat.lt_add_of_pos_right Nat.two_pos) h.length)
    (measure List.length).wf

theorem append_right (h : Cancels a b) (v : List Char) : Cancels (a ++ v) (b ++ v) := by
  obtain ⟨u, w, answer⟩ := h
  simpa only [List.append_assoc, List.cons_append] using Cancels.pair u (w ++ v) answer

theorem brackets_eq (h : Cancels a b) (all : brackets a = a) : brackets b = b := by
  obtain ⟨u, v, _⟩ := h
  rw [brackets, List.filter_eq_self] at all ⊢
  intro x member
  apply all
  rcases List.mem_append.mp member with left | right
  · exact List.mem_append_left _ left
  · exact List.mem_append_right _ (List.mem_cons_of_mem _ (List.mem_cons_of_mem _ right))

theorem after (h : Cancels a b) (s : BracketStack) : s.after a = s.after b := by
  obtain ⟨u, v, answer⟩ := h
  rw [BracketStack.after_append, BracketStack.after_append, BracketStack.after_cons,
    BracketStack.after_cons, BracketStack.feed_opening _ (answer_opens answer).1,
    BracketStack.feed_answer _ answer]

end Cancels

namespace Reduces

variable {a b : List Char}

theorem brackets_eq (h : Reduces a b) (all : brackets a = a) : brackets b = b := by
  induction h with
  | refl => exact all
  | tail _ step ih => exact step.brackets_eq ih

theorem after (h : Reduces a b) (s : BracketStack) : s.after a = s.after b := by
  induction h with
  | refl => rfl
  | tail _ step ih => exact ih.trans (step.after s)

theorem eq_of_settled (h : Reduces a b) (settled : Settled a) : b = a := by
  cases h.cases_head with
  | inl same => exact same.symm
  | inr more =>
    obtain ⟨c, step, _⟩ := more
    exact absurd step (settled c)

end Reduces

theorem Settled.of_append {u v : List Char} (h : Settled (u ++ v)) : Settled u :=
  fun w step => h (w ++ v) (step.append_right v)

theorem Settled.concat {w : List Char} {c : Char} (h : Settled w)
    (other : ∀ o, opening? c = some o → w.getLast? ≠ some o) : Settled (w ++ [c]) := by
  intro v step
  obtain ⟨u, o, d, rest, answer, whole, _⟩ := step.exists_pair
  cases rest using List.reverseRecOn with
  | nil =>
    have split : w ++ [c] = (u ++ [o]) ++ [d] := by
      rw [whole, List.append_assoc]
      rfl
    obtain ⟨rfl, same⟩ := List.append_inj' split rfl
    cases same
    exact other o answer List.getLast?_concat
  | append_singleton rest last _ =>
    have split : w ++ [c] = (u ++ o :: d :: rest) ++ [last] := by
      rw [whole, List.append_assoc]
      rfl
    obtain ⟨rfl, _⟩ := List.append_inj' split rfl
    exact h (u ++ rest) (.pair u rest answer)

namespace BracketStack

theorem toList_push (s : BracketStack) (c : Char) : (s.push c).toList = s.toList ++ [c] := by
  rw [toList, push_items, List.reverse_cons, toList]

theorem toList_injective {s t : BracketStack} (same : s.toList = t.toList) : s = t := by
  cases s
  cases t
  exact congrArg BracketStack.mk (List.reverse_injective same)

theorem getLast?_toList (s : BracketStack) : s.toList.getLast? = s.top? := by
  rw [toList, List.getLast?_reverse, top?]

theorem after_brackets (s : BracketStack) (w : List Char) : s.after (brackets w) = s.after w := by
  induction w generalizing s with
  | nil => rfl
  | cons c w ih =>
    cases bracket : isBracket c with
    | true =>
      rw [brackets_cons_bracket bracket, after_cons, after_cons]
      exact ih (s.feed c).2
    | false =>
      rw [brackets_cons_plain bracket, after_cons, s.feed_plain bracket]
      exact ih s

theorem settled_feed {s : BracketStack} (h : Settled s.toList) (c : Char) :
    Settled (s.feed c).2.toList := by
  rcases s.feed_cases c with ⟨_, e⟩ | ⟨opens, e⟩ | ⟨o, t, _, rfl, e⟩ | ⟨_, e, other⟩
  · rw [e]
    exact h
  · rw [e, toList_push]
    apply h.concat
    rintro o answer
    rw [opening?_of_opening opens] at answer
    cases answer
  · rw [e]
    rw [toList_push] at h
    exact h.of_append
  · rw [e, toList_push]
    apply h.concat
    rintro o answer last
    rw [getLast?_toList, ← answer] at last
    exact other last

theorem settled_after {s : BracketStack} (h : Settled s.toList) (w : List Char) :
    Settled (s.after w).toList := by
  induction w generalizing s with
  | nil => exact h
  | cons c w ih => exact ih (settled_feed h c)

theorem reduces_after (s : BracketStack) (w : List Char) :
    Reduces (s.toList ++ brackets w) (s.after w).toList := by
  induction w generalizing s with
  | nil =>
    rw [brackets, List.filter_nil, List.append_nil]
    exact .refl
  | cons c w ih =>
    have next := ih (s.feed c).2
    have pushed (bracket : isBracket c = true) (e : (s.feed c).2 = s.push c) :
        Reduces (s.toList ++ brackets (c :: w)) ((s.feed c).2.after w).toList := by
      rw [brackets_cons_bracket bracket, List.append_cons, ← toList_push, ← e]
      exact next
    rw [after_cons]
    rcases s.feed_cases c with ⟨plain, e⟩ | ⟨opens, e⟩ | ⟨o, t, answer, rfl, e⟩ | ⟨closes, e, _⟩
    · rw [brackets_cons_plain plain]
      rw [e] at next ⊢
      exact next
    · exact pushed (by rw [isBracket, opens]; rfl) e
    · have bracket : isBracket c = true := by
        rw [isBracket, (answer_closes answer).2, Bool.or_true]
      rw [brackets_cons_bracket bracket, toList_push, List.append_assoc]
      rw [e] at next ⊢
      exact .head (.pair t.toList (brackets w) answer) next
    · exact pushed (by rw [isBracket, closes, Bool.or_true]) e

/-- Every way to delete pairs leads on to the stack. -/
theorem reduces_stack {w v : List Char} (h : Reduces (brackets w) v) :
    Reduces v (empty.after w).toList := by
  have all : brackets (brackets w) = brackets w := by
    simp only [brackets, List.filter_filter, Bool.and_self]
  have onward := empty.reduces_after v
  rw [h.brackets_eq all, ← h.after, after_brackets] at onward
  exact onward

theorem normalForm_iff {w n : List Char} :
    NormalForm (brackets w) n ↔ n = (empty.after w).toList := by
  constructor
  · rintro ⟨reached, settled⟩
    exact ((reduces_stack reached).eq_of_settled settled).symm
  · rintro rfl
    have nothing : Settled empty.toList := by
      intro v step
      have length := step.length
      simp [toList, empty] at length
    exact ⟨empty.reduces_after w, settled_after nothing w⟩

/-- What a text leaves on the stack is its one normal form. A character is taken for a bracket just
when it is one of six. Pairs can only be deleted so often, every way to delete them leads on to the
stack, and nothing else is left when none remains. So the stack is empty just for a balanced text,
it depends on what has been read by its normal form alone, and a closing bracket that has got onto
it keeps it from ever being empty. -/
theorem after_canonical (w : List Char) :
    (∀ (s : BracketStack) (c : Char), (s.feed c).1 = true ↔ c ∈ ['(', ')', '[', ']', '{', '}']) ∧
    (∀ o c, opening? c = some o ↔ (o, c) ∈ [('(', ')'), ('[', ']'), ('{', '}')]) ∧
    (WellFounded fun b a => Cancels a b) ∧
    (∀ v, Reduces (brackets w) v → Reduces v (empty.after w).toList) ∧
    (∀ n, NormalForm (brackets w) n ↔ n = (empty.after w).toList) ∧
    ((empty.after w).isEmpty = true ↔ Balanced w) ∧
    (∀ u n v, NormalForm (brackets w) n → NormalForm (brackets u) n →
      empty.after (w ++ v) = empty.after (u ++ v)) ∧
    ∀ (s : BracketStack) (x : Char), isClosing x = true → x ∈ s.items →
      ∀ v, (s.after v).isEmpty = false := by
  refine ⟨fun s c => ?_, fun o c => opening?_eq_some_iff, Cancels.wellFounded,
    fun v => reduces_stack, fun n => normalForm_iff, ?_, fun u n v left right => ?_,
    fun s x closes member v => ?_⟩
  · rw [feed_fst]
    exact isBracket_iff
  · rw [isEmpty_iff]
    exact balanced_iff_emptied.symm
  · have same := (normalForm_iff.mp left).symm.trans (normalForm_iff.mp right)
    rw [after_append, after_append, toList_injective same]
  · rw [Bool.eq_false_iff, Ne, isEmpty_iff]
    exact after_not_empty_of_closing closes member v

theorem after_canonical_mismatch :
    NormalForm (brackets "(a]".toList) ['(', ']'] ∧
      (∀ v, empty.after ("(a]".toList ++ v) = empty.after ("{}(b]".toList ++ v)) ∧
      ∀ v, ((empty.after "(a]".toList).after v).isEmpty = false := by
  obtain ⟨_, _, _, _, normal, _, through, stays⟩ := after_canonical "(a]".toList
  obtain ⟨_, _, _, _, normal', _, _, _⟩ := after_canonical "{}(b]".toList
  have left : NormalForm (brackets "(a]".toList) ['(', ']'] := (normal _).mpr (by decide)
  have right : NormalForm (brackets "{}(b]".toList) ['(', ']'] := (normal' _).mpr (by decide)
  exact ⟨left, fun v => through _ _ v left right, stays _ ']' (by decide) (by decide)⟩

end BracketStack

end CallCapture

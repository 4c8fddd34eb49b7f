import CallCapture.Expansion
import Mathlib.Order.Bounds.Basic

namespace CallCapture

/-- A walk back that has taken some steps before may stop on the character with number `i` of what
lies behind it: a capital letter, and not the first character walked over. -/
def StopsBack (taken : Nat) (behind : List Char) (i : Nat) : Prop :=
  0 < taken + i ∧ ∃ c, behind[i]? = some c ∧ isNameStart c = true

theorem stopsBack_cons {taken i : Nat} {c : Char} {behind : List Char} :
    StopsBack taken (c :: behind) (i + 1) ↔ StopsBack (taken + 1) behind i := by
  simp only [StopsBack, List.getElem?_cons_succ, Nat.add_assoc, Nat.add_comm 1]

inductive BackSpec (budget taken : Nat) (behind : List Char) : Nat → Prop
  | stopped (i : Nat) (near : i < budget) (stops : StopsBack taken behind i)
      (first : ∀ j < i, ¬ StopsBack taken behind j) : BackSpec budget taken behind (taken + i + 1)
  | ranOut (never : ∀ i < budget, ¬ StopsBack taken behind i) :
      BackSpec budget taken behind (taken + min budget behind.length)

theorem BackSpec.cons {budget taken n : Nat} {c : Char} {behind : List Char}
    (passed : ¬ StopsBack taken (c :: behind) 0) (h : BackSpec budget (taken + 1) behind n) :
    BackSpec (budget + 1) taken (c :: behind) n := by
  cases h with
  | stopped i near stops first =>
    rw [Nat.add_assoc taken, Nat.add_comm 1]
    refine .stopped (i + 1) (Nat.succ_lt_succ near) (stopsBack_cons.mpr stops) ?_
    intro j hj
    cases j with
    | zero => exact passed
    | succ j => exact fun stops => first j (Nat.lt_of_succ_lt_succ hj) (stopsBack_cons.mp stops)
  | ranOut never =>
    rw [Nat.add_assoc, Nat.add_comm 1, ← Nat.add_min_add_right, ← List.length_cons (a := c)]
    refine .ranOut ?_
    intro i hi
    cases i with
    | zero => exact passed
    | succ i => exact fun stops => never i (Nat.lt_of_succ_lt_succ hi) (stopsBack_cons.mp stops)

theorem stepsBack_spec (budget taken : Nat) (behind : List Char) :
    BackSpec budget taken behind (stepsBack budget taken behind) := by
  -- `taken` varies along the walk: a capital letter counts only once something was walked over
  induction behind generalizing budget taken with
  | nil =>
    have ended : BackSpec budget taken [] (taken + min budget 0) :=
      .ranOut (fun i _ stops => by cases stops.2.choose_spec.1)
    rw [Nat.min_zero] at ended
    unfold stepsBack
    exact ended
  | cons c behind ih =>
    cases budget with
    | zero =>
      have ended : BackSpec 0 taken (c :: behind) (taken + min 0 (c :: behind).length) :=
        .ranOut (fun i near => absurd near (Nat.not_lt_zero i))
      rw [Nat.zero_min] at ended
      exact ended
    | succ budget =>
      unfold stepsBack
      by_cases stop : (isNameStart c && decide (0 < taken)) = true
      · rw [if_pos stop]
        simp only [Bool.and_eq_true, decide_eq_true_eq] at stop
        exact .stopped 0 (Nat.zero_lt_succ _) ⟨stop.2, c, rfl, stop.1⟩
          (fun j hj => absurd hj (Nat.not_lt_zero j))
      · rw [if_neg stop]
        refine (ih budget (taken + 1)).cons ?_
        rintro ⟨walked, x, head, capital⟩
        obtain rfl : c = x := Option.some.inj head
        apply stop
        rw [capital, Bool.true_and, decide_eq_true_eq]
        exact walked

theorem stepsToOpening?_eq_some_iff {budget i : Nat} {ahead : List Char} :
    stepsToOpening? budget ahead = some i ↔
      i < budget ∧ ahead[i]? = some '(' ∧ ∀ j < i, ahead[j]? ≠ some '(' := by
  unfold stepsToOpening?
  rw [List.findIdx?_eq_some_iff_getElem]
  constructor
  · rintro ⟨within, opening, first⟩
    rw [List.length_take, Nat.lt_min] at within
    refine ⟨within.1, ?_, ?_⟩
    · rw [List.getElem?_eq_getElem within.2]
      simpa using opening
    · intro j hj found
      apply first j hj
      obtain ⟨_, at_j⟩ := List.getElem?_eq_some_iff.mp found
      simpa using at_j
  · rintro ⟨near, opening, first⟩
    obtain ⟨within, at_i⟩ := List.getElem?_eq_some_iff.mp opening
    refine ⟨by rw [List.length_take, Nat.lt_min]; exact ⟨near, within⟩, by simpa using at_i, ?_⟩
    intro j hj found
    apply first j hj
    rw [List.getElem?_eq_getElem (Nat.lt_trans hj within)]
    simpa using found

theorem stepsToOpening?_eq_none_iff {budget : Nat} {ahead : List Char} :
    stepsToOpening? budget ahead = none ↔ ∀ i < budget, ahead[i]? ≠ some '(' := by
  unfold stepsToOpening?
  rw [List.findIdx?_eq_none_iff]
  constructor
  · intro h i near found
    have member : '(' ∈ ahead.take budget := by
      apply List.mem_of_getElem? (i := i)
      rw [List.getElem?_take_of_lt near, found]
    have other := h '(' member
    simp at other
  · intro h c member
    obtain ⟨i, at_i⟩ := List.getElem?_of_mem member
    by_cases near : i < budget
    · rw [List.getElem?_take_of_lt near] at at_i
      have other : c ≠ '(' := by
        intro same
        exact h i near (same ▸ at_i)
      simpa using other
    · rw [List.getElem?_take_eq_none (Nat.le_of_not_lt near)] at at_i
      cases at_i

namespace Document

variable {b : Budgets} {d : Document}

/-- A capital letter at an offset on which the walk back from the selection may stop. -/
structure NameAt (b : Budgets) (d : Document) (i : Nat) : Prop where
  before : i + 2 ≤ d.selection.start
  near : d.selection.start - i ≤ b.backward
  capital : ∃ c, d.chars[i]? = some c ∧ isNameStart c = true

/-- Where an anchored selection starts: at the last such capital letter or, without one, as far
back as the budget and the text allow. -/
def AnchorStart (b : Budgets) (d : Document) (a : Nat) : Prop :=
  IsGreatest {i | d.NameAt b i} a ∨
    (∀ i, ¬ d.NameAt b i) ∧ a = d.selection.start - b.backward

structure OpeningAt (b : Budgets) (d : Document) (p : Nat) : Prop where
  after : d.selection.start ≤ p
  near : p - d.selection.start < b.forward
  opening : d.chars[p]? = some '('

theorem AnchorStart.unique {a a' : Nat} (h : d.AnchorStart b a) (h' : d.AnchorStart b a') :
    a = a' := by
  rcases h with greatest | ⟨never, rfl⟩
  · rcases h' with greatest' | ⟨never, _⟩
    · exact greatest.unique greatest'
    · exact absurd greatest.1 (never a)
  · rcases h' with greatest' | ⟨_, rfl⟩
    · exact absurd greatest'.1 (never a')
    · rfl

theorem AnchorStart.le_start {a : Nat} (h : d.AnchorStart b a) : a ≤ d.selection.start := by
  rcases h with greatest | ⟨_, rfl⟩
  · have before := greatest.1.before
    omega
  · exact Nat.sub_le _ _

theorem start_le_length (d : Document) : d.selection.start ≤ d.chars.length :=
  Nat.le_trans d.ordered d.fits

theorem behind_getElem? (d : Document) {j : Nat} (within : j < d.selection.start) :
    (d.chars.take d.selection.start).reverse[j]? = d.chars[d.selection.start - (j + 1)]? := by
  have length : (d.chars.take d.selection.start).length = d.selection.start :=
    List.length_take_of_le d.start_le_length
  rw [List.getElem?_reverse (by rw [length]; exact within), length, List.getElem?_take_of_lt]
  · congr 1
    omega
  · omega

theorem stopsBack_iff_nameAt {j : Nat} (near : j < b.backward) :
    StopsBack 0 (d.chars.take d.selection.start).reverse j ↔
      j < d.selection.start ∧ d.NameAt b (d.selection.start - (j + 1)) := by
  constructor
  · rintro ⟨walked, c, at_j, capital⟩
    have within : j < d.selection.start := by
      obtain ⟨short, _⟩ := List.getElem?_eq_some_iff.mp at_j
      rw [List.length_reverse, List.length_take] at short
      exact Nat.lt_of_lt_of_le short (Nat.min_le_left _ _)
    rw [d.behind_getElem? within] at at_j
    exact ⟨within, by omega, by omega, c, at_j, capital⟩
  · rintro ⟨within, name⟩
    obtain ⟨c, at_j, capital⟩ := name.capital
    have before := name.before
    refine ⟨by omega, c, ?_, capital⟩
    rw [d.behind_getElem? within, at_j]

theorem NameAt.stopsBack {i : Nat} (h : d.NameAt b i) :
    d.selection.start - (i + 1) < b.backward ∧
      StopsBack 0 (d.chars.take d.selection.start).reverse (d.selection.start - (i + 1)) := by
  have before := h.before
  have near := h.near
  have short : d.selection.start - (i + 1) < b.backward := by omega
  have offset : d.selection.start - (d.selection.start - (i + 1) + 1) = i := by omega
  refine ⟨short, (stopsBack_iff_nameAt short).mpr ⟨by omega, ?_⟩⟩
  rw [offset]
  exact h

theorem anchorStart_stepsBack (b : Budgets) (d : Document) :
    d.AnchorStart b
      (d.selection.start - stepsBack b.backward 0 (d.chars.take d.selection.start).reverse) := by
  have walk := stepsBack_spec b.backward 0 (d.chars.take d.selection.start).reverse
  generalize stepsBack b.backward 0 (d.chars.take d.selection.start).reverse = n at walk
  cases walk with
  | stopped j near stops first =>
    rw [Nat.zero_add]
    refine .inl ⟨((stopsBack_iff_nameAt near).mp stops).2, ?_⟩
    intro i name
    obtain ⟨_, earlier⟩ := name.stopsBack
    have before := name.before
    by_cases closer : d.selection.start - (i + 1) < j
    · exact absurd earlier (first _ closer)
    · omega
  | ranOut never =>
    right
    constructor
    · intro i name
      obtain ⟨short, stops⟩ := name.stopsBack
      exact never _ short stops
    · rw [List.length_reverse, List.length_take_of_le d.start_le_length]
      omega

theorem anchor?_eq_none_iff : d.anchor? b = none ↔ ∀ p, ¬ d.OpeningAt b p := by
  unfold anchor?
  rw [Option.map_eq_none_iff, stepsToOpening?_eq_none_iff]
  constructor
  · intro h p found
    apply h (p - d.selection.start) found.near
    rw [List.getElem?_drop, Nat.add_sub_cancel' found.after]
    exact found.opening
  · intro h i near found
    rw [List.getElem?_drop] at found
    refine h (d.selection.start + i) ⟨Nat.le_add_right _ _, ?_, found⟩
    rw [Nat.add_sub_cancel_left]
    exact near

theorem anchor?_eq_some {d' : Document} (h : d.anchor? b = some d') :
    ∃ a p, d.AnchorStart b a ∧ IsLeast {p | d.OpeningAt b p} p ∧ d'.chars = d.chars ∧
      d'.selection = ⟨a, p + 1⟩ := by
  unfold anchor? at h
  obtain ⟨i, steps, rfl⟩ := Option.map_eq_some_iff.mp h
  obtain ⟨near, opening, first⟩ := stepsToOpening?_eq_some_iff.mp steps
  rw [List.getElem?_drop] at opening
  refine ⟨_, d.selection.start + i, d.anchorStart_stepsBack b, ⟨⟨?_, ?_, opening⟩, ?_⟩, rfl, ?_⟩
  · exact Nat.le_add_right _ _
  · rw [Nat.add_sub_cancel_left]
    exact near
  · intro p found
    have after := found.after
    by_cases earlier : p - d.selection.start < i
    · apply absurd _ (first _ earlier)
      rw [List.getElem?_drop, Nat.add_sub_cancel' after]
      exact found.opening
    · omega
  · obtain ⟨within, _⟩ := List.getElem?_eq_some_iff.mp opening
    rw [advance_selection]
    · rfl
    · exact within

end Document

end CallCapture

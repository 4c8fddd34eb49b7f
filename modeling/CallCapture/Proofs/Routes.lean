import CallCapture.Proofs.Expansion
import Mathlib

namespace CallCapture.Document

section

variable {b : Budgets} {d : Document}

theorem probed_selection {c : Char} (next : d.chars[d.selection.stop]? = some c) :
    d.probed.selection = ⟨d.selection.start, d.selection.stop + 1⟩ := by
  obtain ⟨inside, _⟩ := List.getElem?_eq_some_iff.mp next
  exact advance_selection inside

theorem expand_directHit_of_closes {k : Nat} (shown : d.selectsBlank = false)
    (opening : d.chars[d.selection.stop]? = some '(') (near : k ≤ b.balance)
    (closes : d.ClosesCallAt (d.selection.stop + 1) k) :
    (d.expand b).value = Growth.result ⟨.directHit, d.advance (1 + k), 0⟩ := by
  obtain ⟨inside, _⟩ := List.getElem?_eq_some_iff.mp opening
  have hit := (isDirectHit_iff shown inside).mpr opening
  have probed := probed_selection opening
  have closed : d.probed.ClosesCallAt d.probed.selection.stop k := by
    rw [probed]
    exact (ClosesCallAt.of_chars rfl).mpr closes
  have whole : d.probed.advance k = d.advance (1 + k) := by
    apply Document.ext
    · rfl
    · have last : d.selection.stop + (1 + k) ≤ d.length := by
        have room := closes.1
        omega
      rw [advance_selection last, advance_selection closed.1, probed, Nat.add_assoc]
  rw [expand_grown (growth?_direct shown hit), closeCall_closed near closed, whole]

theorem not_closesCallAt_end (k : Nat) : ¬ d.ClosesCallAt d.length k := by
  intro closes
  have some := closes.pos
  have room := closes.1
  omega

theorem closes_of_expand_directHit {text : String} {d' : Document}
    (h : (d.expand b).value = (.ok ⟨text, .directHit⟩, d')) :
    d.chars[d.selection.stop]? = some '(' ∧
      ∃ k ≤ b.balance, d.ClosesCallAt (d.selection.stop + 1) k := by
  obtain ⟨shown, g, grown, route, _, _⟩ := expand_ok h
  rcases growth?_cases shown grown with ⟨hit, rfl⟩ | ⟨_, anchored, _, rfl⟩ | ⟨_, _, rfl⟩
  · obtain ⟨_, k, near, closed⟩ := (closeCall_route_iff rfl).mp route
    have closes := (ClosesCallAt.of_chars d.probed_chars).mp closed
    rcases Nat.lt_or_eq_of_le d.fits with inside | ended
    · rw [isDirectHit_iff shown inside] at hit
      rw [probed_selection hit] at closes
      exact ⟨hit, k, near, closes⟩
    · have stays : d.probed.selection.stop = d.length := by
        have fits : d.selection.stop = d.length := ended
        simp only [probed_eq, advance]
        omega
      rw [stays] at closes
      exact absurd closes (not_closesCallAt_end k)
  · cases ((closeCall_route_iff rfl).mp route).1
  · cases route

theorem not_mismatched_of_closes {k m : Nat} (opening : d.chars[d.selection.stop]? = some '(')
    (closes : d.ClosesCallAt (d.selection.stop + 1) k) (inside : m ≤ d.selection.stop + 1 + k) :
    ¬ Mismatched (d.slice ⟨d.selection.stop, m⟩) := by
  intro wrong
  have whole : Balanced (d.slice ⟨d.selection.stop, d.selection.stop + 1 + k⟩) := by
    rw [d.slice_cons opening (by omega)]
    exact closes.2.balanced_call
  rcases Nat.le_total d.selection.stop m with later | earlier
  · rw [← d.slice_append later inside] at whole
    exact whole.not_mismatched (wrong.append _)
  · have nothing : d.slice ⟨d.selection.stop, m⟩ = [] := by
      simp only [slice, Span.size, Nat.sub_eq_zero_of_le earlier, List.take_zero]
    rw [nothing] at wrong
    exact Balanced.nil.not_mismatched wrong

/-- An expansion ends as a direct hit just when the character after the selection opens a call that
is closed within the balance budget. The place where it is closed is unique, and the selection ends
there. A bracket that is answered by one of another kind before the call is closed rules it out. -/
theorem expand_directHit_iff_closesCall (b : Budgets) (d : Document)
    (shown : d.selectsBlank = false) :
    ((∃ text d', (d.expand b).value = (.ok ⟨text, .directHit⟩, d')) ↔
      d.chars[d.selection.stop]? = some '(' ∧
        ∃ k, 1 ≤ k ∧ k ≤ b.balance ∧ d.ClosesCallAt (d.selection.stop + 1) k) ∧
    (∀ j k, d.ClosesCallAt (d.selection.stop + 1) j →
      d.ClosesCallAt (d.selection.stop + 1) k → j = k) ∧
    (∀ k text d', (d.expand b).value = (.ok ⟨text, .directHit⟩, d') →
      d.ClosesCallAt (d.selection.stop + 1) k →
      d'.chars = d.chars ∧ d'.selection = ⟨d.selection.start, d.selection.stop + 1 + k⟩ ∧
        text = String.ofList
          (Text.trim (d.slice ⟨d.selection.start, d.selection.stop + 1 + k⟩))) ∧
    (∀ m, Mismatched (d.slice ⟨d.selection.stop, m⟩) →
      (∀ k, d.ClosesCallAt (d.selection.stop + 1) k → m ≤ d.selection.stop + 1 + k) →
      ¬ ∃ text d', (d.expand b).value = (.ok ⟨text, .directHit⟩, d')) := by
  refine ⟨⟨?_, ?_⟩, fun j k hj hk => hj.unique hk, ?_, ?_⟩
  · rintro ⟨text, d', h⟩
    obtain ⟨opening, k, near, closes⟩ := closes_of_expand_directHit h
    exact ⟨opening, k, closes.pos, near, closes⟩
  · rintro ⟨opening, k, _, near, closes⟩
    exact ⟨_, _, expand_directHit_of_closes shown opening near closes⟩
  · intro k text d' h closes
    obtain ⟨opening, j, near, closed⟩ := closes_of_expand_directHit h
    obtain rfl := closed.unique closes
    have whole := expand_directHit_of_closes shown opening near closes
    have last : (d.advance (1 + j)).selection
        = ⟨d.selection.start, d.selection.stop + 1 + j⟩ := by
      rw [Nat.add_assoc]
      exact advance_selection (Nat.add_assoc _ _ _ ▸ closes.1)
    rw [h] at whole
    cases whole
    refine ⟨rfl, last, ?_⟩
    rw [selected, last, slice_congr (d.advance_chars _)]
  · rintro m wrong unclosed ⟨text, d', h⟩
    obtain ⟨opening, k, _, closes⟩ := closes_of_expand_directHit h
    exact not_mismatched_of_closes opening closes (unclosed k closes) wrong

theorem expand_directHit_nested :
    ((ofString "Row([f{x}], g()) ]").select 0 3).selectsBlank = false ∧
      ∃ d', (((ofString "Row([f{x}], g()) ]").select 0 3).expand {}).value =
        (.ok ⟨"Row([f{x}], g())", .directHit⟩, d') := by
  have shown : ((ofString "Row([f{x}], g()) ]").select 0 3).selectsBlank = false := by decide
  have closes : ((ofString "Row([f{x}], g()) ]").select 0 3).ClosesCallAt 4 12 :=
    ⟨by decide, "[f{x}], g()".toList, by decide, by decide⟩
  obtain ⟨direct, _, ends, _⟩ := expand_directHit_iff_closesCall {} _ shown
  obtain ⟨text, d', h⟩ := direct.mpr ⟨by decide, 12, by decide, by decide, closes⟩
  obtain ⟨_, _, rfl⟩ := ends 12 text d' h closes
  exact ⟨shown, d', h⟩

end

section

variable {b : Budgets} {d : Document}

/-- The character that the probe looks at is no opening parenthesis. -/
def ProbeMisses (d : Document) : Prop :=
  (d.selection.stop < d.length ∧ d.chars[d.selection.stop]? ≠ some '(') ∨
    (d.selection.stop = d.length ∧ d.chars[d.length - 1]? ≠ some '(')

theorem ProbeMisses.not_hit (h : d.ProbeMisses) (shown : d.selectsBlank = false) :
    d.isDirectHit = false := by
  apply Bool.eq_false_of_not_eq_true
  intro hit
  rcases h with ⟨inside, other⟩ | ⟨ended, other⟩
  · exact other ((isDirectHit_iff shown inside).mp hit)
  · exact other ((isDirectHit_iff_of_end shown ended).mp hit)

theorem expand_kept (shown : d.selectsBlank = false) (miss : d.isDirectHit = false)
    (missing : ∀ p, ¬ d.OpeningAt b p) :
    (d.expand b).value = Growth.result ⟨.noOpeningBracket, d, 0⟩ :=
  expand_grown (growth?_kept shown miss (anchor?_eq_none_iff.mpr missing))

theorem anchor?_of_bounds {a p : Nat} (start : d.AnchorStart b a)
    (first : IsLeast {p | d.OpeningAt b p} p) :
    ∃ anchored, d.anchor? b = some anchored ∧ anchored.chars = d.chars ∧
      anchored.selection = ⟨a, p + 1⟩ := by
  cases found : d.anchor? b with
  | none => exact absurd first.1 (anchor?_eq_none_iff.mp found p)
  | some anchored =>
    obtain ⟨a', p', start', first', chars, selection⟩ := anchor?_eq_some found
    rw [start'.unique start, first'.unique first] at selection
    exact ⟨anchored, rfl, chars, selection⟩

theorem closeCall_anchored {anchored : Document} {a p k : Nat} (chars : anchored.chars = d.chars)
    (selection : anchored.selection = ⟨a, p + 1⟩) (near : k ≤ b.balance)
    (closes : d.ClosesCallAt (p + 1) k) :
    ∃ d', anchored.closeCall b .anchored = ⟨.anchored, d', 0⟩ ∧ d'.chars = d.chars ∧
      d'.selection = ⟨a, p + 1 + k⟩ := by
  have closed : anchored.ClosesCallAt anchored.selection.stop k := by
    rw [selection]
    exact (ClosesCallAt.of_chars chars).mpr closes
  refine ⟨anchored.advance k, closeCall_closed near closed _, chars, ?_⟩
  rw [advance_selection closed.1, selection]

/-- The closed form of an expansion that is no direct hit. -/
theorem expand_anchored_closed_form (b : Budgets) (d : Document)
    (shown : d.selectsBlank = false) (miss : d.ProbeMisses) :
    (∃! a, d.AnchorStart b a) ∧
    ((∀ p, ¬ d.OpeningAt b p) →
      (d.expand b).value =
        (.ok ⟨String.ofList (Text.trim d.selected), .noOpeningBracket⟩, d)) ∧
    (∀ a p, d.AnchorStart b a → IsLeast {p | d.OpeningAt b p} p →
      ∃ text route d', (d.expand b).value = (.ok ⟨text, route⟩, d') ∧
        d'.chars = d.chars ∧ d'.selection.start = a ∧
        (route = .anchored ↔ ∃ k ≤ b.balance, d.ClosesCallAt (p + 1) k) ∧
        (∀ k ≤ b.balance, d.ClosesCallAt (p + 1) k →
          d'.selection = ⟨a, p + 1 + k⟩ ∧
            text = String.ofList (Text.trim (d.slice ⟨a, p + 1 + k⟩)))) := by
  have noHit := miss.not_hit shown
  refine ⟨⟨_, d.anchorStart_stepsBack b, fun a start => start.unique (d.anchorStart_stepsBack b)⟩,
    fun missing => expand_kept shown noHit missing, ?_⟩
  intro a p start first
  obtain ⟨anchored, found, chars, selection⟩ := anchor?_of_bounds start first
  have grown := expand_grown (growth?_anchored shown noHit found)
  refine ⟨_, _, _, grown, ?_, ?_, ?_, ?_⟩
  · rw [closeCall_chars, chars]
  · rw [closeCall_start, selection]
  · rw [closeCall_route_iff rfl, selection]
    simp only [true_and, ClosesCallAt.of_chars chars]
  · intro k near closes
    obtain ⟨d', whole, chars', last⟩ := closeCall_anchored chars selection near closes
    rw [whole]
    refine ⟨last, ?_⟩
    rw [selected, last, slice_congr chars']

theorem expand_anchored_two_back :
    ((ofString "child: Text ('Hi')").select 9 11).selectsBlank = false ∧
      ((ofString "child: Text ('Hi')").select 9 11).ProbeMisses ∧
      ∃ d', (((ofString "child: Text ('Hi')").select 9 11).expand {}).value =
        (.ok ⟨"Text ('Hi')", .anchored⟩, d') := by
  have shown : ((ofString "child: Text ('Hi')").select 9 11).selectsBlank = false := by decide
  have miss : ((ofString "child: Text ('Hi')").select 9 11).ProbeMisses :=
    .inl ⟨by decide, by decide⟩
  have start : ((ofString "child: Text ('Hi')").select 9 11).AnchorStart {} 7 :=
    .inl ⟨⟨by decide, by decide, 'T', by decide, rfl⟩, fun i name => by
      have before : i + 2 ≤ 9 := name.before
      omega⟩
  have first : IsLeast {p | ((ofString "child: Text ('Hi')").select 9 11).OpeningAt {} p} 12 := by
    refine ⟨⟨by decide, by decide, by decide⟩, ?_⟩
    intro p found
    have after : 9 ≤ p := found.after
    have opening := found.opening
    by_contra earlier
    obtain rfl | rfl | rfl : p = 9 ∨ p = 10 ∨ p = 11 := by omega
    all_goals exact absurd opening (by decide)
  have closes : ((ofString "child: Text ('Hi')").select 9 11).ClosesCallAt 13 5 :=
    ⟨by decide, "'Hi'".toList, by decide, by decide⟩
  obtain ⟨_, _, closed⟩ := expand_anchored_closed_form {} _ shown miss
  obtain ⟨text, route, d', h, _, _, anchored, ends⟩ := closed 7 12 start first
  obtain rfl := anchored.mpr ⟨5, by decide, closes⟩
  obtain ⟨_, rfl⟩ := ends 5 (by decide) closes
  exact ⟨shown, miss, d', h⟩

theorem bounds_of_expand_anchored {text : String} {d' : Document}
    (h : (d.expand b).value = (.ok ⟨text, .anchored⟩, d')) :
    ∃ a p k, d.AnchorStart b a ∧ IsLeast {p | d.OpeningAt b p} p ∧ k ≤ b.balance ∧
      d.ClosesCallAt (p + 1) k ∧ d'.chars = d.chars ∧ d'.selection = ⟨a, p + 1 + k⟩ ∧
      text = String.ofList (Text.trim (d.slice ⟨a, p + 1 + k⟩)) := by
  obtain ⟨shown, g, grown, route, rfl, text⟩ := expand_ok h
  rcases growth?_cases shown grown with ⟨_, rfl⟩ | ⟨_, anchored, found, rfl⟩ | ⟨_, _, rfl⟩
  · cases ((closeCall_route_iff rfl).mp route).1
  · obtain ⟨a, p, start, first, chars, selection⟩ := anchor?_eq_some found
    obtain ⟨_, k, near, closed⟩ := (closeCall_route_iff rfl).mp route
    rw [selection, ClosesCallAt.of_chars chars] at closed
    obtain ⟨d', whole, chars', last⟩ := closeCall_anchored chars selection near closed
    rw [whole] at text ⊢
    rw [selected, last, slice_congr chars'] at text
    exact ⟨a, p, k, start, first, near, closed, chars', last, text⟩
  · cases route

theorem opening_not_mem_before {p : Nat} (first : IsLeast {p | d.OpeningAt b p} p) :
    '(' ∉ d.slice ⟨d.selection.start, p⟩ := by
  intro member
  obtain ⟨k, later, earlier, at_k⟩ := d.mem_slice member
  have near := first.1.near
  have found : d.OpeningAt b k := ⟨later, by omega, at_k⟩
  exact absurd (first.2 found) (Nat.not_le_of_lt earlier)

/-- An anchored text ends with a balanced call. That call starts at the first opening parenthesis
of the text just when the walk back passed over none. -/
theorem anchored_text_balanced_iff (b : Budgets) (d d' : Document) (text : String)
    (h : (d.expand b).value = (.ok ⟨text, .anchored⟩, d')) :
    (∃ w body, text.toList = w ++ '(' :: (body ++ [')']) ∧ Balanced body) ∧
    ((∃ w body, text.toList = w ++ '(' :: (body ++ [')']) ∧ '(' ∉ w ∧ Balanced body) ↔
      '(' ∉ d.slice ⟨d'.selection.start, d.selection.start⟩) := by
  obtain ⟨a, p, k, start, first, _, closes, _, selection, rfl⟩ := bounds_of_expand_anchored h
  obtain ⟨room, body, inner, call⟩ := closes
  have after := first.1.after
  have front : d.slice ⟨a, p + 1 + k⟩ =
      (d.slice ⟨a, d.selection.start⟩ ++ d.slice ⟨d.selection.start, p⟩) ++
        '(' :: (body ++ [')']) := by
    rw [← call, ← d.slice_cons first.1.opening (by omega), d.slice_append start.le_start after,
      d.slice_append (Nat.le_trans start.le_start after) (by omega)]
  have visible : Text.isBlank '(' = false := by decide
  have passed : '(' ∈ d.slice ⟨a, d.selection.start⟩ ↔
      '(' ∈ (d.slice ⟨a, d.selection.start⟩ ++ d.slice ⟨d.selection.start, p⟩).dropWhile
        Text.isBlank := by
    rw [Text.mem_dropWhile_isBlank visible, List.mem_append,
      or_iff_left (opening_not_mem_before first)]
  rw [selection, String.toList_ofList, front, Text.trim_call, passed]
  refine ⟨⟨_, body, rfl, inner⟩, ?_, ?_⟩
  · rintro ⟨w, body', same, none, whole⟩
    exact opening_not_mem_of_balanced inner whole none same
  · intro none
    exact ⟨_, body, rfl, none, inner⟩

theorem expand_anchored_over_opening :
    (((ofString "Foo(bar x (y))").select 8 9).expand {}).value =
      (.ok ⟨"Foo(bar x (y)", .anchored⟩, (ofString "Foo(bar x (y))").select 0 13) := by
  apply Prod.ext
  · cbv
  · apply Document.ext
    · cbv
    · cbv

theorem anchored_text_bracket_skipped :
    (((ofString "Foo(bar x (y))").select 8 9).expand {}).value =
        (.ok ⟨"Foo(bar x (y)", .anchored⟩, (ofString "Foo(bar x (y))").select 0 13) ∧
      (∃ w body, "Foo(bar x (y)".toList = w ++ '(' :: (body ++ [')']) ∧ Balanced body) ∧
      ¬ ∃ w body, "Foo(bar x (y)".toList = w ++ '(' :: (body ++ [')']) ∧ '(' ∉ w ∧
        Balanced body := by
  have spec := anchored_text_balanced_iff {} _ _ _ expand_anchored_over_opening
  refine ⟨expand_anchored_over_opening, spec.1, ?_⟩
  rw [spec.2]
  decide

/-- An anchored text need not be a balanced call: a parenthesis that was opened between the name
and the selection is never closed. -/
theorem anchored_text_not_always_balanced :
    ¬ ∀ (b : Budgets) (d d' : Document) (text : String),
      (d.expand b).value = (.ok ⟨text, .anchored⟩, d') →
        ∃ w body, text.toList = w ++ '(' :: (body ++ [')']) ∧ '(' ∉ w ∧ Balanced body := by
  intro always
  obtain ⟨w, body, same, none, whole⟩ := always {} _ _ _ expand_anchored_over_opening
  have inner : Balanced ['y'] := by decide
  have skipped : "Foo(bar x (y)".toList = "Foo(bar x ".toList ++ '(' :: (['y'] ++ [')']) := by
    decide
  exact opening_not_mem_of_balanced inner whole none (skipped.symm.trans same) (by decide)

end

end CallCapture.Document

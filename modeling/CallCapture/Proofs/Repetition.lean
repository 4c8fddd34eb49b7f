import CallCapture.Proofs.Probing
import CallCapture.Proofs.Routes

/-! A direct hit leaves its call selected. Expanded again at once, that selection is no longer taken
for a name: it is anchored, and grows back. -/

namespace CallCapture

namespace Document

variable {b : Budgets} {d d' : Document} {a p : Nat} {text : String}

theorem eq_of_expand_directHit (h : (d.expand b).value = (.ok ⟨text, .directHit⟩, d')) :
    ∃ k ≤ b.balance, d.chars[d.selection.stop]? = some '(' ∧
      d.ClosesCallAt (d.selection.stop + 1) k ∧ d' = d.advance (1 + k) ∧
      d'.selection = ⟨d.selection.start, d.selection.stop + 1 + k⟩ ∧
      text = String.ofList (Text.trim (d.slice d'.selection)) := by
  obtain ⟨shown, _⟩ := expand_ok h
  obtain ⟨opening, k, near, closes⟩ := closes_of_expand_directHit h
  have whole := h.symm.trans (expand_directHit_of_closes shown opening near closes)
  cases whole
  have selection : (d.advance (1 + k)).selection =
      ⟨d.selection.start, d.selection.stop + 1 + k⟩ := by
    rw [Nat.add_assoc]
    exact advance_selection (Nat.add_assoc _ _ _ ▸ closes.1)
  refine ⟨k, near, opening, closes, rfl, selection, ?_⟩
  rw [selected, slice_congr (d.advance_chars _)]

theorem shown_of_expand {route : Route} (h : (d.expand b).value = (.ok ⟨text, route⟩, d')) :
    d'.selectsBlank = false := by
  obtain ⟨shown, _⟩ := expand_ok h
  obtain ⟨_, _, again, shown', _⟩ := expand_shown b shown
  cases h.symm.trans again
  exact shown'

theorem anchor?_advance (b : Budgets) (d : Document) (n : Nat) :
    (d.advance n).anchor? b = d.anchor? b := rfl

theorem probeMisses_again (h : (d.expand b).value = (.ok ⟨text, .directHit⟩, d'))
    (next : d'.chars[d'.selection.stop]? ≠ some '(') : d'.ProbeMisses := by
  obtain ⟨k, _, _, closes, rfl, selection, _⟩ := eq_of_expand_directHit h
  rcases Nat.lt_or_eq_of_le (d.advance (1 + k)).fits with inside | ended
  · exact .inl ⟨inside, next⟩
  · -- at the end of the text the probe sees the parenthesis that closes the call
    refine .inr ⟨ended, ?_⟩
    have last := closes.last
    rw [selection] at ended
    rw [Document.length, ← ended, advance_chars, last]
    decide

theorem growth?_again (h : (d.expand b).value = (.ok ⟨text, .directHit⟩, d'))
    (next : d'.chars[d'.selection.stop]? ≠ some '(') :
    d'.growth? b = some (d'.anchoredGrowth b) := by
  have shown := shown_of_expand h
  exact growth?_of_miss b shown ((probeMisses_again h next).not_hit shown)

theorem expand_again_kept (h : (d.expand b).value = (.ok ⟨text, .directHit⟩, d'))
    (next : d'.chars[d'.selection.stop]? ≠ some '(') (missing : ∀ p, ¬ d.OpeningAt b p) :
    (d'.expand b).value = (.ok ⟨text, .noOpeningBracket⟩, d') := by
  obtain ⟨k, _, _, _, rfl, _, trimmed⟩ := eq_of_expand_directHit h
  have kept : (d.advance (1 + k)).anchoredGrowth b =
      ⟨.noOpeningBracket, d.advance (1 + k), 0⟩ := by
    rw [anchoredGrowth, anchor?_advance, anchor?_eq_none_iff.mpr missing]
  rw [expand_grown (growth?_again h next), kept, Growth.result, trimmed, selected,
    slice_congr (d.advance_chars _)]

theorem expand_again_anchored (h : (d.expand b).value = (.ok ⟨text, .directHit⟩, d'))
    (next : d'.chars[d'.selection.stop]? ≠ some '(') (start : d.AnchorStart b a)
    (first : IsLeast {p | d.OpeningAt b p} p) :
    ∃ opened : Document, opened.chars = d.chars ∧ opened.selection = ⟨a, p + 1⟩ ∧
      (d'.expand b).value = (opened.closeCall b .anchored).result := by
  obtain ⟨opened, found, chars, selection⟩ := anchor?_of_bounds start first
  obtain ⟨k, _, _, _, rfl, _⟩ := eq_of_expand_directHit h
  refine ⟨opened, chars, selection, ?_⟩
  rw [expand_grown (growth?_again h next), anchoredGrowth, anchor?_advance, found]

theorem first_of_name (opening : d.chars[d.selection.stop]? = some '(')
    (name : '(' ∉ d.selected) (first : IsLeast {p | d.OpeningAt b p} p) :
    p = d.selection.stop := by
  have after := first.1.after
  have near := first.1.near
  apply Nat.le_antisymm
  · by_contra later
    have earlier : d.OpeningAt b d.selection.stop := ⟨d.ordered, by omega, opening⟩
    exact later (first.2 earlier)
  · by_contra inside
    apply name
    obtain ⟨i, rfl⟩ := Nat.exists_eq_add_of_le after
    apply List.mem_of_getElem? (i := i)
    rw [selected, d.slice_getElem? (i := d.selection.start) (j := d.selection.stop) (by omega)]
    exact first.1.opening

theorem expand_again_name (h : (d.expand b).value = (.ok ⟨text, .directHit⟩, d'))
    (next : d'.chars[d'.selection.stop]? ≠ some '(') (name : '(' ∉ d.selected)
    (start : d.AnchorStart b a) (first : IsLeast {p | d.OpeningAt b p} p) :
    ∃ again d'', (d'.expand b).value = (.ok ⟨again, .anchored⟩, d'') ∧
      d''.selection = ⟨a, d'.selection.stop⟩ ∧
      (again = text ↔ Text.AllBlank (d.slice ⟨a, d.selection.start⟩)) := by
  obtain ⟨opened, chars, bounds, second⟩ := expand_again_anchored h next start first
  obtain ⟨k, near, opening, closes, rfl, selection, trimmed⟩ := eq_of_expand_directHit h
  obtain rfl := first_of_name opening name first
  obtain ⟨d'', closed, chars', selection'⟩ := closeCall_anchored chars bounds near closes
  rw [closed] at second
  refine ⟨_, d'', second, by rw [selection', selection], ?_⟩
  have call : d.slice ⟨d.selection.start, d.selection.stop + 1 + k⟩ =
      d.selected ++ '(' :: d.slice ⟨d.selection.stop + 1, d.selection.stop + 1 + k⟩ := by
    rw [← d.slice_append d.ordered (by omega), d.slice_cons opening (by omega), selected]
  have whole : d''.selected = d.slice ⟨a, d.selection.start⟩ ++
      (d.selected ++ '(' :: d.slice ⟨d.selection.stop + 1, d.selection.stop + 1 + k⟩) := by
    have ordered := d.ordered
    rw [selected, selection', slice_congr chars', ← call,
      d.slice_append start.le_start (by omega)]
  rw [trimmed, whole, selection, call, String.ofList_inj]
  exact Text.trim_append_opening_eq_iff

/-- After a direct hit, a second expansion of the selection as it is then gives the text again if no
parenthesis is within reach of the walk ahead. Otherwise it is anchored, and gives the same text
only if that is what its own selection shows; where the old selection was a name without
parentheses, only if nothing but blanks stands between the new start and the old one. -/
theorem expand_again_sameText_iff (b : Budgets) (d d' : Document) (text : String)
    (h : (d.expand b).value = (.ok ⟨text, .directHit⟩, d'))
    (next : d'.chars[d'.selection.stop]? ≠ some '(') :
    ((∀ p, ¬ d.OpeningAt b p) →
      (d'.expand b).value = (.ok ⟨text, .noOpeningBracket⟩, d')) ∧
    (∀ a p, d.AnchorStart b a → IsLeast {p | d.OpeningAt b p} p →
      ∃ again route d'', (d'.expand b).value = (.ok ⟨again, route⟩, d'') ∧
        d''.chars = d.chars ∧ d''.selection = ⟨a, p + 1 + d.reach b (p + 1)⟩ ∧
        (again = text ↔ Text.trim (d.slice d''.selection) = Text.trim (d.slice d'.selection)) ∧
        ('(' ∉ d.selected →
          route = .anchored ∧ d''.selection.stop = d'.selection.stop ∧
            (again = text ↔ Text.AllBlank (d.slice ⟨a, d.selection.start⟩)))) := by
  refine ⟨expand_again_kept h next, ?_⟩
  intro a p start first
  obtain ⟨opened, chars, bounds, second⟩ := expand_again_anchored h next start first
  obtain ⟨_, _, _, _, _, _, trimmed⟩ := eq_of_expand_directHit h
  have same : (opened.closeCall b .anchored).grown.chars = d.chars :=
    (closeCall_chars _ _ _).trans chars
  refine ⟨_, _, _, second, same, ?_, ?_, ?_⟩
  · rw [closeCall_selection, bounds, reach, chars]
    rfl
  · rw [trimmed, selected, slice_congr same, String.ofList_inj]
  · intro name
    obtain ⟨_, _, third, selection, blanks⟩ := expand_again_name h next name start first
    have same := second.symm.trans third
    simp only [Growth.result, Prod.mk.injEq, Except.ok.injEq, Expansion.mk.injEq] at same
    obtain ⟨⟨rfl, route⟩, rfl⟩ := same
    exact ⟨route, by rw [selection], blanks⟩

/-- The text may be the same though the selection is not. -/
example : (((ofString "A()A()A()").select 3 7).expand {}).value =
      (.ok ⟨"A()A()", .directHit⟩, (ofString "A()A()A()").select 3 9) ∧
    (((ofString "A()A()A()").select 3 9).expand {}).value =
      (.ok ⟨"A()A()", .anchored⟩, (ofString "A()A()A()").select 0 6) := by
  refine ⟨Prod.ext ?_ (Document.ext ?_ ?_), Prod.ext ?_ (Document.ext ?_ ?_)⟩
  all_goals cbv

theorem expand_text_in_body :
    (((ofString "body: Text('a'),").select 6 10).expand {}).value =
      (.ok ⟨"Text('a')", .directHit⟩, (ofString "body: Text('a'),").select 6 15) := by
  apply Prod.ext
  · cbv
  · apply Document.ext
    · cbv
    · cbv

theorem expand_again_text_in_body :
    let d := (ofString "body: Text('a'),").select 6 10
    let d' := (ofString "body: Text('a'),").select 6 15
    (d.expand {}).value = (.ok ⟨"Text('a')", .directHit⟩, d') ∧
      d'.chars[d'.selection.stop]? ≠ some '(' ∧ d.AnchorStart {} 0 ∧
      IsLeast {p | d.OpeningAt {} p} 10 ∧ '(' ∉ d.selected ∧
      ∃ again d'', (d'.expand {}).value = (.ok ⟨again, .anchored⟩, d'') ∧
        d''.selection = ⟨0, 15⟩ ∧ again ≠ "Text('a')" := by
  intro d d'
  have next : d'.chars[d'.selection.stop]? ≠ some '(' := by decide
  have name : '(' ∉ d.selected := by decide
  have lower : ∀ i < 6, d.chars[i]?.any isNameStart = false := by decide
  have start : d.AnchorStart {} 0 := by
    refine .inr ⟨?_, rfl⟩
    intro i found
    obtain ⟨c, at_i, capital⟩ := found.capital
    have before : i + 2 ≤ 6 := found.before
    have small := lower i (by omega)
    rw [at_i, Option.any_some, capital] at small
    cases small
  have first : IsLeast {p | d.OpeningAt {} p} 10 := by
    have none : ∀ i < 10, d.chars[i]? ≠ some '(' := by decide
    refine ⟨⟨by decide, by decide, by decide⟩, ?_⟩
    intro p found
    by_contra earlier
    exact none p (by omega) found.opening
  obtain ⟨_, anchored⟩ := expand_again_sameText_iff {} d d' _ expand_text_in_body next
  obtain ⟨again, route, d'', second, _, selection, _, grows⟩ := anchored 0 10 start first
  obtain ⟨rfl, stop, blanks⟩ := grows name
  refine ⟨expand_text_in_body, next, start, first, name, again, d'', second, ?_, ?_⟩
  · exact congrArg₂ Span.mk (congrArg Span.start selection) stop
  · rw [Ne, blanks]
    intro blank
    exact absurd (blank 'b' (by decide)) (by decide)

/-- Expanding a finished call again does not always give its text again. -/
theorem expand_again_not_always_same :
    ¬ ∀ (b : Budgets) (d d' : Document) (text : String),
      (d.expand b).value = (.ok ⟨text, .directHit⟩, d') →
        d'.chars[d'.selection.stop]? ≠ some '(' →
          ∃ route d'', (d'.expand b).value = (.ok ⟨text, route⟩, d'') := by
  intro always
  obtain ⟨route, d'', second⟩ := always {} _ _ _ expand_text_in_body (by decide)
  have grown : (((ofString "body: Text('a'),").select 6 15).expand {}).value.1 =
      .ok ⟨"body: Text('a')", .anchored⟩ := by cbv
  rw [second] at grown
  have texts : "Text('a')" = "body: Text('a')" := congrArg Expansion.text (Except.ok.inj grown)
  exact absurd texts (by decide)

end Document

end CallCapture

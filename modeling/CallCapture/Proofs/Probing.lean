import CallCapture.Proofs.Ending
import CallCapture.Proofs.Routes

/-! At the end of a document the probe covers no new character and looks at the last one of the
selection once more. -/

namespace CallCapture

def Budgets.routeAtEnd (b : Budgets) : Route :=
  if b.balance = 0 then .budgetExhausted else .endOfDocument

namespace Document

variable {b : Budgets} {d : Document} {a p : Nat}

/-- What the anchored walk leads to: the call that the first parenthesis ahead opens is closed;
without a parenthesis within the budget the selection is kept. -/
def anchoredGrowth (b : Budgets) (d : Document) : Growth :=
  match d.anchor? b with
  | some anchored => anchored.closeCall b .anchored
  | none => ⟨.noOpeningBracket, d, 0⟩

theorem growth?_of_miss (b : Budgets) (shown : d.selectsBlank = false)
    (miss : d.isDirectHit = false) : d.growth? b = some (d.anchoredGrowth b) := by
  unfold anchoredGrowth
  cases found : d.anchor? b with
  | none => exact growth?_kept shown miss found
  | some anchored => exact growth?_anchored shown miss found

theorem anchoredGrowth_of_missing (missing : ∀ p, ¬ d.OpeningAt b p) :
    d.anchoredGrowth b = ⟨.noOpeningBracket, d, 0⟩ := by
  rw [anchoredGrowth, anchor?_eq_none_iff.mpr missing]

theorem anchoredGrowth_of_bounds (start : d.AnchorStart b a)
    (first : IsLeast {p | d.OpeningAt b p} p) :
    ∃ opened : Document, opened.chars = d.chars ∧ opened.selection = ⟨a, p + 1⟩ ∧
      d.anchoredGrowth b = opened.closeCall b .anchored := by
  obtain ⟨opened, found, chars, selection⟩ := anchor?_of_bounds start first
  refine ⟨opened, chars, selection, ?_⟩
  rw [anchoredGrowth, found]

theorem anchoredGrowth_cases (b : Budgets) (d : Document) :
    ((∀ p, ¬ d.OpeningAt b p) ∧ d.anchoredGrowth b = ⟨.noOpeningBracket, d, 0⟩) ∨
      ∃ a p, ∃ opened : Document, d.AnchorStart b a ∧ IsLeast {p | d.OpeningAt b p} p ∧
        opened.chars = d.chars ∧ opened.selection = ⟨a, p + 1⟩ ∧
        d.anchoredGrowth b = opened.closeCall b .anchored := by
  cases found : d.anchor? b with
  | none =>
    have missing := anchor?_eq_none_iff.mp found
    exact .inl ⟨missing, anchoredGrowth_of_missing missing⟩
  | some opened =>
    obtain ⟨a, p, start, first, chars, selection⟩ := anchor?_eq_some found
    refine .inr ⟨a, p, opened, start, first, chars, selection, ?_⟩
    rw [anchoredGrowth, found]

theorem anchorStart_start_iff :
    d.AnchorStart b d.selection.start ↔ d.selection.start = 0 ∨ b.backward = 0 := by
  constructor
  · rintro (greatest | ⟨_, stays⟩)
    · have before := greatest.1.before
      omega
    · omega
  · intro nowhere
    refine .inr ⟨?_, by omega⟩
    intro i name
    have before := name.before
    have near := name.near
    omega

theorem closeCall_of_end (ended : d.selection.stop = d.length) (route : Route) :
    (d.closeCall b route).route = b.routeAtEnd ∧ (d.closeCall b route).grown = d := by
  have nothing : d.chars.drop d.selection.stop = [] := by
    rw [ended]
    exact List.drop_length
  have opened : (BracketStack.empty.push '(').isEmpty = false := rfl
  unfold closeCall Budgets.routeAtEnd
  rw [nothing]
  simp only [closeBrackets, opened, Bool.false_eq_true, if_false]
  by_cases spent : b.balance = 0
  · simp only [if_pos spent, advance_zero, and_self]
  · simp only [if_neg spent, advance_zero, and_self]

/-- A last character that opens a call is a hit, though the probe covers nothing new. -/
theorem expand_of_lastOpening (b : Budgets) (shown : d.selectsBlank = false)
    (ended : d.selection.stop = d.length) (last : d.chars[d.length - 1]? = some '(') :
    (d.expand b).value = (.ok ⟨String.ofList (Text.trim d.selected), b.routeAtEnd⟩, d) := by
  have hit := (isDirectHit_iff_of_end shown ended).mpr last
  have stays : d.probed = d := advance_end ended 1
  obtain ⟨route, grown⟩ := closeCall_of_end (b := b) ended .directHit
  rw [expand_grown (growth?_direct shown hit), stays, Growth.result, route, grown]

/-- The anchored walk goes over the whole selection, and over nothing before it, without closing
the call. -/
def WalksOver (b : Budgets) (d : Document) : Prop :=
  (d.selection.start = 0 ∨ b.backward = 0) ∧
    ∃ p, IsLeast {p | d.OpeningAt b p} p ∧ d.Unanswered b p ∧
      (d.length - p - 1 < b.balance ∨ b.balance = 0 ∧ p + 1 = d.length)

theorem routeAtEnd_isDegraded (b : Budgets) : b.routeAtEnd.isDegraded = true := by
  unfold Budgets.routeAtEnd
  split
  · rfl
  · rfl

theorem routeAtEnd_ne_noOpeningBracket (b : Budgets) : b.routeAtEnd ≠ .noOpeningBracket := by
  unfold Budgets.routeAtEnd
  split
  · exact Route.noConfusion
  · exact Route.noConfusion

theorem walksOver_of_atEnd (ended : d.selection.stop = d.length)
    (route : (d.anchoredGrowth b).route = b.routeAtEnd) (grown : (d.anchoredGrowth b).grown = d) :
    d.WalksOver b := by
  rcases anchoredGrowth_cases b d with ⟨_, kept⟩ | ⟨a, p, opened, start, first, chars, bounds, walk⟩
  · rw [kept] at route
    exact absurd route.symm (routeAtEnd_ne_noOpeningBracket b)
  · rw [walk] at route grown
    have stop : opened.selection.stop = p + 1 := by rw [bounds]
    obtain ⟨inside, _⟩ := List.getElem?_eq_some_iff.mp first.1.opening
    have unanswered : d.Unanswered b p := by
      rw [unanswered_iff inside]
      intro k near closes
      rw [← stop, ← ClosesCallAt.of_chars chars] at closes
      have degraded := routeAtEnd_isDegraded b
      rw [← route, closeCall_closed near closes] at degraded
      cases degraded
    have stays : a = d.selection.start := by
      rw [← grown, closeCall_start, bounds]
    rw [stays] at start
    refine ⟨anchorStart_start_iff.mp start, p, first, unanswered, ?_⟩
    rcases Nat.lt_or_ge (d.length - p - 1) b.balance with near | far
    · exact .inl near
    · obtain ⟨spent, reached⟩ := (closeCall_unanswered chars stop unanswered .anchored).2 far
      have empty : b.balance = 0 := by
        by_contra some
        rw [spent, Budgets.routeAtEnd, if_neg some] at route
        cases route
      rw [grown, ended, empty] at reached
      exact .inr ⟨empty, reached.symm⟩

theorem atEnd_of_walksOver (ended : d.selection.stop = d.length) (walks : d.WalksOver b) :
    (d.anchoredGrowth b).route = b.routeAtEnd ∧ (d.anchoredGrowth b).grown = d := by
  obtain ⟨nowhere, p, first, unanswered, room⟩ := walks
  obtain ⟨opened, chars, bounds, walk⟩ :=
    anchoredGrowth_of_bounds (anchorStart_start_iff.mpr nowhere) first
  have stop : opened.selection.stop = p + 1 := by rw [bounds]
  obtain ⟨early, late⟩ := closeCall_unanswered chars stop unanswered .anchored
  have ends : (opened.closeCall b .anchored).route = b.routeAtEnd ∧
      (opened.closeCall b .anchored).grown.selection.stop = d.length := by
    unfold Budgets.routeAtEnd
    rcases room with near | ⟨empty, last⟩
    · rw [if_neg (by omega)]
      exact early near
    · rw [if_pos empty]
      obtain ⟨route, reached⟩ := late (by omega)
      exact ⟨route, by omega⟩
  rw [walk]
  refine ⟨ends.1, Document.ext (closeCall_chars _ _ _ |>.trans chars) ?_⟩
  have front : (opened.closeCall b .anchored).grown.selection.start = d.selection.start := by
    rw [closeCall_start, bounds]
  exact congrArg₂ Span.mk front (ends.2.trans ended.symm)

/-- On a selection that reaches the end of the text an expansion comes to what the anchored walk
does, if the last character is no opening parenthesis or that walk goes over the whole selection.
Otherwise the last character is taken for a parenthesis that was newly covered. -/
theorem expand_atEnd_anchored_iff (b : Budgets) (d : Document) (shown : d.selectsBlank = false)
    (ended : d.selection.stop = d.length) :
    ((∀ p, ¬ d.OpeningAt b p) → d.anchoredGrowth b = ⟨.noOpeningBracket, d, 0⟩) ∧
    (∀ a p, d.AnchorStart b a → IsLeast {p | d.OpeningAt b p} p →
      ∃ opened : Document, opened.chars = d.chars ∧ opened.selection = ⟨a, p + 1⟩ ∧
        d.anchoredGrowth b = opened.closeCall b .anchored) ∧
    (d.chars[d.length - 1]? = some '(' →
      (d.expand b).value = (.ok ⟨String.ofList (Text.trim d.selected), b.routeAtEnd⟩, d)) ∧
    ((d.expand b).value = (d.anchoredGrowth b).result ↔
      d.chars[d.length - 1]? ≠ some '(' ∨ d.WalksOver b) := by
  refine ⟨anchoredGrowth_of_missing, fun a p => anchoredGrowth_of_bounds,
    expand_of_lastOpening b shown ended, ?_⟩
  by_cases last : d.chars[d.length - 1]? = some '('
  · rw [expand_of_lastOpening b shown ended last, or_iff_right (not_not_intro last)]
    constructor
    · intro same
      obtain ⟨result, grown⟩ := Prod.mk.inj same
      have routes := congrArg Expansion.route (Except.ok.inj result)
      exact walksOver_of_atEnd ended routes.symm grown.symm
    · intro walks
      obtain ⟨route, grown⟩ := atEnd_of_walksOver ended walks
      rw [Growth.result, route, grown]
  · have miss : d.isDirectHit = false :=
      Bool.eq_false_of_not_eq_true fun hit => last ((isDirectHit_iff_of_end shown ended).mp hit)
    rw [expand_grown (growth?_of_miss b shown miss)]
    exact iff_of_true rfl (.inl last)

theorem expand_atEnd_of_row :
    let d := (ofString "Row(a) Text(").selectAll
    d.selectsBlank = false ∧ d.selection.stop = d.length ∧
      (d.expand {}).value = (.ok ⟨"Row(a) Text(", .endOfDocument⟩, d) ∧
      (∃ p, IsLeast {p | d.OpeningAt {} p} p ∧ d.ClosesCallAt (p + 1) 2) ∧
      (d.expand {}).value ≠ (d.anchoredGrowth {}).result := by
  intro d
  have shown : d.selectsBlank = false := by decide
  have ended : d.selection.stop = d.length := by decide
  obtain ⟨_, _, ends, same_iff⟩ := expand_atEnd_anchored_iff {} d shown ended
  have last : d.chars[d.length - 1]? = some '(' := by decide
  have earlier : ∀ i < 3, d.chars[i]? ≠ some '(' := by decide
  have first : IsLeast {p | d.OpeningAt {} p} 3 := by
    refine ⟨⟨by decide, by decide, by decide⟩, ?_⟩
    intro p found
    by_contra before
    exact earlier p (by omega) found.opening
  have closes : d.ClosesCallAt 4 2 := ⟨by decide, ['a'], by decide, by decide⟩
  refine ⟨shown, ended, ends last, ⟨3, first, closes⟩, ?_⟩
  rw [Ne, same_iff]
  rintro (other | ⟨_, p, first', unanswered, _⟩)
  · exact other last
  · rw [first'.unique first, unanswered_iff (by decide)] at unanswered
    exact unanswered 2 (by decide) closes

/-- What the probe finds need not be newly covered. -/
theorem probe_not_always_newlyCovered :
    ¬ ∀ (b : Budgets) (d : Document), d.selectsBlank = false → d.selection.stop = d.length →
      (d.expand b).value = (d.anchoredGrowth b).result := by
  intro always
  have same := always {} (ofString "Row(a) Text(").selectAll (by decide) (by decide)
  have routes := congrArg (fun r => r.1.toOption.map (·.route)) same
  revert routes
  decide

end Document

end CallCapture

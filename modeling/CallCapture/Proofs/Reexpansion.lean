import CallCapture.Proofs.Expansion
import Mathlib

namespace CallCapture.Document

section

variable {b : Budgets} {d : Document}

/-- The offset of the parenthesis that is put on the stack: the last character that the probe
shows, or else the first parenthesis that the walk ahead finds. -/
def PushedAt (b : Budgets) (d : Document) (p : Nat) : Prop :=
  (d.isDirectHit = true ∧ p + 1 = d.probed.selection.stop) ∨
    (d.isDirectHit = false ∧ IsLeast {p | d.OpeningAt b p} p)

theorem PushedAt.unique {p q : Nat} (hp : d.PushedAt b p) (hq : d.PushedAt b q) : p = q := by
  rcases hp with ⟨hit, last⟩ | ⟨miss, first⟩
  · rcases hq with ⟨_, last'⟩ | ⟨miss, _⟩
    · omega
    · rw [hit] at miss
      cases miss
  · rcases hq with ⟨hit, _⟩ | ⟨_, first'⟩
    · rw [hit] at miss
      cases miss
    · exact first.unique first'

def reach (b : Budgets) (d : Document) (i : Nat) : Nat :=
  (closeBrackets b.balance (BracketStack.empty.push '(') 0 (d.chars.drop i)).1

theorem reach_le (b : Budgets) (d : Document) (i : Nat) :
    d.reach b i ≤ (d.chars.drop i).length := by
  have bounds := closeBrackets_bounds b.balance (BracketStack.empty.push '(') 0 (d.chars.drop i)
  rw [Nat.zero_add] at bounds
  exact bounds.2

theorem closeCall_grown (b : Budgets) (route : Route) (d : Document) :
    (d.closeCall b route).grown = d.advance (d.reach b d.selection.stop) := by
  unfold closeCall reach
  rcases closeBrackets b.balance (BracketStack.empty.push '(') 0 (d.chars.drop d.selection.stop)
    with ⟨taken, balanced | textEnded | unanswered⟩
  · rfl
  · rfl
  · rfl

theorem closeCall_selection (b : Budgets) (route : Route) (d : Document) :
    (d.closeCall b route).grown.selection =
      ⟨d.selection.start, d.selection.stop + d.reach b d.selection.stop⟩ := by
  have within := d.reach_le b d.selection.stop
  have fits : d.selection.stop ≤ d.length := d.fits
  rw [List.length_drop] at within
  rw [closeCall_grown, advance_selection]
  simp only [length] at *
  omega

theorem probed_start (d : Document) : d.probed.selection.start = d.selection.start := rfl

theorem pushedAt_of_hit (shown : d.selectsBlank = false) (hit : d.isDirectHit = true) :
    ∃ p, d.PushedAt b p ∧ d.chars[p]? = some '(' ∧ d.selection.start ≤ p ∧
      d.probed.selection.stop = p + 1 := by
  have less := start_lt_stop shown
  have later : d.selection.stop ≤ d.probed.selection.stop := by
    have fits : d.selection.stop ≤ d.length := d.fits
    simp only [probed_eq, advance]
    omega
  refine ⟨d.probed.selection.stop - 1, .inl ⟨hit, by omega⟩, ?_, by omega, by omega⟩
  exact (isDirectHit_iff_last shown).mp hit

theorem closeCall_opened {route : Route} (opened : route ≠ .noOpeningBracket) :
    (d.closeCall b route).route ≠ .noOpeningBracket := by
  unfold closeCall
  split
  · exact opened
  · exact Route.noConfusion
  · exact Route.noConfusion

/-- A growth keeps the selection, or pushes a parenthesis and ends where the walk from it does. -/
theorem growth?_kept_or_pushed {g : Growth} (shown : d.selectsBlank = false)
    (h : d.growth? b = some g) :
    g = ⟨.noOpeningBracket, d, 0⟩ ∨
    (g.route ≠ .noOpeningBracket ∧
      ∃ p, d.PushedAt b p ∧ d.chars[p]? = some '(' ∧ g.grown.chars = d.chars ∧
        g.grown.selection.start ≤ p ∧ g.grown.selection.stop = p + 1 + d.reach b (p + 1)) := by
  rcases growth?_cases shown h with ⟨hit, rfl⟩ | ⟨miss, anchored, found, rfl⟩ | ⟨_, _, rfl⟩
  · obtain ⟨p, pushed, opening, before, stop⟩ := pushedAt_of_hit (b := b) shown hit
    refine .inr ⟨closeCall_opened Route.noConfusion, p, pushed, opening, closeCall_chars _ _ _,
      ?_, ?_⟩
    · rw [closeCall_start, probed_start]
      exact before
    · rw [closeCall_selection, stop]
      rfl
  · obtain ⟨a, p, start, first, chars, selection⟩ := anchor?_eq_some found
    refine .inr ⟨closeCall_opened Route.noConfusion, p, .inr ⟨miss, first⟩, first.1.opening,
      ?_, ?_, ?_⟩
    · rw [closeCall_chars, chars]
    · rw [closeCall_start, selection]
      exact Nat.le_trans start.le_start first.1.after
    · rw [closeCall_selection, selection, reach, chars]
      rfl
  · exact .inl rfl

theorem selection_of_pushed {text : String} {route : Route} {d' : Document}
    (h : (d.expand b).value = (.ok ⟨text, route⟩, d')) (opened : route ≠ .noOpeningBracket) :
    ∃ p, d.PushedAt b p ∧ d.chars[p]? = some '(' ∧ d'.chars = d.chars ∧
      d'.selection.start ≤ p ∧ d'.selection.stop = p + 1 + d.reach b (p + 1) ∧
      text = String.ofList (Text.trim d'.selected) := by
  obtain ⟨shown, g, grown, rfl, rfl, text⟩ := expand_ok h
  rcases growth?_kept_or_pushed shown grown with rfl | ⟨_, p, pushed, opening, chars, before, stop⟩
  · exact absurd rfl opened
  · exact ⟨p, pushed, opening, chars, before, stop, text⟩

theorem selected_of_pushed {d' : Document} {p n : Nat} (opening : d'.chars[p]? = some '(')
    (before : d'.selection.start ≤ p) (stop : d'.selection.stop = p + 1 + n) :
    d'.selected =
      d'.slice ⟨d'.selection.start, p⟩ ++ '(' :: (d'.chars.drop (p + 1)).take n := by
  have bounds : d'.selection = ⟨d'.selection.start, p + 1 + n⟩ := by rw [← stop]
  rw [selected, bounds, ← d'.slice_append before (by omega), d'.slice_cons opening (by omega),
    slice_add]

theorem expand_shown (b : Budgets) (shown : d.selectsBlank = false) :
    ∃ e d', (d.expand b).value = (.ok e, d') ∧ d'.selectsBlank = false ∧
      e.text = String.ofList (Text.trim d'.selected) := by
  obtain ⟨g, grown⟩ := growth?_shown b shown
  refine ⟨_, _, expand_grown grown, ?_, rfl⟩
  rcases growth?_kept_or_pushed shown grown with rfl | ⟨_, p, _, opening, chars, before, stop⟩
  · exact shown
  · rw [← chars] at opening
    apply Text.isBlankText_of_visible (c := '(') (by decide)
    rw [selected_of_pushed opening before stop]
    exact List.mem_append_right _ List.mem_cons_self

end

section

variable {b : Budgets} {d : Document}

/-! ### A document selected as a whole -/

theorem selectAll_selection (d : Document) : d.selectAll.selection = ⟨0, d.length⟩ := by
  simp only [selectAll, select, Span.between, Nat.zero_min, Nat.min_self, Nat.zero_max]

theorem selected_of_whole (whole : d.selection = ⟨0, d.length⟩) : d.selected = d.chars := by
  rw [selected, slice, whole, List.drop_zero]
  exact List.take_length

theorem start_of_whole (whole : d.selection = ⟨0, d.length⟩) {a : Nat}
    (start : d.AnchorStart b a) : a = 0 := by
  have before := start.le_start
  rw [whole] at before
  exact Nat.le_zero.mp before

theorem opening_of_whole {w rest : List Char} (whole : d.selection = ⟨0, d.length⟩)
    (chars : d.chars = w ++ '(' :: rest) (first : '(' ∉ w) {p : Nat}
    (least : IsLeast {p | d.OpeningAt b p} p) : p = w.length := by
  have near := least.1.near
  have at_p := least.1.opening
  rw [whole] at near
  apply Nat.le_antisymm
  · by_contra later
    have earlier : d.OpeningAt b w.length := by
      refine ⟨by rw [whole]; exact Nat.zero_le _, by rw [whole]; omega, ?_⟩
      rw [chars, List.getElem?_append_right (Nat.le_refl _), Nat.sub_self]
      rfl
    exact later (least.2 earlier)
  · by_contra inside
    rw [chars, List.getElem?_append_left (by omega)] at at_p
    exact first (List.mem_of_getElem? at_p)

theorem growth?_of_whole {w rest : List Char} (whole : d.selection = ⟨0, d.length⟩)
    (chars : d.chars = w ++ '(' :: rest) (first : '(' ∉ w)
    (through : (closeBrackets b.balance (BracketStack.empty.push '(') 0 rest).1 = rest.length) :
    ∃ g, d.growth? b = some g ∧ g.grown = d := by
  have shown : d.selectsBlank = false := by
    apply Text.isBlankText_of_visible (c := '(') (by decide)
    rw [selected_of_whole whole, chars]
    exact List.mem_append_right _ List.mem_cons_self
  cases hit : d.isDirectHit with
  | true =>
    refine ⟨_, growth?_direct shown hit, ?_⟩
    have ended : d.selection.stop = d.length := by rw [whole]
    rw [closeCall_grown, probed_eq, advance_end ended, advance_end ended]
  | false =>
    cases found : d.anchor? b with
    | none => exact ⟨_, growth?_kept shown hit found, rfl⟩
    | some anchored =>
      refine ⟨_, growth?_anchored shown hit found, ?_⟩
      obtain ⟨a, p, start, least, same, selection⟩ := anchor?_eq_some found
      have behind : anchored.chars.drop (w.length + 1) = rest := by
        rw [same, chars, ← List.drop_drop, List.drop_left]
        rfl
      have length : w.length + 1 + rest.length = d.length := by
        rw [Document.length, chars, List.length_append, List.length_cons]
        omega
      apply Document.ext
      · rw [closeCall_chars, same]
      · rw [closeCall_selection, selection, start_of_whole whole start,
          opening_of_whole whole chars first least, reach, behind, through, length, whole]

theorem expand_of_whole {w rest : List Char} (whole : d.selection = ⟨0, d.length⟩)
    (chars : d.chars = w ++ '(' :: rest) (first : '(' ∉ w)
    (through : (closeBrackets b.balance (BracketStack.empty.push '(') 0 rest).1 = rest.length)
    (trimmed : Text.trim d.chars = d.chars) :
    ∃ route, (d.expand b).value = (.ok ⟨String.ofList d.chars, route⟩, d) := by
  obtain ⟨g, grown, stays⟩ := growth?_of_whole whole chars first through
  refine ⟨g.route, ?_⟩
  rw [expand_grown grown, Growth.result, stays, selected_of_whole whole, trimmed]

/-! ### The text of an expansion -/

theorem reach_trimmed (b : Budgets) (d : Document) (i : Nat) :
    let rest := Text.trimEnd ((d.chars.drop i).take (d.reach b i))
    (closeBrackets b.balance (BracketStack.empty.push '(') 0 rest).1 = rest.length := by
  intro rest
  have kept : rest <+: (d.chars.drop i).take (d.reach b i) := Text.trimEnd_prefix _
  have short : rest.length ≤ d.reach b i :=
    Nat.le_trans kept.length_le (List.length_take_le _ _)
  have cut : rest = (d.chars.drop i).take rest.length :=
    List.prefix_iff_eq_take.mp (kept.trans (List.take_prefix _ _))
  rw [cut, closeBrackets_take, ← cut, Nat.zero_add]
  rw [Nat.zero_add]
  exact short

/-- An expansion that pushes a parenthesis is stable: when there is no other one before it in the
selection, expanding the text again, as a document that is selected as a whole, gives it back. -/
theorem reexpanded_text_stable (b : Budgets) (d d' : Document) (text : String) (route : Route)
    (h : (d.expand b).value = (.ok ⟨text, route⟩, d')) (opened : route ≠ .noOpeningBracket) :
    ∃ p, d.PushedAt b p ∧ (∀ q, d.PushedAt b q → q = p) ∧ d'.chars[p]? = some '(' ∧
      d'.selection.start ≤ p ∧ p < d'.selection.stop ∧
      ('(' ∉ d'.slice ⟨d'.selection.start, p⟩ →
        ∃ again, ((ofString text).selectAll.expand b).value =
          (.ok ⟨text, again⟩, (ofString text).selectAll)) := by
  obtain ⟨p, pushed, opening, chars, before, stop, trimmed⟩ := selection_of_pushed h opened
  rw [← chars] at opening
  refine ⟨p, pushed, fun q other => other.unique pushed, opening, before, by omega, ?_⟩
  intro first
  have shape : text.toList = (d'.slice ⟨d'.selection.start, p⟩).dropWhile Text.isBlank ++
      '(' :: Text.trimEnd ((d.chars.drop (p + 1)).take (d.reach b (p + 1))) := by
    rw [trimmed, String.toList_ofList, selected_of_pushed opening before stop, Text.trim_opening,
      chars]
  have fixed : Text.trim text.toList = text.toList := by
    rw [trimmed, String.toList_ofList, Text.trim_trim]
  have visible : Text.isBlank '(' = false := by decide
  have only : '(' ∉ (d'.slice ⟨d'.selection.start, p⟩).dropWhile Text.isBlank :=
    fun member => first ((Text.mem_dropWhile_isBlank visible).mp member)
  obtain ⟨again, stable⟩ := expand_of_whole (d := (ofString text).selectAll)
    (selectAll_selection _) shape only (d.reach_trimmed b (p + 1)) fixed
  have back : String.ofList (ofString text).selectAll.chars = text := String.ofList_toList
  rw [back] at stable
  exact ⟨again, stable⟩

/-- With another parenthesis before the one that was pushed, the text may be cut at the first. -/
example : (((ofString "a(b) x (y)").select 5 6).expand {}).value.1 =
      .ok ⟨"a(b) x (y)", .anchored⟩ ∧
    ((ofString "a(b) x (y)").selectAll.expand {}).value.1 = .ok ⟨"a(b)", .anchored⟩ :=
  ⟨by cbv, by cbv⟩

theorem expand_cut_by_budget :
    (((ofString "  a b ( c   d)").select 4 5).expand { balance := 3 }).value =
      (.ok ⟨"a b ( c", .budgetExhausted⟩, (ofString "  a b ( c   d)").select 0 10) := by
  apply Prod.ext
  · cbv
  · apply Document.ext
    · cbv
    · cbv

/-- Cut by a spent budget, with blanks cut off at both ends, a text still expands to itself. -/
theorem reexpanded_text_cut_by_budget :
    (((ofString "  a b ( c   d)").select 4 5).expand { balance := 3 }).value =
        (.ok ⟨"a b ( c", .budgetExhausted⟩, (ofString "  a b ( c   d)").select 0 10) ∧
      Route.budgetExhausted ≠ .noOpeningBracket ∧
      ∃ again, ((ofString "a b ( c").selectAll.expand { balance := 3 }).value =
        (.ok ⟨"a b ( c", again⟩, (ofString "a b ( c").selectAll) := by
  have opened : Route.budgetExhausted ≠ .noOpeningBracket := by decide
  obtain ⟨p, _, _, opening, _, inside, stable⟩ :=
    reexpanded_text_stable _ _ _ _ _ expand_cut_by_budget opened
  have alone : ∀ i < 10, "  a b ( c   d)".toList[i]? = some '(' → i = 6 := by decide
  obtain rfl : p = 6 := alone p inside opening
  exact ⟨expand_cut_by_budget, opened, stable (by decide)⟩

end

end CallCapture.Document

import CallCapture.Proofs.Routes

namespace CallCapture

theorem closeBrackets_append {budget taken : Nat} {s : BracketStack} {ahead : List Char}
    (settled : (closeBrackets budget s taken ahead).2 ≠ .textEnded) (more : List Char) :
    closeBrackets budget s taken (ahead ++ more) = closeBrackets budget s taken ahead := by
  induction ahead generalizing budget s taken with
  | nil =>
    cases shut : s.isEmpty with
    | true => rw [closeBrackets_shut shut, closeBrackets_shut shut]
    | false =>
      cases budget with
      | zero =>
        cases more with
        | nil => rfl
        | cons c more => simp only [List.nil_append, closeBrackets, shut, if_true]
      | succ budget =>
        simp only [closeBrackets, shut, Bool.false_eq_true, if_false] at settled
        exact absurd rfl settled
  | cons c ahead ih =>
    cases shut : s.isEmpty with
    | true => rw [closeBrackets_shut shut, closeBrackets_shut shut]
    | false =>
      cases budget with
      | zero => simp only [List.cons_append, closeBrackets, shut, Bool.false_eq_true, if_false]
      | succ budget =>
        simp only [closeBrackets, shut, Bool.false_eq_true, if_false] at settled
        simp only [List.cons_append, closeBrackets, shut, Bool.false_eq_true, if_false]
        exact ih settled

namespace Document

variable {b : Budgets} {d : Document} {before after : List Char}

/-- The document between two texts, with the same characters selected. -/
def surround (before after : List Char) (d : Document) : Document where
  chars := before ++ (d.chars ++ after)
  selection := ⟨before.length + d.selection.start, before.length + d.selection.stop⟩
  ordered := Nat.add_le_add_left d.ordered _
  fits := by
    rw [List.length_append, List.length_append]
    exact Nat.add_le_add_left (Nat.le_trans d.fits (Nat.le_add_right _ _)) _

@[simp] theorem surround_chars (before after : List Char) (d : Document) :
    (d.surround before after).chars = before ++ (d.chars ++ after) := rfl

@[simp] theorem surround_selection (before after : List Char) (d : Document) :
    (d.surround before after).selection =
      ⟨before.length + d.selection.start, before.length + d.selection.stop⟩ := rfl

/-! ### What is left as it is -/

theorem surround_getElem? (before after : List Char) {i : Nat} (inside : i < d.length) :
    (d.surround before after).chars[before.length + i]? = d.chars[i]? := by
  rw [surround_chars, List.getElem?_append_right (Nat.le_add_right _ _), Nat.add_sub_cancel_left,
    List.getElem?_append_left inside]

theorem surround_drop (before after : List Char) {i : Nat} (inside : i ≤ d.length) :
    (d.surround before after).chars.drop (before.length + i) = d.chars.drop i ++ after := by
  rw [surround_chars, List.drop_length_add_append, List.drop_append_of_le_length inside]

theorem surround_selected (before after : List Char) (d : Document) :
    (d.surround before after).selected = d.selected := by
  have start : d.selection.start ≤ d.length := d.start_le_length
  have size : (d.surround before after).selection.size = d.selection.size := by
    simp only [surround_selection, Span.size]
    omega
  have short : d.selection.size ≤ (d.chars.drop d.selection.start).length := by
    have fits := d.fits
    rw [List.length_drop, Span.size]
    omega
  rw [selected, slice, size, selected, slice]
  change ((d.surround before after).chars.drop (before.length + d.selection.start)).take _ = _
  rw [surround_drop before after start, List.take_append_of_le_length short]

theorem surround_selectsBlank (before after : List Char) (d : Document) :
    (d.surround before after).selectsBlank = d.selectsBlank := by
  rw [selectsBlank, surround_selected, selectsBlank]

theorem surround_advance {n : Nat} (within : d.selection.stop + n ≤ d.length) :
    (d.surround before after).advance n = (d.advance n).surround before after := by
  apply Document.ext
  · rfl
  · rw [advance_selection]
    · simp only [surround_selection, advance_selection within, Nat.add_assoc]
    · simp only [surround_selection, surround_chars, Document.length, List.length_append] at *
      omega

/-! ### Closing -/

def Growth.surround (before after : List Char) (g : Growth) : Growth :=
  { g with grown := g.grown.surround before after }

theorem surround_closeCall {route : Route}
    (settled : (d.closeCall b route).route ≠ .endOfDocument) :
    (d.surround before after).closeCall b route = (d.closeCall b route).surround before after := by
  have ahead : (d.surround before after).chars.drop (d.surround before after).selection.stop =
      d.chars.drop d.selection.stop ++ after := surround_drop before after d.fits
  have bounds := closeBrackets_bounds b.balance (BracketStack.empty.push '(') 0
    (d.chars.drop d.selection.stop)
  unfold closeCall at settled ⊢
  generalize walked : closeBrackets b.balance (BracketStack.empty.push '(') 0
    (d.chars.drop d.selection.stop) = r at settled bounds ⊢
  obtain ⟨taken, ends⟩ := r
  have within : d.selection.stop + taken ≤ d.length := by
    have fits := d.fits
    simp only [List.length_drop, Nat.zero_add] at bounds
    simp only [Document.length] at *
    omega
  have goesOn : ends ≠ .textEnded := by
    rintro rfl
    exact settled rfl
  have same : closeBrackets b.balance (BracketStack.empty.push '(') 0
      (d.chars.drop d.selection.stop ++ after) = (taken, ends) := by
    rw [closeBrackets_append, walked]
    rw [walked]
    exact goesOn
  rw [ahead, same]
  cases ends with
  | balanced => simp only [Growth.surround, surround_advance within]
  | textEnded => exact absurd rfl goesOn
  | budgetSpent unanswered => simp only [Growth.surround, surround_advance within]

/-! ### The probe and the anchor -/

theorem surround_probed (inside : d.selection.stop < d.length) :
    (d.surround before after).probed = d.probed.surround before after := by
  rw [probed_eq, probed_eq, surround_advance inside]

theorem surround_isDirectHit (inside : d.selection.stop < d.length) :
    (d.surround before after).isDirectHit = d.isDirectHit := by
  rw [isDirectHit, surround_probed inside, surround_selected, isDirectHit]

theorem surround_nameAt {i : Nat} :
    (d.surround before after).NameAt b (before.length + i) ↔ d.NameAt b i := by
  have start : d.selection.start ≤ d.length := d.start_le_length
  constructor
  · intro name
    have early : before.length + i + 2 ≤ before.length + d.selection.start := name.before
    have near : before.length + d.selection.start - (before.length + i) ≤ b.backward := name.near
    have capital := name.capital
    rw [surround_getElem? before after (by omega)] at capital
    exact ⟨by omega, by omega, capital⟩
  · intro name
    have early := name.before
    have near := name.near
    refine ⟨?_, ?_, ?_⟩
    · simp only [surround_selection]
      omega
    · simp only [surround_selection]
      omega
    · rw [surround_getElem? before after (by omega)]
      exact name.capital

theorem surround_openingAt {p : Nat} (inside : p < d.length) :
    (d.surround before after).OpeningAt b (before.length + p) ↔ d.OpeningAt b p := by
  constructor
  · intro found
    have later : before.length + d.selection.start ≤ before.length + p := found.after
    have near : before.length + p - (before.length + d.selection.start) < b.forward := found.near
    have opening := found.opening
    rw [surround_getElem? before after inside] at opening
    exact ⟨by omega, by omega, opening⟩
  · intro found
    have later := found.after
    have near := found.near
    refine ⟨?_, ?_, ?_⟩
    · simp only [surround_selection]
      omega
    · simp only [surround_selection]
      omega
    · rw [surround_getElem? before after inside]
      exact found.opening

theorem surround_first {p : Nat} (first : IsLeast {p | d.OpeningAt b p} p) :
    IsLeast {p | (d.surround before after).OpeningAt b p} (before.length + p) := by
  obtain ⟨inside, _⟩ := List.getElem?_eq_some_iff.mp first.1.opening
  constructor
  · exact (surround_openingAt inside).mpr first.1
  · intro q found
    by_contra earlier
    have later : before.length + d.selection.start ≤ q := found.after
    obtain ⟨i, rfl⟩ := Nat.exists_eq_add_of_le (Nat.le_trans (Nat.le_add_right _ _) later)
    have short : i < p := by omega
    have least := first.2 ((surround_openingAt (short.trans inside)).mp found)
    exact absurd least (Nat.not_le_of_lt short)

/-- Where the walk back stops is told by the text behind the selection when nothing comes before
it, or when the walk stops on a capital letter. -/
theorem surround_anchorStart {a : Nat} (start : d.AnchorStart b a)
    (settled : before = [] ∨ a + 2 ≤ d.selection.start ∧
      ∃ c, d.chars[a]? = some c ∧ isNameStart c = true) :
    (d.surround before after).AnchorStart b (before.length + a) := by
  have nameBehind {i : Nat} (name : (d.surround before after).NameAt b i)
      (far : before.length ≤ i) : ∃ j, i = before.length + j ∧ d.NameAt b j := by
    obtain ⟨j, rfl⟩ := Nat.exists_eq_add_of_le far
    exact ⟨j, rfl, surround_nameAt.mp name⟩
  have greatest (name : d.NameAt b a) (last : ∀ i, d.NameAt b i → i ≤ a) :
      (d.surround before after).AnchorStart b (before.length + a) := by
    refine .inl ⟨surround_nameAt.mpr name, ?_⟩
    intro i other
    rcases Nat.lt_or_ge i before.length with early | far
    · omega
    · obtain ⟨j, rfl, name⟩ := nameBehind other far
      exact Nat.add_le_add_left (last j name) _
  rcases start with ⟨name, last⟩ | ⟨never, rfl⟩
  · exact greatest name fun i other => last other
  · rcases settled with rfl | ⟨early, capital⟩
    · refine .inr ⟨?_, ?_⟩
      · intro i name
        obtain ⟨j, _, other⟩ := nameBehind name (Nat.zero_le i)
        exact never j other
      · rw [surround_selection, List.length_nil, Nat.zero_add, Nat.zero_add]
    · exact absurd ⟨early, by omega, capital⟩ (never _)

theorem surround_anchor? {anchored : Document} (found : d.anchor? b = some anchored)
    (settled : before = [] ∨ anchored.selection.start + 2 ≤ d.selection.start ∧
      ∃ c, d.chars[anchored.selection.start]? = some c ∧ isNameStart c = true) :
    (d.surround before after).anchor? b = some (anchored.surround before after) := by
  obtain ⟨a, p, start, first, chars, selection⟩ := anchor?_eq_some found
  rw [selection] at settled
  have stops : (d.surround before after).AnchorStart b (before.length + a) :=
    surround_anchorStart start settled
  obtain ⟨other, found', chars', selection'⟩ := anchor?_of_bounds stops (surround_first first)
  rw [found']
  congr 1
  apply Document.ext
  · rw [chars', surround_chars, surround_chars, chars]
  · rw [selection', surround_selection, selection, Nat.add_assoc]

/-! ### Expansions -/

theorem surround_growth? {g : Growth} (shown : d.selectsBlank = false)
    (inside : d.selection.stop < d.length) (grown : d.growth? b = some g)
    (settled : g.route = .directHit ∨ g.route = .anchored ∨ g.route = .budgetExhausted)
    (fixed : before = [] ∨ g.route = .directHit ∨ g.grown.selection.start + 2 ≤ d.selection.start ∧
      ∃ c, d.chars[g.grown.selection.start]? = some c ∧ isNameStart c = true) :
    (d.surround before after).growth? b = some (g.surround before after) := by
  have visible : (d.surround before after).selectsBlank = false := by
    rw [surround_selectsBlank, shown]
  have closed : g.route ≠ .endOfDocument := by
    rcases settled with route | route | route
    all_goals rw [route]; exact Route.noConfusion
  rcases growth?_cases shown grown with ⟨hit, rfl⟩ | ⟨miss, anchored, found, rfl⟩ | ⟨_, _, rfl⟩
  · rw [growth?_direct visible (by rw [surround_isDirectHit inside, hit]), surround_probed inside,
      surround_closeCall closed]
  · have direct : (anchored.closeCall b .anchored).route ≠ .directHit := by
      intro route
      cases ((closeCall_route_iff rfl).mp route).1
    rw [closeCall_start, or_iff_right direct] at fixed
    rw [growth?_anchored visible (by rw [surround_isDirectHit inside, miss])
      (surround_anchor? found fixed), surround_closeCall closed]
  · simp at settled

/-- An expansion that is closed or cut by its budget does not depend on the text after the
document, nor on the text before it when nothing or a capital letter ends the walk back. The
selection that it grows to stands among the same characters. -/
theorem expand_surrounded (b : Budgets) (d d' : Document) (text : String) (route : Route)
    (inside : d.selection.stop < d.length)
    (h : (d.expand b).value = (.ok ⟨text, route⟩, d'))
    (settled : route = .directHit ∨ route = .anchored ∨ route = .budgetExhausted)
    (before after : List Char) :
    ((d.surround [] after).expand b).value = (.ok ⟨text, route⟩, d'.surround [] after) ∧
    (route = .directHit ∨ d'.selection.start + 2 ≤ d.selection.start ∧
        (∃ c, d.chars[d'.selection.start]? = some c ∧ isNameStart c = true) →
      ((d.surround before after).expand b).value =
        (.ok ⟨text, route⟩, d'.surround before after)) := by
  obtain ⟨shown, g, grown, rfl, rfl, rfl⟩ := expand_ok h
  have whole (before : List Char) (longer : (d.surround before after).growth? b =
      some (g.surround before after)) : ((d.surround before after).expand b).value =
        (.ok ⟨String.ofList (Text.trim g.grown.selected), g.route⟩,
          g.grown.surround before after) := by
    rw [expand_grown longer, Growth.result, Growth.surround, surround_selected]
  constructor
  · exact whole [] (surround_growth? shown inside grown settled (.inl rfl))
  · intro fixed
    exact whole before (surround_growth? shown inside grown settled (.inr fixed))

theorem expand_anchored_text :
    (((ofString "a Text('Hi'), b").select 4 5).expand {}).value =
      (.ok ⟨"Text('Hi')", .anchored⟩, (ofString "a Text('Hi'), b").select 2 12) := by
  apply Prod.ext
  · cbv
  · apply Document.ext
    · cbv
    · cbv

theorem expand_surrounded_by_row :
    let d := (ofString "a Text('Hi'), b").select 4 5
    let row := (ofString "Row(a Text('Hi'), b)").select 8 9
    d.selection.stop < d.length ∧
      (d.expand {}).value =
        (.ok ⟨"Text('Hi')", .anchored⟩, (ofString "a Text('Hi'), b").select 2 12) ∧
      d.surround "Row(".toList ")".toList = row ∧
      (row.expand {}).value =
        (.ok ⟨"Text('Hi')", .anchored⟩, (ofString "Row(a Text('Hi'), b)").select 6 16) := by
  intro d row
  have inside : d.selection.stop < d.length := by decide
  have placed : d.surround "Row(".toList ")".toList = row := by decide
  obtain ⟨_, longer⟩ := expand_surrounded {} d _ _ _ inside expand_anchored_text
    (.inr (.inl rfl)) "Row(".toList ")".toList
  have grown := longer (.inr ⟨by decide, 'T', by decide, by decide⟩)
  rw [placed] at grown
  refine ⟨inside, expand_anchored_text, placed, grown.trans ?_⟩
  congr 1

end Document

end CallCapture

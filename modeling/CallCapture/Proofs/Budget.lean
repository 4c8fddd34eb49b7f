import CallCapture.Proofs.Ending
import CallCapture.Proofs.Offsets
import Mathlib

namespace CallCapture

section

variable {budget larger taken : Nat} {s : BracketStack} {ahead : List Char}

theorem closeBrackets_larger (more : budget ≤ larger)
    (unspent : ∀ n, (closeBrackets budget s taken ahead).2 ≠ .budgetSpent n) :
    closeBrackets larger s taken ahead = closeBrackets budget s taken ahead := by
  have walk := closeBrackets_spec budget s taken ahead
  generalize closeBrackets budget s taken ahead = r at walk unspent
  cases walk with
  | balanced k near emptied => exact closeBrackets_eq (.balanced k (near.trans more) emptied)
  | textEnded near opened => exact closeBrackets_eq (.textEnded (near.trans_le more) opened)
  | budgetSpent _ _ => exact absurd rfl (unspent _)

theorem closeBrackets_mono (more : budget ≤ larger) :
    (closeBrackets budget s taken ahead).1 ≤ (closeBrackets larger s taken ahead).1 := by
  have walk := closeBrackets_spec budget s taken ahead
  have further := closeBrackets_spec larger s taken ahead
  generalize closeBrackets budget s taken ahead = r at walk
  generalize closeBrackets larger s taken ahead = r' at further
  cases walk with
  | balanced k near emptied =>
    rw [further.unique (.balanced k (near.trans more) emptied)]
  | textEnded near opened =>
    rw [further.unique (.textEnded (near.trans_le more) opened)]
  | budgetSpent within opened =>
    cases further with
    | balanced k _ emptied =>
      have later : budget < k := by
        by_contra early
        exact opened.not_emptiesAt (Nat.le_of_not_lt early) emptied
      exact Nat.add_le_add_left (Nat.le_of_lt later) taken
    | textEnded _ _ => exact Nat.add_le_add_left within taken
    | budgetSpent _ _ => exact Nat.add_le_add_left more taken

theorem stepsToOpening?_larger {i : Nat} (more : budget ≤ larger)
    (found : stepsToOpening? budget ahead = some i) : stepsToOpening? larger ahead = some i := by
  obtain ⟨near, opening, first⟩ := stepsToOpening?_eq_some_iff.mp found
  exact stepsToOpening?_eq_some_iff.mpr ⟨near.trans_le more, opening, first⟩

end

namespace Document

variable {b : Budgets} {d : Document}

/-! ### The balance budget -/

/-- What a larger balance budget makes of a growth: the same when its budget was not spent, and
in any case one from the same start that ends no earlier. -/
structure Growth.ContinuedBy (g g' : Growth) : Prop where
  same : g.route ≠ .budgetExhausted → g' = g
  chars : g'.grown.chars = g.grown.chars
  start : g'.grown.selection.start = g.grown.selection.start
  stop : g.grown.selection.stop ≤ g'.grown.selection.stop

theorem Growth.ContinuedBy.refl (g : Growth) : g.ContinuedBy g where
  same := fun _ => rfl
  chars := rfl
  start := rfl
  stop := Nat.le_refl _

theorem closeCall_continued {balance : Nat} (more : b.balance ≤ balance) (d : Document)
    (route : Route) :
    (d.closeCall b route).ContinuedBy (d.closeCall { b with balance } route) where
  same := by
    intro unspent
    have goesOn : ∀ n, (closeBrackets b.balance (BracketStack.empty.push '(') 0
        (d.chars.drop d.selection.stop)).2 ≠ .budgetSpent n := by
      intro n spent
      apply unspent
      unfold closeCall
      generalize closeBrackets b.balance _ 0 _ = r at spent
      obtain ⟨taken, ends⟩ := r
      obtain rfl : ends = .budgetSpent n := spent
      rfl
    unfold closeCall
    rw [closeBrackets_larger more goesOn]
  chars := by rw [closeCall_chars, closeCall_chars]
  start := by rw [closeCall_start, closeCall_start]
  stop := by
    rw [closeCall_selection, closeCall_selection]
    exact Nat.add_le_add_left (closeBrackets_mono more) _

theorem anchor?_withBalance (b : Budgets) (d : Document) (balance : Nat) :
    d.anchor? { b with balance } = d.anchor? b := rfl

theorem growth?_continued {balance : Nat} {g : Growth} (more : b.balance ≤ balance)
    (shown : d.selectsBlank = false) (grown : d.growth? b = some g) :
    ∃ g', d.growth? { b with balance } = some g' ∧ g.ContinuedBy g' := by
  rcases growth?_cases shown grown with
    ⟨hit, rfl⟩ | ⟨miss, anchored, found, rfl⟩ | ⟨miss, missing, rfl⟩
  · exact ⟨_, growth?_direct shown hit, closeCall_continued more _ _⟩
  · rw [← anchor?_withBalance b d balance] at found
    exact ⟨_, growth?_anchored shown miss found, closeCall_continued more _ _⟩
  · rw [← anchor?_withBalance b d balance] at missing
    exact ⟨_, growth?_kept shown miss missing, .refl _⟩

theorem anchor?_larger {forward : Nat} {anchored : Document} (more : b.forward ≤ forward)
    (found : d.anchor? b = some anchored) : d.anchor? { b with forward } = some anchored := by
  unfold anchor? at found ⊢
  obtain ⟨i, steps, rfl⟩ := Option.map_eq_some_iff.mp found
  exact Option.map_eq_some_iff.mpr ⟨i, stepsToOpening?_larger more steps, rfl⟩

theorem growth?_larger_forward {forward : Nat} {g : Growth} (more : b.forward ≤ forward)
    (shown : d.selectsBlank = false) (grown : d.growth? b = some g)
    (opened : g.route ≠ .noOpeningBracket) : d.growth? { b with forward } = some g := by
  rcases growth?_cases shown grown with ⟨hit, rfl⟩ | ⟨miss, anchored, found, rfl⟩ | ⟨_, _, rfl⟩
  · exact growth?_direct shown hit
  · exact growth?_anchored shown miss (anchor?_larger more found)
  · exact absurd rfl opened

theorem growth?_hit (hit : d.isDirectHit = true) (backward forward : Nat) :
    d.growth? { b with backward, forward } = d.growth? b := by
  cases shown : d.selectsBlank with
  | true => rw [growth?_blank shown, growth?_blank shown]
  | false =>
    rw [growth?_direct shown hit, growth?_direct shown hit]
    rfl

/-! ### Larger budgets -/

theorem expand_of_unspent {balance : Nat} (more : b.balance ≤ balance)
    (unspent : d.ending b ≠ some .budgetExhausted) :
    (d.expand { b with balance }).value = (d.expand b).value := by
  apply expand_congr
  cases shown : d.selectsBlank with
  | true => rw [growth?_blank shown, growth?_blank shown]
  | false =>
    obtain ⟨g, grown⟩ := growth?_shown b shown
    obtain ⟨g', grown', continued⟩ := growth?_continued more shown grown
    rw [ending_grown grown] at unspent
    rw [grown, grown', continued.same fun spent => unspent (congrArg some spent)]

theorem expand_of_spent {balance : Nat} (more : b.balance ≤ balance)
    (spent : d.ending b = some .budgetExhausted) :
    ∃ e d' e' d'', (d.expand b).value = (.ok e, d') ∧
      (d.expand { b with balance }).value = (.ok e', d'') ∧ d''.chars = d'.chars ∧
      d''.selection.start = d'.selection.start ∧ d'.selection.stop ≤ d''.selection.stop := by
  obtain ⟨shown, _⟩ := ending_eq_iff.mp spent
  obtain ⟨g, grown⟩ := growth?_shown b shown
  obtain ⟨g', grown', continued⟩ := growth?_continued more shown grown
  exact ⟨_, _, _, _, expand_grown grown, expand_grown grown', continued.chars, continued.start,
    continued.stop⟩

theorem expand_of_found {forward : Nat} (more : b.forward ≤ forward)
    (found : d.ending b ≠ some .noOpeningBracket) :
    (d.expand { b with forward }).value = (d.expand b).value := by
  apply expand_congr
  cases shown : d.selectsBlank with
  | true => rw [growth?_blank shown, growth?_blank shown]
  | false =>
    obtain ⟨g, grown⟩ := growth?_shown b shown
    rw [ending_grown grown] at found
    rw [grown, growth?_larger_forward more shown grown fun none => found (congrArg some none)]

theorem isDirectHit_of_ending (ended : d.ending b = some .directHit) : d.isDirectHit = true := by
  obtain ⟨_, hit, _⟩ := ending_eq_iff.mp ended
  exact hit

/-- An expansion that did not spend its balance budget is the same under any larger one, and one
that did starts at the same place and ends no earlier. An expansion that found a parenthesis is the
same under any larger forward budget. The budgets of the anchored walk have no say in a direct
hit. -/
theorem expand_larger_budgets (b : Budgets) (d : Document) :
    (∀ balance, b.balance ≤ balance →
      (d.ending b ≠ some .budgetExhausted →
        (d.expand { b with balance }).value = (d.expand b).value) ∧
      (d.ending b = some .budgetExhausted →
        ∃ e d' e' d'', (d.expand b).value = (.ok e, d') ∧
          (d.expand { b with balance }).value = (.ok e', d'') ∧ d''.chars = d'.chars ∧
          d''.selection.start = d'.selection.start ∧ d'.selection.stop ≤ d''.selection.stop)) ∧
    (∀ forward, b.forward ≤ forward → d.ending b ≠ some .noOpeningBracket →
      (d.expand { b with forward }).value = (d.expand b).value) ∧
    (d.ending b = some .directHit → d.isDirectHit = true) ∧
    (d.isDirectHit = true → ∀ backward forward,
      (d.expand { b with backward, forward }).value = (d.expand b).value) :=
  ⟨fun _ more => ⟨expand_of_unspent more, expand_of_spent more⟩, fun _ => expand_of_found,
    isDirectHit_of_ending, fun hit _ _ => expand_congr (growth?_hit hit _ _)⟩

theorem expand_larger_budgets_row :
    let d := (ofString "a Row (x[y], z) b").select 2 5
    (3 ≤ 8 ∧ d.ending { balance := 3 } = some .budgetExhausted ∧
      ∃ e d' e' d'', (d.expand { balance := 3 }).value = (.ok e, d') ∧
        (d.expand { balance := 8 }).value = (.ok e', d'') ∧ d''.chars = d'.chars ∧
        d''.selection.start = d'.selection.start ∧ d'.selection.stop ≤ d''.selection.stop) ∧
    (8 ≤ 20 ∧ d.ending { balance := 8 } ≠ some .budgetExhausted ∧
      (d.expand { balance := 20 }).value = (d.expand { balance := 8 }).value) ∧
    (5 ≤ 6 ∧ d.ending { forward := 5, balance := 8 } ≠ some .noOpeningBracket ∧
      (d.expand { forward := 6, balance := 8 }).value =
        (d.expand { forward := 5, balance := 8 }).value) ∧
    let call := (ofString "Row(x)").select 0 3
    call.ending {} = some .directHit ∧ call.isDirectHit = true ∧
      ∀ backward forward, (call.expand { backward, forward }).value = (call.expand {}).value := by
  have cut : ((ofString "a Row (x[y], z) b").select 2 5).ending { balance := 3 } =
      some .budgetExhausted := by cbv
  have closed : ((ofString "a Row (x[y], z) b").select 2 5).ending { balance := 8 } =
      some .anchored := by cbv
  have found : ((ofString "a Row (x[y], z) b").select 2 5).ending { forward := 5, balance := 8 } =
      some .anchored := by cbv
  have direct : ((ofString "Row(x)").select 0 3).ending {} = some .directHit := by cbv
  have unspent : some Route.anchored ≠ some .budgetExhausted := by decide
  have opened : some Route.anchored ≠ some .noOpeningBracket := by decide
  intro d
  obtain ⟨longer, _⟩ := expand_larger_budgets { balance := 3 } d
  obtain ⟨settled, _⟩ := expand_larger_budgets { balance := 8 } d
  obtain ⟨_, ahead, _⟩ := expand_larger_budgets { forward := 5, balance := 8 } d
  obtain ⟨_, _, hits, anywhere⟩ := expand_larger_budgets {} ((ofString "Row(x)").select 0 3)
  refine ⟨⟨by decide, cut, (longer 8 (by decide)).2 cut⟩,
    ⟨by decide, closed ▸ unspent, (settled 20 (by decide)).1 (closed ▸ unspent)⟩,
    ⟨by decide, found ▸ opened, ahead 6 (by decide) (found ▸ opened)⟩, direct, hits direct, ?_⟩
  exact anywhere (hits direct)

end Document

/-! ### Budgets beyond the text -/

theorem stepsBack_min {budget n taken : Nat} {behind : List Char} (short : behind.length ≤ n) :
    stepsBack (min budget n) taken behind = stepsBack budget taken behind := by
  induction behind generalizing budget n taken with
  | nil => rw [stepsBack, stepsBack]
  | cons c behind ih =>
    obtain ⟨n, rfl⟩ : ∃ m, n = m + 1 := ⟨n - 1, by rw [List.length_cons] at short; omega⟩
    cases budget with
    | zero => rw [Nat.zero_min]
    | succ budget =>
      rw [Nat.add_min_add_right, stepsBack, stepsBack, ih (Nat.le_of_succ_le_succ short)]

theorem stepsToOpening?_min {budget n : Nat} {ahead : List Char} (short : ahead.length ≤ n) :
    stepsToOpening? (min budget n) ahead = stepsToOpening? budget ahead := by
  rw [stepsToOpening?, ← List.take_take, List.take_of_length_le short, stepsToOpening?]

theorem closeBrackets_unspent {budget taken : Nat} {s : BracketStack} {ahead : List Char}
    (short : ahead.length < budget) (n : Nat) :
    (closeBrackets budget s taken ahead).2 ≠ .budgetSpent n := by
  have walk := closeBrackets_spec budget s taken ahead
  generalize closeBrackets budget s taken ahead = r at walk
  cases walk with
  | balanced _ _ _ => exact Closing.noConfusion
  | textEnded _ _ => exact Closing.noConfusion
  | budgetSpent within _ => exact absurd short (Nat.not_lt_of_le within)

/-- The end of the text is seen by a step that takes no character, so the budget has to allow for
one more step than there are characters. -/
theorem closeBrackets_min {budget n taken : Nat} {s : BracketStack} {ahead : List Char}
    (short : ahead.length < n) :
    closeBrackets (min budget n) s taken ahead = closeBrackets budget s taken ahead := by
  rcases Nat.le_total budget n with small | large
  · rw [Nat.min_eq_left small]
  · rw [Nat.min_eq_right large, closeBrackets_larger large (closeBrackets_unspent short)]

def Budgets.cut (b : Budgets) (n : Nat) : Budgets where
  backward := min b.backward n
  forward := min b.forward n
  balance := min b.balance n

namespace Document

variable {b : Budgets} {d : Document}

theorem anchor?_cut (b : Budgets) (d : Document) : d.anchor? (b.cut d.length) = d.anchor? b := by
  have behind : (d.chars.take d.selection.start).reverse.length ≤ d.length := by
    rw [List.length_reverse]
    exact List.length_take_le' _ _
  have ahead : (d.chars.drop d.selection.start).length ≤ d.length := by
    rw [List.length_drop]
    exact Nat.sub_le _ _
  simp only [anchor?, Budgets.cut, stepsBack_min behind, stepsToOpening?_min ahead]

theorem closeCall_cut (b : Budgets) (opened : Document) (some : 0 < opened.selection.stop)
    (route : Route) :
    opened.closeCall (b.cut opened.length) route = opened.closeCall b route := by
  have ahead : (opened.chars.drop opened.selection.stop).length < opened.length := by
    have fits : opened.selection.stop ≤ opened.chars.length := opened.fits
    rw [List.length_drop, Document.length]
    omega
  unfold closeCall
  rw [Budgets.cut, closeBrackets_min ahead]

theorem growth?_cut (b : Budgets) (d : Document) : d.growth? (b.cut d.length) = d.growth? b := by
  cases shown : d.selectsBlank with
  | true => rw [growth?_blank shown, growth?_blank shown]
  | false =>
    cases hit : d.isDirectHit with
    | true =>
      obtain ⟨p, _, _, _, stop⟩ := pushedAt_of_hit (b := b) shown hit
      have length : d.probed.length = d.length := rfl
      rw [growth?_direct shown hit, growth?_direct shown hit, ← length,
        closeCall_cut b d.probed (by omega)]
    | false =>
      cases found : d.anchor? b with
      | none => rw [growth?_kept shown hit found, growth?_kept shown hit (anchor?_cut b d ▸ found)]
      | some anchored =>
        obtain ⟨_, p, _, _, chars, selection⟩ := anchor?_eq_some found
        have length : anchored.length = d.length := congrArg List.length chars
        have stop : 0 < anchored.selection.stop := by
          rw [selection]
          exact Nat.zero_lt_succ p
        rw [growth?_anchored shown hit found,
          growth?_anchored shown hit ((anchor?_cut b d).trans found), ← length,
          closeCall_cut b anchored stop]

/-- Budgets beyond the length of the document change nothing: neither the result of an expansion
nor that of its walks taken step by step, which goes on at the ends of the text. -/
theorem expand_saturated (b : Budgets) (d : Document) :
    (d.expand (b.cut d.length)).value = (d.expand b).value ∧
    d.ending (b.cut d.length) = d.ending b ∧
    d.offsets.expand? (b.cut d.length) = d.offsets.expand? b ∧
    d.offsets.expand? b = some ((d.expand b).value.1, (d.expand b).value.2.offsets) := by
  have same : (d.expand (b.cut d.length)).value = (d.expand b).value :=
    expand_congr (growth?_cut b d)
  refine ⟨same, ?_, ?_, Offsets.expand?_offsets b d⟩
  · rw [ending, same, ending]
  · rw [Offsets.expand?_offsets, Offsets.expand?_offsets, same]

/-- Cut to one character less, a budget may be spent where the text ends. -/
example : ((ofString "(a").select 0 1).ending { balance := 2 } = some .endOfDocument ∧
    ((ofString "(a").select 0 1).ending { balance := 1 } = some .budgetExhausted :=
  ⟨by cbv, by cbv⟩

end Document

end CallCapture

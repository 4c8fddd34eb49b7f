import CallCapture.Proofs.Anchor
import CallCapture.Proofs.Closing
import CallCapture.Proofs.Slice

namespace CallCapture.Document

variable {b : Budgets} {d : Document}

theorem probed_eq (d : Document) : d.probed = d.advance 1 := rfl

theorem probed_chars (d : Document) : d.probed.chars = d.chars := rfl

theorem isDirectHit_iff_last (shown : d.selectsBlank = false) :
    d.isDirectHit = true ↔ d.chars[d.probed.selection.stop - 1]? = some '(' := by
  have later : d.probed.selection.start < d.probed.selection.stop := by
    have less := start_lt_stop shown
    have fits : d.selection.stop ≤ d.length := d.fits
    simp only [probed_eq, advance]
    omega
  rw [isDirectHit, beq_iff_eq, selected]
  exact Eq.congr_left (d.probed.slice_getLast? later d.probed.fits)

theorem isDirectHit_iff (shown : d.selectsBlank = false) (inside : d.selection.stop < d.length) :
    d.isDirectHit = true ↔ d.chars[d.selection.stop]? = some '(' := by
  rw [isDirectHit_iff_last shown, probed_eq, advance_selection inside, Nat.add_sub_cancel]

theorem isDirectHit_iff_of_end (shown : d.selectsBlank = false)
    (ended : d.selection.stop = d.length) :
    d.isDirectHit = true ↔ d.chars[d.length - 1]? = some '(' := by
  have stays : d.probed.selection.stop = d.length := by
    simp only [probed_eq, advance]
    omega
  rw [isDirectHit_iff_last shown, stays]

/-- The `k` characters from an offset on close a call. -/
def ClosesCallAt (d : Document) (i k : Nat) : Prop :=
  i + k ≤ d.length ∧ ClosesCall (d.slice ⟨i, i + k⟩)

theorem ClosesCallAt.pos {i k : Nat} (h : d.ClosesCallAt i k) : 1 ≤ k := by
  cases k with
  | zero =>
    have nothing := h.2
    rw [Nat.add_zero, slice_self] at nothing
    exact absurd nothing closesCall_not_nil
  | succ k => exact Nat.succ_le_succ (Nat.zero_le k)

theorem closesCallAt_iff {i k : Nat} (within : i ≤ d.length) :
    d.ClosesCallAt i k ↔ EmptiesAt (BracketStack.empty.push '(') (d.chars.drop i) k := by
  rw [emptiesAt_call_iff, ClosesCallAt, slice_add, List.length_drop]
  have room : i + k ≤ d.length ↔ k ≤ d.chars.length - i := by
    simp only [length] at *
    omega
  rw [room]

theorem ClosesCallAt.unique {i j k : Nat} (hj : d.ClosesCallAt i j) (hk : d.ClosesCallAt i k) :
    j = k := by
  have within : i ≤ d.length := Nat.le_trans (Nat.le_add_right _ _) hj.1
  exact ((closesCallAt_iff within).mp hj).unique ((closesCallAt_iff within).mp hk)

theorem ClosesCallAt.last {i k : Nat} (closes : d.ClosesCallAt i k) :
    d.chars[i + k - 1]? = some ')' := by
  have some := closes.pos
  obtain ⟨room, body, _, call⟩ := closes
  have last := d.slice_getLast? (i := i) (j := i + k) (by omega) room
  rw [call, List.getLast?_concat] at last
  exact last.symm

theorem ClosesCallAt.of_chars {d' : Document} {i k : Nat} (same : d'.chars = d.chars) :
    d'.ClosesCallAt i k ↔ d.ClosesCallAt i k := by
  simp only [ClosesCallAt, length, same, slice_congr same]

@[simp] theorem closeCall_chars (b : Budgets) (route : Route) (d : Document) :
    (d.closeCall b route).grown.chars = d.chars := by
  unfold closeCall
  split <;> rfl

@[simp] theorem closeCall_start (b : Budgets) (route : Route) (d : Document) :
    (d.closeCall b route).grown.selection.start = d.selection.start := by
  unfold closeCall
  split <;> rfl

theorem closeCall_closed {k : Nat} (near : k ≤ b.balance)
    (closes : d.ClosesCallAt d.selection.stop k) (route : Route) :
    d.closeCall b route = ⟨route, d.advance k, 0⟩ := by
  have emptied := (closesCallAt_iff d.fits).mp closes
  unfold closeCall
  rw [closeBrackets_eq (.balanced k near emptied), Nat.zero_add]

theorem closeCall_unclosed (unclosed : ∀ k ≤ b.balance, ¬ d.ClosesCallAt d.selection.stop k)
    (route : Route) :
    (d.closeCall b route).route = .endOfDocument ∨
      (d.closeCall b route).route = .budgetExhausted := by
  have walk := closeBrackets_spec b.balance (BracketStack.empty.push '(') 0
    (d.chars.drop d.selection.stop)
  unfold closeCall
  generalize closeBrackets b.balance _ 0 _ = r at walk
  cases walk with
  | balanced k near first => exact absurd ((closesCallAt_iff d.fits).mpr first) (unclosed k near)
  | textEnded _ _ => exact .inl rfl
  | budgetSpent _ _ => exact .inr rfl

theorem closeCall_route_iff {route r : Route} (balanced : r.isDegraded = false) :
    (d.closeCall b route).route = r ↔
      route = r ∧ ∃ k ≤ b.balance, d.ClosesCallAt d.selection.stop k := by
  constructor
  · intro ends
    by_cases closes : ∃ k ≤ b.balance, d.ClosesCallAt d.selection.stop k
    · obtain ⟨k, near, closed⟩ := closes
      rw [closeCall_closed near closed] at ends
      exact ⟨ends, k, near, closed⟩
    · push Not at closes
      rcases closeCall_unclosed closes route with ended | spent
      · rw [← ends, ended] at balanced
        cases balanced
      · rw [← ends, spent] at balanced
        cases balanced
  · rintro ⟨rfl, k, near, closes⟩
    rw [closeCall_closed near closes]

theorem growth?_blank (blank : d.selectsBlank = true) : d.growth? b = none := by
  simp only [growth?, blank, if_true]

theorem growth?_direct (shown : d.selectsBlank = false) (hit : d.isDirectHit = true) :
    d.growth? b = some (d.probed.closeCall b .directHit) := by
  simp only [growth?, shown, hit, Bool.false_eq_true, if_false, if_true]

theorem growth?_anchored {anchored : Document} (shown : d.selectsBlank = false)
    (miss : d.isDirectHit = false) (found : d.anchor? b = some anchored) :
    d.growth? b = some (anchored.closeCall b .anchored) := by
  simp only [growth?, shown, miss, found, Bool.false_eq_true, if_false]

theorem growth?_kept (shown : d.selectsBlank = false) (miss : d.isDirectHit = false)
    (missing : d.anchor? b = none) : d.growth? b = some ⟨.noOpeningBracket, d, 0⟩ := by
  simp only [growth?, shown, miss, missing, Bool.false_eq_true, if_false, restore_selection]

theorem growth?_shown (b : Budgets) (shown : d.selectsBlank = false) :
    ∃ g, d.growth? b = some g := by
  cases hit : d.isDirectHit with
  | true => exact ⟨_, growth?_direct shown hit⟩
  | false =>
    cases found : d.anchor? b with
    | some anchored => exact ⟨_, growth?_anchored shown hit found⟩
    | none => exact ⟨_, growth?_kept shown hit found⟩

def Growth.result (g : Growth) : Except CaptureError Expansion × Document :=
  (.ok ⟨String.ofList (Text.trim g.grown.selected), g.route⟩, g.grown)

theorem expand_blank (blank : d.selectsBlank = true) :
    (d.expand b).value = (.error .emptySelection, d) := by
  simp only [expand, growth?, blank, if_true]

theorem expand_grown {g : Growth} (h : d.growth? b = some g) :
    (d.expand b).value = g.result := by
  simp only [expand, h, Growth.result]

theorem expand_congr {b' : Budgets} (same : d.growth? b' = d.growth? b) :
    (d.expand b').value = (d.expand b).value := by
  cases shown : d.selectsBlank with
  | true => rw [expand_blank shown, expand_blank shown]
  | false =>
    obtain ⟨g, grown⟩ := growth?_shown b shown
    rw [expand_grown grown, expand_grown (same.trans grown)]

theorem expand_ok {text : String} {route : Route} {d' : Document}
    (h : (d.expand b).value = (.ok ⟨text, route⟩, d')) :
    d.selectsBlank = false ∧ ∃ g, d.growth? b = some g ∧ g.route = route ∧ g.grown = d' ∧
      text = String.ofList (Text.trim d'.selected) := by
  cases blank : d.selectsBlank with
  | true =>
    rw [expand_blank blank] at h
    cases h
  | false =>
    refine ⟨rfl, ?_⟩
    cases grown : d.growth? b with
    | none => simp [expand, grown] at h
    | some g =>
      rw [expand_grown grown] at h
      cases h
      exact ⟨g, rfl, rfl, rfl, rfl⟩

theorem growth?_cases {g : Growth} (shown : d.selectsBlank = false) (h : d.growth? b = some g) :
    (d.isDirectHit = true ∧ g = d.probed.closeCall b .directHit) ∨
    (d.isDirectHit = false ∧ ∃ anchored, d.anchor? b = some anchored ∧
      g = anchored.closeCall b .anchored) ∨
    (d.isDirectHit = false ∧ d.anchor? b = none ∧ g = ⟨.noOpeningBracket, d, 0⟩) := by
  cases hit : d.isDirectHit with
  | true =>
    rw [growth?_direct shown hit] at h
    exact .inl ⟨rfl, (Option.some.inj h).symm⟩
  | false =>
    cases found : d.anchor? b with
    | some anchored =>
      rw [growth?_anchored shown hit found] at h
      exact .inr (.inl ⟨rfl, anchored, rfl, (Option.some.inj h).symm⟩)
    | none =>
      rw [growth?_kept shown hit found] at h
      exact .inr (.inr ⟨rfl, rfl, (Option.some.inj h).symm⟩)

end CallCapture.Document

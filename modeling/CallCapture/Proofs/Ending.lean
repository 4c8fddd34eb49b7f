import CallCapture.Proofs.Reexpansion

/-! The parenthesis that an expansion pushes is answered within the balance budget, or the text ends
first, or the budget is spent first; the number of characters behind it tells which. -/

namespace CallCapture.Document

variable {b : Budgets} {d opened : Document} {q : Nat}

/-! ### Unanswered parentheses -/

def room (b : Budgets) (d : Document) (q : Nat) : Nat := min (d.length - q - 1) b.balance

/-- Nothing that the walk may take empties the stack on which the parenthesis was pushed. -/
def Unanswered (b : Budgets) (d : Document) (q : Nat) : Prop :=
  ∀ k, 0 < k → k ≤ d.room b q →
    (BracketStack.empty.push '(').after ((d.chars.drop (q + 1)).take k) ≠ .empty

theorem unanswered_iff_staysOpen :
    d.Unanswered b q ↔
      StaysOpen (BracketStack.empty.push '(') (d.chars.drop (q + 1)) (d.room b q) := by
  constructor
  · intro unanswered k short
    cases k with
    | zero => rfl
    | succ k =>
      apply Bool.eq_false_of_not_eq_true
      intro shut
      exact unanswered (k + 1) (Nat.zero_lt_succ k) short (BracketStack.isEmpty_iff.mp shut)
  · intro opened k _ short shut
    have still := opened k short
    rw [shut] at still
    cases still

theorem room_le_length (b : Budgets) (d : Document) (q : Nat) :
    d.room b q ≤ (d.chars.drop (q + 1)).length := by
  rw [List.length_drop, room, length]
  omega

theorem unanswered_iff (inside : q < d.length) :
    d.Unanswered b q ↔ ∀ k ≤ b.balance, ¬ d.ClosesCallAt (q + 1) k := by
  rw [unanswered_iff_staysOpen]
  constructor
  · intro opened k near closes
    have emptied := (closesCallAt_iff inside).mp closes
    have within := closes.1
    have short : k ≤ d.room b q := by
      rw [room]
      omega
    exact opened.not_emptiesAt short emptied
  · intro unclosed
    have walk := closeBrackets_spec b.balance (BracketStack.empty.push '(') 0
      (d.chars.drop (q + 1))
    generalize closeBrackets b.balance _ 0 _ = r at walk
    cases walk with
    | balanced k near first =>
      exact absurd ((closesCallAt_iff inside).mpr first) (unclosed k near)
    | textEnded _ opened => exact fun k short => opened k (short.trans (d.room_le_length b q))
    | budgetSpent _ opened => exact fun k short => opened k (short.trans (Nat.min_le_right _ _))

/-! ### From the pushed parenthesis on -/

theorem PushedAt.inside (pushed : d.PushedAt b q) : q < d.length := by
  rcases pushed with ⟨_, last⟩ | ⟨_, first⟩
  · have fits : d.probed.selection.stop ≤ d.length := d.probed.fits
    omega
  · obtain ⟨within, _⟩ := List.getElem?_eq_some_iff.mp first.1.opening
    exact within

def callRoute (d : Document) : Route := if d.isDirectHit then .directHit else .anchored

theorem growth?_of_pushed (shown : d.selectsBlank = false) (pushed : d.PushedAt b q) :
    ∃ opened : Document, opened.chars = d.chars ∧ opened.selection.stop = q + 1 ∧
      d.growth? b = some (opened.closeCall b d.callRoute) := by
  rcases pushed with ⟨hit, last⟩ | ⟨miss, first⟩
  · refine ⟨d.probed, d.probed_chars, last.symm, ?_⟩
    rw [growth?_direct shown hit, callRoute, if_pos hit]
  · cases found : d.anchor? b with
    | none => exact absurd first.1 (anchor?_eq_none_iff.mp found q)
    | some anchored =>
      obtain ⟨_, p, _, first', chars, selection⟩ := anchor?_eq_some found
      refine ⟨anchored, chars, ?_, ?_⟩
      · rw [selection, first'.unique first]
      · rw [growth?_anchored shown miss found, callRoute, miss]
        rfl

theorem growth?_of_unpushed (shown : d.selectsBlank = false) (never : ∀ q, ¬ d.PushedAt b q) :
    d.growth? b = some ⟨.noOpeningBracket, d, 0⟩ := by
  cases hit : d.isDirectHit with
  | true =>
    obtain ⟨q, pushed, _⟩ := pushedAt_of_hit (b := b) shown hit
    exact absurd pushed (never q)
  | false =>
    cases found : d.anchor? b with
    | none => exact growth?_kept shown hit found
    | some anchored =>
      obtain ⟨_, q, _, first, _⟩ := anchor?_eq_some found
      exact absurd (.inr ⟨hit, first⟩) (never q)

theorem closeCall_unanswered (same : opened.chars = d.chars) (stop : opened.selection.stop = q + 1)
    (unanswered : d.Unanswered b q) (route : Route) :
    (d.length - q - 1 < b.balance →
      (opened.closeCall b route).route = .endOfDocument ∧
        (opened.closeCall b route).grown.selection.stop = d.length) ∧
    (b.balance ≤ d.length - q - 1 →
      (opened.closeCall b route).route = .budgetExhausted ∧
        (opened.closeCall b route).grown.selection.stop = q + 1 + b.balance) := by
  have fits : q + 1 ≤ d.length := by
    have fits := opened.fits
    rw [stop, same] at fits
    exact fits
  have length : (opened.chars.drop opened.selection.stop).length = d.length - q - 1 := by
    rw [same, stop, List.length_drop, Document.length, Nat.sub_add_eq]
  have still := unanswered_iff_staysOpen.mp unanswered
  rw [← same, ← stop, room, ← length] at still
  unfold closeCall
  rw [← length]
  constructor
  · intro near
    rw [Nat.min_eq_left (Nat.le_of_lt near)] at still
    rw [closeBrackets_eq (.textEnded near still), length]
    refine ⟨rfl, ?_⟩
    simp only [advance, stop, Document.length, same] at *
    omega
  · intro far
    rw [Nat.min_eq_right far] at still
    rw [closeBrackets_eq (.budgetSpent far still)]
    refine ⟨rfl, ?_⟩
    simp only [advance, stop, Document.length, same] at *
    omega

theorem expand_unanswered (shown : d.selectsBlank = false) (pushed : d.PushedAt b q)
    (unanswered : d.Unanswered b q) :
    ∃ text route d', (d.expand b).value = (.ok ⟨text, route⟩, d') ∧ d'.chars = d.chars ∧
      (d.length - q - 1 < b.balance →
        route = .endOfDocument ∧ d'.selection.stop = d.length) ∧
      (b.balance ≤ d.length - q - 1 →
        route = .budgetExhausted ∧ d'.selection.stop = q + 1 + b.balance) := by
  obtain ⟨opened, same, stop, grown⟩ := growth?_of_pushed shown pushed
  refine ⟨_, _, _, expand_grown grown, ?_, closeCall_unanswered same stop unanswered _⟩
  rw [closeCall_chars, same]

/-! ### Endings -/

/-- How an expansion ends: by its route, or `none` with an error. -/
def ending (b : Budgets) (d : Document) : Option Route :=
  (d.expand b).value.1.toOption.map (·.route)

/-- What has to hold of a document for an expansion to end in a way. -/
def EndsIn (b : Budgets) (d : Document) : Option Route → Prop
  | none => d.selectsBlank = true
  | some .noOpeningBracket => d.selectsBlank = false ∧ ∀ q, ¬ d.PushedAt b q
  | some .directHit =>
    d.selectsBlank = false ∧ d.isDirectHit = true ∧
      ∃ q, d.PushedAt b q ∧ ∃ k ≤ b.balance, d.ClosesCallAt (q + 1) k
  | some .anchored =>
    d.selectsBlank = false ∧ d.isDirectHit = false ∧
      ∃ q, d.PushedAt b q ∧ ∃ k ≤ b.balance, d.ClosesCallAt (q + 1) k
  | some .endOfDocument =>
    d.selectsBlank = false ∧
      ∃ q, d.PushedAt b q ∧ d.Unanswered b q ∧ d.length - q - 1 < b.balance
  | some .budgetExhausted =>
    d.selectsBlank = false ∧
      ∃ q, d.PushedAt b q ∧ d.Unanswered b q ∧ b.balance ≤ d.length - q - 1

theorem ending_grown {g : Growth} (grown : d.growth? b = some g) : d.ending b = some g.route := by
  rw [ending, expand_grown grown]
  rfl

theorem ending_closed {k : Nat} (shown : d.selectsBlank = false) (pushed : d.PushedAt b q)
    (near : k ≤ b.balance) (closes : d.ClosesCallAt (q + 1) k) :
    d.ending b = some d.callRoute := by
  obtain ⟨opened, same, stop, grown⟩ := growth?_of_pushed shown pushed
  have closed : opened.ClosesCallAt opened.selection.stop k := by
    rw [stop]
    exact (ClosesCallAt.of_chars same).mpr closes
  rw [ending_grown grown, closeCall_closed near closed]

theorem ending_unanswered (shown : d.selectsBlank = false) (pushed : d.PushedAt b q)
    (unanswered : d.Unanswered b q) :
    (d.length - q - 1 < b.balance → d.ending b = some .endOfDocument) ∧
      (b.balance ≤ d.length - q - 1 → d.ending b = some .budgetExhausted) := by
  obtain ⟨text, route, d', h, _, early, spent⟩ := expand_unanswered shown pushed unanswered
  have route : d.ending b = some route := by
    rw [ending, h]
    rfl
  rw [route]
  exact ⟨fun near => congrArg some (early near).1, fun far => congrArg some (spent far).1⟩

theorem ending_of_endsIn {o : Option Route} (ends : d.EndsIn b o) : d.ending b = o := by
  cases o with
  | none =>
    rw [ending, expand_blank ends]
    rfl
  | some route =>
    cases route with
    | noOpeningBracket =>
      obtain ⟨shown, never⟩ := ends
      exact ending_grown (growth?_of_unpushed shown never)
    | directHit =>
      obtain ⟨shown, hit, q, pushed, k, near, closes⟩ := ends
      rw [ending_closed shown pushed near closes, callRoute, if_pos hit]
    | anchored =>
      obtain ⟨shown, miss, q, pushed, k, near, closes⟩ := ends
      rw [ending_closed shown pushed near closes, callRoute, miss]
      rfl
    | endOfDocument =>
      obtain ⟨shown, q, pushed, unanswered, near⟩ := ends
      exact (ending_unanswered shown pushed unanswered).1 near
    | budgetExhausted =>
      obtain ⟨shown, q, pushed, unanswered, far⟩ := ends
      exact (ending_unanswered shown pushed unanswered).2 far

theorem exists_endsIn (b : Budgets) (d : Document) : ∃ o, d.EndsIn b o := by
  cases shown : d.selectsBlank with
  | true => exact ⟨none, shown⟩
  | false =>
    by_cases pushes : ∃ q, d.PushedAt b q
    · obtain ⟨q, pushed⟩ := pushes
      by_cases unanswered : d.Unanswered b q
      · rcases Nat.lt_or_ge (d.length - q - 1) b.balance with near | far
        · exact ⟨some .endOfDocument, shown, q, pushed, unanswered, near⟩
        · exact ⟨some .budgetExhausted, shown, q, pushed, unanswered, far⟩
      · rw [unanswered_iff pushed.inside] at unanswered
        push Not at unanswered
        obtain ⟨k, near, closes⟩ := unanswered
        cases hit : d.isDirectHit with
        | true => exact ⟨some .directHit, shown, hit, q, pushed, k, near, closes⟩
        | false => exact ⟨some .anchored, shown, hit, q, pushed, k, near, closes⟩
    · exact ⟨some .noOpeningBracket, shown, fun q pushed => pushes ⟨q, pushed⟩⟩

theorem ending_eq_iff {o : Option Route} : d.ending b = o ↔ d.EndsIn b o := by
  constructor
  · rintro rfl
    obtain ⟨o, ends⟩ := exists_endsIn b d
    rw [ending_of_endsIn ends]
    exact ends
  · exact ending_of_endsIn

theorem expand_error {e : CaptureError} (failed : (d.expand b).value.1 = .error e) :
    e = .emptySelection ∧ d.selectsBlank = true := by
  cases blank : d.selectsBlank with
  | true =>
    rw [expand_blank blank] at failed
    cases failed
    exact ⟨rfl, rfl⟩
  | false =>
    obtain ⟨g, grown⟩ := growth?_shown b blank
    rw [expand_grown grown] at failed
    cases failed

theorem isDegraded_iff (r : Route) :
    r.isDegraded = true ↔
      r = .noOpeningBracket ∨ r = .endOfDocument ∨ r = .budgetExhausted := by
  cases r <;> decide

/-- An expansion whose parenthesis stays unanswered ends with the text when fewer characters follow
than the budget allows, and where the budget is spent otherwise. These two endings, a direct hit,
an anchored call, a selection that is kept, and the error on a blank one exclude each other, and
there is no further one; those that give no call are the degraded ones. -/
theorem expand_ends (b : Budgets) (d : Document) :
    (∀ q, d.selectsBlank = false → d.PushedAt b q → d.Unanswered b q →
      ∃ text route d', (d.expand b).value = (.ok ⟨text, route⟩, d') ∧ d'.chars = d.chars ∧
        (d.length - q - 1 < b.balance →
          route = .endOfDocument ∧ d'.selection.stop = d.length) ∧
        (b.balance ≤ d.length - q - 1 →
          route = .budgetExhausted ∧ d'.selection.stop = q + 1 + b.balance)) ∧
    (∃! o, d.EndsIn b o) ∧
    (∀ o, d.ending b = o ↔ d.EndsIn b o) ∧
    (∀ e, (d.expand b).value.1 = .error e ↔ e = .emptySelection ∧ d.EndsIn b none) ∧
    ∀ r : Route, r.isDegraded = true ↔
      r = .noOpeningBracket ∨ r = .endOfDocument ∨ r = .budgetExhausted := by
  refine ⟨fun q shown pushed unanswered => expand_unanswered shown pushed unanswered, ?_,
    fun o => ending_eq_iff, ?_, isDegraded_iff⟩
  · refine ⟨d.ending b, ending_eq_iff.mp rfl, ?_⟩
    intro o ends
    exact (ending_of_endsIn ends).symm
  · intro e
    constructor
    · exact expand_error
    · rintro ⟨rfl, blank⟩
      rw [expand_blank blank]

/-- A budget of as many characters as follow the parenthesis is spent; one more, and the text ends
first. -/
theorem expand_ends_unclosed_row :
    let d := (ofString "a Row(x[)").select 2 5
    (d.selectsBlank = false ∧ d.PushedAt { balance := 3 } 5 ∧ d.Unanswered { balance := 3 } 5 ∧
      d.PushedAt { balance := 4 } 5 ∧ d.Unanswered { balance := 4 } 5) ∧
    d.EndsIn { balance := 3 } (some .budgetExhausted) ∧
    d.EndsIn { balance := 4 } (some .endOfDocument) ∧
    (∃ text d', (d.expand { balance := 3 }).value = (.ok ⟨text, .budgetExhausted⟩, d') ∧
      d'.selection.stop = 9) ∧
    ∃ text d', (d.expand { balance := 4 }).value = (.ok ⟨text, .endOfDocument⟩, d') ∧
      d'.selection.stop = 9 := by
  intro d
  have shown : d.selectsBlank = false := by decide
  have pushed (b : Budgets) : d.PushedAt b 5 := .inl ⟨by decide, by decide⟩
  have unanswered (b : Budgets) : d.Unanswered b 5 := by
    intro k some short
    have near : k ≤ 3 := short.trans (Nat.min_le_left _ _)
    obtain rfl | rfl | rfl : k = 1 ∨ k = 2 ∨ k = 3 := by omega
    all_goals decide
  obtain ⟨spent, _, spentIn, _⟩ := expand_ends { balance := 3 } d
  obtain ⟨ended, _, endedIn, _⟩ := expand_ends { balance := 4 } d
  obtain ⟨_, _, _, h, _, _, far⟩ := spent 5 shown (pushed _) (unanswered _)
  obtain ⟨_, _, _, h', _, near, _⟩ := ended 5 shown (pushed _) (unanswered _)
  obtain ⟨rfl, stop⟩ := far (by decide)
  obtain ⟨rfl, stop'⟩ := near (by decide)
  refine ⟨⟨shown, pushed _, unanswered _, pushed _, unanswered _⟩, ?_, ?_, ⟨_, _, h, stop⟩,
    ⟨_, _, h', stop'⟩⟩
  · apply (spentIn _).mp
    rw [ending, h]
    rfl
  · apply (endedIn _).mp
    rw [ending, h']
    rfl

end CallCapture.Document

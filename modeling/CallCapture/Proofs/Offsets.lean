import CallCapture.Proofs.Expansion
import CallCapture.Proofs.Session

/-! A text and two offsets that nothing holds within it: reading with offsets that are out of order
or out of the text fails. On the offsets of a document none of the operations does. -/

namespace CallCapture

structure Offsets where
  chars : List Char
  start : Nat
  stop : Nat

def Document.offsets (d : Document) : Offsets := ⟨d.chars, d.selection.start, d.selection.stop⟩

namespace Offsets

/-! ### Operations that may fail -/

def size? (o : Offsets) : Option Nat := if o.start ≤ o.stop then some (o.stop - o.start) else none

def selected? (o : Offsets) : Option (List Char) :=
  if o.start ≤ o.stop ∧ o.stop ≤ o.chars.length then
    some ((o.chars.take o.stop).drop o.start)
  else none

def select (o : Offsets) (start stop : Nat) : Offsets :=
  let a := min start o.chars.length
  let b := min stop o.chars.length
  ⟨o.chars, min a b, max a b⟩

def collapse (o : Offsets) : Offsets := { o with stop := o.start }

/-- Grows by one character, the one returned. Going back, the character is looked up in the text
without another test. -/
def extend? (o : Offsets) : Direction → Option (Option Char × Offsets)
  | .forward =>
    match o.chars[o.stop]? with
    | some c => some (some c, { o with stop := o.stop + 1 })
    | none => some (none, o)
  | .backward =>
    match o.start with
    | 0 => some (none, o)
    | n + 1 => (o.chars[n]?).map fun c => (some c, { o with start := n })

def edit? (o : Offsets) : Document.Edit → Option Offsets
  | .select start stop => some (o.select start stop)
  | .selectText needle occurrence =>
    if needle.isEmpty then some o
    else
      match scanFor needle.toList occurrence 0 o.chars with
      | some i => some (o.select i (i + needle.length))
      | none => some o
  | .selectAll => some (o.select 0 o.chars.length)
  | .extend dir => (o.extend? dir).map (·.2)
  | .collapse => some o.collapse
  | .restore s => some (o.select s.start s.stop)

def startsName : List Char → Bool
  | c :: _ :: _ => isNameStart c
  | _ => false

def walkBack? (o : Offsets) : (budget : Nat) → Option Offsets
  | 0 => some o
  | budget + 1 => do
    let (_, o) ← o.extend? .backward
    let text ← o.selected?
    if startsName text then some o else o.walkBack? budget

def walkAhead? (o : Offsets) : (budget : Nat) → Option (Bool × Offsets)
  | 0 => some (false, o)
  | budget + 1 => do
    let (c, o) ← o.extend? .forward
    if c = some '(' then some (true, o) else o.walkAhead? budget

def close? (o : Offsets) (stack : BracketStack) : (budget : Nat) → Option (Closing × Offsets)
  | 0 => some (if stack.isEmpty then .balanced else .budgetSpent stack.size, o)
  | budget + 1 =>
    if stack.isEmpty then some (.balanced, o)
    else do
      let (c, o) ← o.extend? .forward
      match c with
      | some c => o.close? (stack.feed c).2 budget
      | none => some (.textEnded, o)

end Offsets

def Closing.route (toCall : Route) : Closing → Route
  | .balanced => toCall
  | .textEnded => .endOfDocument
  | .budgetSpent _ => .budgetExhausted

namespace Offsets

def finish? (o : Offsets) (b : Budgets) (route : Route) :
    Option (Except CaptureError Expansion × Offsets) := do
  let (closing, o) ← o.close? (BracketStack.empty.push '(') b.balance
  let text ← o.selected?
  some (.ok ⟨String.ofList (Text.trim text), closing.route route⟩, o)

def expand? (o : Offsets) (b : Budgets) : Option (Except CaptureError Expansion × Offsets) := do
  let text ← o.selected?
  if Text.isBlankText text then some (.error .emptySelection, o)
  else do
    let (_, probed) ← o.extend? .forward
    let text ← probed.selected?
    if text.getLast? == some '(' then probed.finish? b .directHit
    else do
      let named ← probed.collapse.walkBack? b.backward
      let (found, ahead) ← named.walkAhead? b.forward
      if found then ahead.finish? b .anchored
      else do
        let kept := ahead.select o.start o.stop
        let text ← kept.selected?
        some (.ok ⟨String.ofList (Text.trim text), .noOpeningBracket⟩, kept)

/-! ### Reading and growing -/

section

variable (d : Document)

@[simp] theorem chars_offsets : d.offsets.chars = d.chars := rfl

@[simp] theorem size?_offsets : d.offsets.size? = some d.selection.size := if_pos d.ordered

@[simp] theorem selected?_offsets : d.offsets.selected? = some d.selected := by
  have within : d.offsets.start ≤ d.offsets.stop ∧ d.offsets.stop ≤ d.offsets.chars.length :=
    ⟨d.ordered, d.fits⟩
  rw [selected?, if_pos within, List.drop_take]
  rfl

@[simp] theorem select_offsets (start stop : Nat) :
    d.offsets.select start stop = (d.select start stop).offsets := rfl

@[simp] theorem collapse_offsets : d.offsets.collapse = d.collapse.offsets := rfl

theorem advance_offsets {n : Nat} (within : d.selection.stop + n ≤ d.length) :
    (d.advance n).offsets = { d.offsets with stop := d.offsets.stop + n } := by
  rw [Document.offsets, Document.advance_selection within]
  rfl

theorem retreat_offsets (n : Nat) :
    (d.retreat n).offsets = { d.offsets with start := d.offsets.start - n } := rfl

@[simp] theorem extend?_offsets (dir : Direction) :
    d.offsets.extend? dir = some ((d.extend dir).1, (d.extend dir).2.offsets) := by
  cases dir with
  | forward =>
    unfold extend? Document.extend
    cases next : d.chars[d.selection.stop]? with
    | none =>
      have ended : d.selection.stop = d.length :=
        Nat.le_antisymm d.fits (List.getElem?_eq_none_iff.mp next)
      have reached : d.offsets.chars[d.offsets.stop]? = none := next
      simp only [reached, Document.advance_end ended]
    | some c =>
      have reached : d.offsets.chars[d.offsets.stop]? = some c := next
      obtain ⟨within, _⟩ := List.getElem?_eq_some_iff.mp next
      simp only [reached, advance_offsets (n := 1) d within]
  | backward =>
    unfold extend? Document.extend
    cases start : d.selection.start with
    | zero =>
      have first : d.offsets.start = 0 := start
      simp only [first]
    | succ n =>
      have first : d.offsets.start = n + 1 := start
      have within : n < d.chars.length := by
        have ordered := d.ordered
        have fits := d.fits
        omega
      simp only [first, chars_offsets, List.getElem?_eq_getElem within, Option.map_some,
        retreat_offsets, Nat.add_sub_cancel]

theorem edit?_offsets (e : Document.Edit) : d.offsets.edit? e = some (d.edit e).offsets := by
  cases e with
  | select start stop => rfl
  | selectText needle occurrence =>
    simp only [edit?, Document.edit, Document.selectText, chars_offsets]
    cases needle.isEmpty with
    | true => rfl
    | false =>
      simp only [Bool.false_eq_true, if_false]
      cases scanFor needle.toList occurrence 0 d.chars with
      | none => rfl
      | some i => rfl
  | selectAll => rfl
  | extend dir => rw [edit?, extend?_offsets, Option.map_some, Document.edit]
  | collapse => rfl
  | restore s => rfl

end

/-! ### The walks -/

theorem startsName_cons {c : Char} {text : List Char} :
    startsName (c :: text) = (isNameStart c && decide (0 < text.length)) := by
  cases text with
  | nil => simp [startsName]
  | cons x text => simp [startsName]

theorem taken_le_stepsBack (budget taken : Nat) (behind : List Char) :
    taken ≤ stepsBack budget taken behind := by
  have walk := stepsBack_spec budget taken behind
  generalize stepsBack budget taken behind = n at walk
  cases walk with
  | stopped i _ _ _ => omega
  | ranOut _ => exact Nat.le_add_right _ _

theorem retreat_zero (d : Document) : d.retreat 0 = d := rfl

theorem retreat_retreat (d : Document) (m n : Nat) :
    (d.retreat m).retreat n = d.retreat (m + n) := by
  apply Document.ext
  · rfl
  · simp only [Document.retreat_selection, Nat.sub_sub]

theorem selected_retreat_one {d : Document} {n : Nat} {c : Char}
    (start : d.selection.start = n + 1) (before : d.chars[n]? = some c) :
    (d.retreat 1).selected = c :: d.selected := by
  have later : n < d.selection.stop := by
    have ordered := d.ordered
    omega
  have here : (d.retreat 1).selection = ⟨n, d.selection.stop⟩ := by
    rw [Document.retreat_selection, start, Nat.add_sub_cancel]
  have there : d.selection = ⟨n + 1, d.selection.stop⟩ := by rw [← start]
  rw [Document.selected, here, Document.slice_congr (Document.retreat_chars d 1),
    d.slice_cons before later, Document.selected, ← there]

theorem extend_backward {d : Document} {n : Nat} (start : d.selection.start = n + 1) :
    ∃ c, d.chars[n]? = some c ∧ d.extend .backward = (some c, d.retreat 1) := by
  have within : n < d.chars.length := by
    have ordered := d.ordered
    have fits := d.fits
    omega
  have before : d.chars[n]? = some d.chars[n] := List.getElem?_eq_getElem within
  exact ⟨d.chars[n], before, by simp only [Document.extend, start, before]⟩

/-- The walk back, from a selection that does not yet start with a name. At the start of the text
it stays where it is until its budget is spent. -/
theorem walkBack?_offsets (budget : Nat) (d : Document)
    (unnamed : startsName d.selected = false) :
    d.offsets.walkBack? budget =
      some (d.retreat (stepsBack budget d.selection.size
        (d.chars.take d.selection.start).reverse - d.selection.size)).offsets := by
  induction budget generalizing d with
  | zero =>
    have stays : stepsBack 0 d.selection.size (d.chars.take d.selection.start).reverse =
        d.selection.size := by
      cases (d.chars.take d.selection.start).reverse with
      | nil => rfl
      | cons c behind => rfl
    rw [stays, Nat.sub_self, retreat_zero]
    rfl
  | succ budget ih =>
    rw [walkBack?, extend?_offsets]
    simp only [Option.bind_eq_bind, Option.bind_some, selected?_offsets]
    cases start : d.selection.start with
    | zero =>
      have stays : d.extend .backward = (none, d) := by simp only [Document.extend, start]
      have again := ih d unnamed
      rw [start, List.take_zero, List.reverse_nil, stepsBack] at again
      rw [stays, List.take_zero, List.reverse_nil, stepsBack]
      simp only [unnamed, Bool.false_eq_true, if_false]
      exact again
    | succ n =>
      obtain ⟨c, before, back⟩ := extend_backward start
      have behind : (d.chars.take (n + 1)).reverse = c :: (d.chars.take n).reverse := by
        rw [List.take_add_one, before, Option.toList_some, List.reverse_append]
        rfl
      have size : d.selected.length = d.selection.size := d.length_slice d.fits
      have grown : (d.retreat 1).selection.size = d.selection.size + 1 := by
        have ordered := d.ordered
        simp only [Document.retreat_selection, Span.size]
        omega
      have shown := selected_retreat_one start before
      have names : startsName (d.retreat 1).selected =
          (isNameStart c && decide (0 < d.selection.size)) := by
        rw [shown, startsName_cons, size]
      rw [back, behind, stepsBack]
      dsimp only
      rw [names]
      cases stops : isNameStart c && decide (0 < d.selection.size) with
      | true => simp only [if_true, Nat.add_sub_cancel_left]
      | false =>
        simp only [Bool.false_eq_true, if_false]
        have far := taken_le_stepsBack budget (d.selection.size + 1) (d.chars.take n).reverse
        have here : (d.retreat 1).selection.start = n := by
          rw [Document.retreat_selection, start, Nat.add_sub_cancel]
        rw [ih (d.retreat 1) (names.trans stops), grown, here, Document.retreat_chars,
          retreat_retreat]
        congr 3
        omega

theorem stepsToOpening?_cons (budget : Nat) (c : Char) (ahead : List Char) :
    stepsToOpening? (budget + 1) (c :: ahead) =
      if c = '(' then some 0 else (stepsToOpening? budget ahead).map (· + 1) := by
  simp only [stepsToOpening?, List.take_succ_cons, List.findIdx?_cons, beq_iff_eq]

theorem stepsToOpening?_nil (budget : Nat) : stepsToOpening? budget [] = none := by
  rw [stepsToOpening?, List.take_nil, List.findIdx?_nil]

theorem extend_forward {d : Document} {c : Char} (next : d.chars[d.selection.stop]? = some c) :
    d.extend .forward = (some c, d.advance 1) ∧
      d.chars.drop d.selection.stop = c :: d.chars.drop (d.advance 1).selection.stop := by
  obtain ⟨within, rfl⟩ := List.getElem?_eq_some_iff.mp next
  constructor
  · rw [Document.extend, next]
  · rw [List.drop_eq_getElem_cons within, Document.advance_selection (n := 1) within]

theorem extend_forward_end {d : Document} (next : d.chars[d.selection.stop]? = none) :
    d.selection.stop = d.length ∧ d.extend .forward = (none, d) ∧
      d.chars.drop d.selection.stop = [] := by
  have beyond := List.getElem?_eq_none_iff.mp next
  have ended : d.selection.stop = d.length := Nat.le_antisymm d.fits beyond
  refine ⟨ended, ?_, List.drop_eq_nil_iff.mpr beyond⟩
  rw [Document.extend, next, Document.advance_end ended]

theorem walkAhead?_offsets (budget : Nat) (d : Document) :
    d.offsets.walkAhead? budget =
      match stepsToOpening? budget (d.chars.drop d.selection.stop) with
      | some i => some (true, (d.advance (i + 1)).offsets)
      | none => some (false, (d.advance budget).offsets) := by
  induction budget generalizing d with
  | zero =>
    rw [Document.advance_zero]
    rfl
  | succ budget ih =>
    rw [walkAhead?, extend?_offsets]
    simp only [Option.bind_eq_bind, Option.bind_some]
    cases next : d.chars[d.selection.stop]? with
    | none =>
      obtain ⟨ended, stays, nothing⟩ := extend_forward_end next
      have again := ih d
      rw [nothing, Document.advance_end ended, stepsToOpening?_nil] at again
      rw [stays, nothing, Document.advance_end ended, stepsToOpening?_nil]
      simp only [reduceCtorEq, if_false]
      exact again
    | some c =>
      obtain ⟨grows, ahead⟩ := extend_forward next
      rw [grows, ahead, stepsToOpening?_cons]
      dsimp only
      by_cases opening : c = '('
      · rw [if_pos (congrArg some opening), if_pos opening]
      · rw [if_neg (fun same => opening (Option.some.inj same)), if_neg opening, ih,
          Document.advance_chars]
        cases stepsToOpening? budget (d.chars.drop (d.advance 1).selection.stop) with
        | none => simp only [Option.map_none, Document.advance_advance, Nat.add_comm 1]
        | some i => simp only [Option.map_some, Document.advance_advance, Nat.add_comm 1]

theorem close?_shut {s : BracketStack} (shut : s.isEmpty = true) (o : Offsets) (budget : Nat) :
    o.close? s budget = some (.balanced, o) := by
  cases budget with
  | zero => rw [close?, if_pos shut]
  | succ budget => rw [close?, if_pos shut]

theorem close?_offsets {budget taken n : Nat} {d : Document} {s : BracketStack} {ends : Closing}
    (walked : closeBrackets budget s taken (d.chars.drop d.selection.stop) = (n, ends)) :
    taken ≤ n ∧ d.offsets.close? s budget = some (ends, (d.advance (n - taken)).offsets) := by
  induction budget generalizing d s taken with
  | zero =>
    cases shut : s.isEmpty with
    | true =>
      rw [closeBrackets_shut shut] at walked
      obtain ⟨rfl, rfl⟩ := Prod.mk.inj walked
      rw [close?_shut shut, Nat.sub_self, Document.advance_zero]
      exact ⟨Nat.le_refl _, rfl⟩
    | false =>
      have spent : closeBrackets 0 s taken (d.chars.drop d.selection.stop) =
          (taken, .budgetSpent s.size) := by
        cases d.chars.drop d.selection.stop with
        | nil => simp only [closeBrackets, shut, Bool.false_eq_true, if_false, if_true]
        | cons c ahead => simp only [closeBrackets, shut, Bool.false_eq_true, if_false]
      rw [spent] at walked
      obtain ⟨rfl, rfl⟩ := Prod.mk.inj walked
      rw [close?, shut, Nat.sub_self, Document.advance_zero]
      exact ⟨Nat.le_refl _, rfl⟩
  | succ budget ih =>
    cases shut : s.isEmpty with
    | true =>
      rw [closeBrackets_shut shut] at walked
      obtain ⟨rfl, rfl⟩ := Prod.mk.inj walked
      rw [close?_shut shut, Nat.sub_self, Document.advance_zero]
      exact ⟨Nat.le_refl _, rfl⟩
    | false =>
      rw [close?, shut, extend?_offsets]
      simp only [Bool.false_eq_true, if_false, Option.bind_eq_bind, Option.bind_some]
      cases next : d.chars[d.selection.stop]? with
      | none =>
        obtain ⟨_, same, nothing⟩ := extend_forward_end next
        rw [nothing] at walked
        simp only [closeBrackets, shut, Bool.false_eq_true, if_false, Nat.succ_ne_zero] at walked
        obtain ⟨rfl, rfl⟩ := Prod.mk.inj walked
        rw [same, Nat.sub_self, Document.advance_zero]
        exact ⟨Nat.le_refl _, rfl⟩
      | some c =>
        obtain ⟨grows, ahead⟩ := extend_forward next
        rw [ahead] at walked
        simp only [closeBrackets, shut, Bool.false_eq_true, if_false] at walked
        obtain ⟨later, closed⟩ := ih (d := d.advance 1) walked
        rw [grows]
        dsimp only
        have count : 1 + (n - (taken + 1)) = n - taken := by omega
        rw [closed, Document.advance_advance, count]
        exact ⟨by omega, rfl⟩

/-! ### Expansions -/

theorem closeCall_eq {b : Budgets} {d : Document} {n : Nat} {ends : Closing}
    (walked : closeBrackets b.balance (BracketStack.empty.push '(') 0
      (d.chars.drop d.selection.stop) = (n, ends)) (route : Route) :
    (d.closeCall b route).route = ends.route route ∧
      (d.closeCall b route).grown = d.advance n := by
  unfold Document.closeCall
  rw [walked]
  cases ends with
  | balanced => exact ⟨rfl, rfl⟩
  | textEnded => exact ⟨rfl, rfl⟩
  | budgetSpent left => exact ⟨rfl, rfl⟩

theorem finish?_offsets (b : Budgets) (d : Document) (route : Route) :
    d.offsets.finish? b route =
      some ((d.closeCall b route).result.1, (d.closeCall b route).result.2.offsets) := by
  generalize walked : closeBrackets b.balance (BracketStack.empty.push '(') 0
    (d.chars.drop d.selection.stop) = r
  obtain ⟨n, ends⟩ := r
  obtain ⟨_, closed⟩ := close?_offsets walked
  obtain ⟨route_eq, grown_eq⟩ := closeCall_eq walked route
  rw [finish?, closed, Nat.sub_zero]
  simp only [Option.bind_eq_bind, Option.bind_some, selected?_offsets, Document.Growth.result,
    route_eq, grown_eq]

theorem walkBack?_collapsed (b : Budgets) (d : Document) :
    d.collapse.offsets.walkBack? b.backward =
      some (d.collapse.retreat (stepsBack b.backward 0
        (d.chars.take d.selection.start).reverse)).offsets := by
  have nothing : d.collapse.selected = [] := d.collapse.slice_self d.selection.start
  have unnamed : startsName d.collapse.selected = false := congrArg startsName nothing
  have size : d.collapse.selection.size = 0 := Nat.sub_self _
  rw [walkBack?_offsets b.backward d.collapse unnamed, size]
  rfl

theorem select_back {d d' : Document} (same : d'.chars = d.chars) :
    d'.select d.selection.start d.selection.stop = d := by
  have back := d.restore_selection
  apply Document.ext
  · exact same
  · rw [Document.restore] at back
    simp only [Document.select, Document.length, same] at back ⊢
    exact congrArg Document.selection back

/-- No step of an expansion fails, and it ends as the expansion of the document does. -/
theorem expand?_offsets (b : Budgets) (d : Document) :
    d.offsets.expand? b = some ((d.expand b).value.1, (d.expand b).value.2.offsets) := by
  rw [expand?, selected?_offsets]
  simp only [Option.bind_eq_bind, Option.bind_some]
  cases blank : d.selectsBlank with
  | true =>
    rw [Document.selectsBlank] at blank
    rw [Document.expand_blank blank, if_pos blank]
  | false =>
    have shown := blank
    rw [Document.selectsBlank, ← Bool.not_eq_true] at shown
    rw [if_neg shown, extend?_offsets]
    simp only [Option.bind_some]
    have probed : (d.extend .forward).2 = d.probed := rfl
    rw [probed, selected?_offsets]
    simp only [Option.bind_some]
    cases hit : d.isDirectHit with
    | true =>
      rw [Document.expand_grown (Document.growth?_direct blank hit)]
      rw [Document.isDirectHit] at hit
      rw [if_pos hit, finish?_offsets]
    | false =>
      have missed := hit
      rw [Document.isDirectHit, ← Bool.not_eq_true] at missed
      have collapsed : d.probed.collapse = d.collapse := rfl
      rw [if_neg missed, collapse_offsets, collapsed, walkBack?_collapsed]
      simp only [Option.bind_some]
      rw [walkAhead?_offsets]
      generalize named_eq : d.collapse.retreat (stepsBack b.backward 0
        (d.chars.take d.selection.start).reverse) = named
      have chars : named.chars = d.chars := by rw [← named_eq]; rfl
      have stop : named.selection.stop = d.selection.start := by rw [← named_eq]; rfl
      have anchors : d.anchor? b = (stepsToOpening? b.forward (named.chars.drop
          named.selection.stop)).map fun i => named.advance (i + 1) := by
        rw [chars, stop, ← named_eq]
        rfl
      cases found : stepsToOpening? b.forward (named.chars.drop named.selection.stop) with
      | none =>
        rw [found, Option.map_none] at anchors
        rw [Document.expand_grown (Document.growth?_kept blank hit anchors)]
        have same : (named.advance b.forward).chars = d.chars := chars
        have back : (named.advance b.forward).offsets.select d.offsets.start d.offsets.stop =
            d.offsets := by
          rw [select_offsets]
          exact congrArg Document.offsets (select_back same)
        simp only [Option.bind_some, Bool.false_eq_true, if_false, back, selected?_offsets,
          Document.Growth.result]
      | some i =>
        rw [found, Option.map_some] at anchors
        rw [Document.expand_grown (Document.growth?_anchored blank hit anchors)]
        simp only [Option.bind_some, if_true, finish?_offsets]

end Offsets

end CallCapture

import CallCapture.Capturer
import Mathlib.Data.List.Induction

/-! A tick drops a message that has expired. No later look at the snackbar can tell, since what has
expired once stays so. -/

namespace CallCapture

namespace Snackbar

/-- What happens to a snackbar, and when; the time of an error notice plays no part. -/
inductive Step
  | present (message : String) (now : Instant)
  | notifyError (message : String) (now : Instant)
  | tick (now : Instant)
deriving DecidableEq, Repr

namespace Step

def time : Step → Instant
  | .present _ now => now
  | .notifyError _ now => now
  | .tick now => now

def isTick : Step → Bool
  | .tick _ => true
  | _ => false

def shown? : Step → Option (String × Instant)
  | .present message now => some (message, now)
  | _ => none

def notice? : Step → Option String
  | .notifyError message _ => some message
  | _ => none

end Step

def step (s : Snackbar) : Step → Snackbar
  | .present message now => s.present message now
  | .notifyError message _ => s.notifyError message
  | .tick now => s.tick now

def steps (s : Snackbar) (ss : List Step) : Snackbar := ss.foldl step s

def lasting (duration : Nat) : Snackbar := { duration := duration }

def shows (ss : List Step) : List (String × Instant) := ss.filterMap Step.shown?

def notices (ss : List Step) : List String := ss.filterMap Step.notice?

def withoutTicks (ss : List Step) : List Step := ss.filter fun x => !x.isTick

section

variable (ss ss' : List Step)

theorem steps_append (s : Snackbar) : s.steps (ss ++ ss') = (s.steps ss).steps ss' :=
  List.foldl_append

theorem shows_append : shows (ss ++ ss') = shows ss ++ shows ss' := List.filterMap_append

theorem notices_append : notices (ss ++ ss') = notices ss ++ notices ss' := List.filterMap_append

theorem recorded_withoutTicks :
    shows (withoutTicks ss) = shows ss ∧ notices (withoutTicks ss) = notices ss := by
  induction ss with
  | nil => exact ⟨rfl, rfl⟩
  | cons x ss ih =>
    cases x with
    | present message now => exact ⟨congrArg (_ :: ·) ih.1, ih.2⟩
    | notifyError message now => exact ⟨ih.1, congrArg (_ :: ·) ih.2⟩
    | tick now => exact ih

end

theorem mem_shows {ss : List Step} {message : String} {shownAt : Instant} :
    (message, shownAt) ∈ shows ss ↔ .present message shownAt ∈ ss := by
  rw [shows, List.mem_filterMap]
  constructor
  · rintro ⟨x, member, shown⟩
    cases x with
    | present _ _ =>
      cases shown
      exact member
    | notifyError _ _ => cases shown
    | tick _ => cases shown
  · intro member
    exact ⟨_, member, rfl⟩

variable {s : Snackbar} {earlier now : Instant} {message : String}

theorem visible?_eq_some_iff :
    s.visible? now = some message ↔
      ∃ shownAt, s.current = some (message, shownAt) ∧ (now - shownAt).toNat < s.duration := by
  unfold visible?
  cases s.current with
  | none => simp only [reduceCtorEq, false_and, exists_false]
  | some shown =>
    obtain ⟨m, shownAt⟩ := shown
    simp only [Option.ite_none_right_eq_some, Option.some.injEq, Prod.mk.injEq]
    constructor
    · rintro ⟨within, rfl⟩
      exact ⟨shownAt, ⟨rfl, rfl⟩, within⟩
    · rintro ⟨_, ⟨rfl, rfl⟩, within⟩
      exact ⟨within, rfl⟩

theorem visible?_congr {s s' : Snackbar} (duration : s.duration = s'.duration)
    (current : s.current = s'.current) : s.visible? now = s'.visible? now := by
  simp only [visible?, duration, current]

theorem visible?_earlier (before : earlier ≤ now) (visible : s.visible? now = some message) :
    s.visible? earlier = some message := by
  obtain ⟨shownAt, current, within⟩ := visible?_eq_some_iff.mp visible
  have less : (earlier - shownAt).toNat ≤ (now - shownAt).toNat :=
    Int.toNat_le_toNat (Int.sub_le_sub_right before shownAt)
  exact visible?_eq_some_iff.mpr ⟨shownAt, current, Nat.lt_of_le_of_lt less within⟩

theorem tick_cases (s : Snackbar) (now : Instant) :
    s.tick now = s ∨ s.visible? now = none ∧ s.tick now = { s with current := none } := by
  unfold tick
  cases s.visible? now with
  | some message => exact .inl rfl
  | none => exact .inr ⟨rfl, rfl⟩

theorem visible?_tick (before : earlier ≤ now) :
    (s.tick earlier).visible? now = s.visible? now := by
  rcases s.tick_cases earlier with same | ⟨gone, dropped⟩
  · rw [same]
  · rw [dropped]
    cases visible : s.visible? now with
    | none => rfl
    | some message => cases gone.symm.trans (visible?_earlier before visible)

theorem step_keeps (s : Snackbar) (x : Step) :
    (s.step x).duration = s.duration ∧ (s.step x).errors = s.errors ++ x.notice?.toList := by
  cases x with
  | present message now => exact ⟨rfl, (List.append_nil _).symm⟩
  | notifyError message now => exact ⟨rfl, rfl⟩
  | tick now =>
    have nothing := (List.append_nil s.errors).symm
    rw [step]
    rcases s.tick_cases now with same | ⟨_, dropped⟩
    · rw [same]
      exact ⟨rfl, nothing⟩
    · rw [dropped]
      exact ⟨rfl, nothing⟩

theorem steps_duration (s : Snackbar) (ss : List Step) : (s.steps ss).duration = s.duration := by
  induction ss generalizing s with
  | nil => rfl
  | cons x ss ih => exact (ih (s.step x)).trans (s.step_keeps x).1

theorem steps_errors (s : Snackbar) (ss : List Step) :
    (s.steps ss).errors = s.errors ++ notices ss := by
  induction ss generalizing s with
  | nil => exact (List.append_nil _).symm
  | cons x ss ih =>
    have told : notices (x :: ss) = x.notice?.toList ++ notices ss := notices_append [x] ss
    calc ((s.step x).steps ss).errors
      _ = (s.errors ++ x.notice?.toList) ++ notices ss := by rw [ih, (s.step_keeps x).2]
      _ = s.errors ++ notices (x :: ss) := by rw [told, List.append_assoc]

/-- After a run shows what the last message presented would show with no tick in between. -/
theorem steps_visible? {duration : Nat} {ss : List Step} (past : ∀ x ∈ ss, x.time ≤ now) :
    ((lasting duration).steps ss).visible? now =
      (⟨duration, (shows ss).getLast?, []⟩ : Snackbar).visible? now := by
  induction ss using List.reverseRecOn with
  | nil => rfl
  | append_singleton ss x ih =>
    have before := ih fun y member => past y (List.mem_append_left _ member)
    rw [steps_append, shows_append]
    cases x with
    | present message shownAt =>
      refine visible?_congr (steps_duration (lasting duration) ss) ?_
      exact List.getLast?_concat.symm
    | notifyError message noticed =>
      rw [show shows [.notifyError message noticed] = [] from rfl, List.append_nil, ← before]
      rfl
    | tick ticked =>
      rw [show shows [.tick ticked] = [] from rfl, List.append_nil, ← before]
      exact visible?_tick (past (.tick ticked) List.mem_concat_self)

theorem steps_visible?_iff {duration : Nat} {ss : List Step} (past : ∀ x ∈ ss, x.time ≤ now) :
    ((lasting duration).steps ss).visible? now = some message ↔
      ∃ shownAt, (shows ss).getLast? = some (message, shownAt) ∧ now - shownAt < duration := by
  rw [steps_visible? past, visible?_eq_some_iff]
  apply exists_congr
  intro shownAt
  apply and_congr_right
  intro last
  have shown : shownAt ≤ now := past _ (mem_shows.mp (List.mem_of_getLast? last))
  exact Int.toNat_lt (Int.sub_nonneg_of_le shown)

theorem steps_visible?_append {duration : Nat} {ss ss' : List Step} {later : Instant}
    (past : ∀ x ∈ ss, x.time ≤ now) (since : ∀ x ∈ ss', x.time ≤ later) (forward : now ≤ later)
    (visible : ((lasting duration).steps (ss ++ ss')).visible? later = some message) :
    ((lasting duration).steps ss).visible? now = some message ∨
      ∃ shownAt, .present message shownAt ∈ ss' := by
  have all : ∀ x ∈ ss ++ ss', x.time ≤ later := by
    intro x member
    rcases List.mem_append.mp member with first | second
    · exact Int.le_trans (past x first) forward
    · exact since x second
  obtain ⟨shownAt, last, within⟩ := (steps_visible?_iff all).mp visible
  rw [shows_append, List.getLast?_append] at last
  cases renewed : (shows ss').getLast? with
  | some shown =>
    rw [renewed, Option.some_or] at last
    cases last
    exact .inr ⟨shownAt, mem_shows.mp (List.mem_of_getLast? renewed)⟩
  | none =>
    rw [renewed, Option.none_or] at last
    have sooner : now - shownAt ≤ later - shownAt := Int.sub_le_sub_right forward shownAt
    exact .inl ((steps_visible?_iff past).mpr ⟨shownAt, last, Int.lt_of_le_of_lt sooner within⟩)

/-- Under a clock that never goes back ticks are not observed. It is enough that no step comes after
the look at the snackbar. Then the last message presented shows just while less than the duration
has passed since, the same is seen without the ticks, and a message that no longer shows comes back
only by being presented again. The error notices are all there, in order. -/
theorem ticks_unobserved (duration : Nat) (ss : List Step) (now : Instant)
    (past : ∀ x ∈ ss, x.time ≤ now) :
    let s := (lasting duration).steps ss
    let unticked := (lasting duration).steps (withoutTicks ss)
    (∀ message, s.visible? now = some message ↔
      ∃ shownAt, (shows ss).getLast? = some (message, shownAt) ∧ now - shownAt < duration) ∧
    (s.visible? now = unticked.visible? now ∧ s.errors = unticked.errors) ∧
    (∀ ss' later, now ≤ later → (∀ x ∈ ss', x.time ≤ later) →
      ∀ message, (s.steps ss').visible? later = some message →
        s.visible? now = some message ∨ ∃ shownAt, .present message shownAt ∈ ss') ∧
    s.errors = notices ss := by
  intro s unticked
  have kept : ∀ x ∈ withoutTicks ss, x.time ≤ now :=
    fun x member => past x (List.mem_filter.mp member).1
  obtain ⟨sameShows, sameNotices⟩ := recorded_withoutTicks ss
  refine ⟨fun message => steps_visible?_iff past, ⟨?_, ?_⟩, ?_, steps_errors _ ss⟩
  · rw [steps_visible? past, steps_visible? kept, sameShows]
  · rw [steps_errors, steps_errors, sameNotices]
  · intro ss' later forward since message visible
    rw [← steps_append] at visible
    exact steps_visible?_append past since forward visible

theorem ticks_unobserved_row_then_text :
    let row : List Step :=
      [.present "Copied Row()" 0, .notifyError "no clipboard" 700, .tick 1499, .tick 1500]
    let text : List Step := [.present "Copied Text()" 1700, .tick 3199]
    (∀ x ∈ row, x.time ≤ 1500) ∧ (∀ x ∈ row ++ text, x.time ≤ 3199) ∧
    ((lasting 1500).steps row).visible? 1500 = none ∧
    ((lasting 1500).steps (withoutTicks row)).visible? 1500 = none ∧
    ((lasting 1500).steps (row ++ text)).visible? 3199 = some "Copied Text()" ∧
    (((lasting 1500).steps row).steps text).visible? 3199 ≠ some "Copied Row()" ∧
    ((lasting 1500).steps row).errors = ["no clipboard"] := by
  intro row text
  have past : ∀ x ∈ row, x.time ≤ 1500 := by decide
  have since : ∀ x ∈ text, x.time ≤ 3199 := by decide
  have all : ∀ x ∈ row ++ text, x.time ≤ 3199 := by decide
  obtain ⟨_, ⟨same, _⟩, renewed, errors⟩ := ticks_unobserved 1500 row 1500 past
  obtain ⟨shown, _⟩ := ticks_unobserved 1500 (row ++ text) 3199 all
  have gone : ((lasting 1500).steps row).visible? 1500 = none := by decide
  refine ⟨past, all, gone, same.symm.trans gone, ?_, ?_, errors⟩
  · exact (shown "Copied Text()").mpr ⟨1700, by decide, by decide⟩
  · intro back
    rcases renewed text 3199 (by decide) since "Copied Row()" back with visible | ⟨_, again⟩
    · cases gone.symm.trans visible
    · simp [text] at again

/-- The order counts: a tick that comes after a look takes away what showed then. -/
example : ((lasting 1500).present "Copied Text()" 0).visible? 0 = some "Copied Text()" ∧
    (((lasting 1500).present "Copied Text()" 0).tick 2000).visible? 0 = none := by decide

end Snackbar

end CallCapture

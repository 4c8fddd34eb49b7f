import CallCapture.Json.Value
import CallCapture.Text.Basic

namespace CallCapture

/-- The offsets from `start` up to, but not including, `stop`. -/
structure Span where
  start : Nat := 0
  stop : Nat := 0
deriving DecidableEq, Repr

namespace Span

def between (a b : Nat) : Span := ⟨min a b, max a b⟩

def size (s : Span) : Nat := s.stop - s.start

theorem between_ordered (a b : Nat) : (between a b).start ≤ (between a b).stop := by
  simp only [between]
  omega

theorem between_stop_le {a b n : Nat} (ha : a ≤ n) (hb : b ≤ n) : (between a b).stop ≤ n :=
  Nat.max_le.mpr ⟨ha, hb⟩

end Span

def Span.toJson (s : Span) : Json :=
  .object [Json.member "start" (Json.ofNat s.start), Json.member "end" (Json.ofNat s.stop)]

def Span.ofJson? (j : Json) : Option Span := do
  let r ← j.record? [⟨"start", false⟩, ⟨"end", false⟩]
  let start ← r.required "start" Json.word?
  let stop ← r.required "end" Json.word?
  some ⟨start.toNat, stop.toNat⟩

inductive Direction
  | forward
  | backward
deriving DecidableEq, Repr

/-- A text with a selection that lies within it. -/
@[ext]
structure Document where
  chars : List Char
  selection : Span := {}
  ordered : selection.start ≤ selection.stop := by decide
  fits : selection.stop ≤ chars.length := by exact Nat.zero_le _
deriving DecidableEq, Repr

namespace Document

def ofString (text : String) : Document := { chars := text.toList }

def length (d : Document) : Nat := d.chars.length

def slice (d : Document) (s : Span) : List Char := (d.chars.drop s.start).take s.size

def selected (d : Document) : List Char := d.slice d.selection

def selectedText (d : Document) : String := String.ofList d.selected

def selectsBlank (d : Document) : Bool := Text.isBlankText d.selected

/-- Selects between two offsets, in either order, each cut to the length of the text. -/
def select (d : Document) (start stop : Nat) : Document where
  chars := d.chars
  selection := Span.between (min start d.length) (min stop d.length)
  ordered := Span.between_ordered _ _
  fits := Span.between_stop_le (Nat.min_le_right _ _) (Nat.min_le_right _ _)

def selectAll (d : Document) : Document := d.select 0 d.length

def restore (d : Document) (s : Span) : Document := d.select s.start s.stop

def collapse (d : Document) : Document where
  chars := d.chars
  selection := ⟨d.selection.start, d.selection.start⟩
  ordered := Nat.le_refl _
  fits := Nat.le_trans d.ordered d.fits

def advance (d : Document) (n : Nat) : Document where
  chars := d.chars
  selection := ⟨d.selection.start, min (d.selection.stop + n) d.length⟩
  ordered := Nat.le_min.mpr
    ⟨Nat.le_trans d.ordered (Nat.le_add_right _ _), Nat.le_trans d.ordered d.fits⟩
  fits := Nat.min_le_right _ _

def retreat (d : Document) (n : Nat) : Document where
  chars := d.chars
  selection := ⟨d.selection.start - n, d.selection.stop⟩
  ordered := Nat.le_trans (Nat.sub_le _ _) d.ordered
  fits := d.fits

@[simp] theorem collapse_chars (d : Document) : d.collapse.chars = d.chars := rfl

@[simp] theorem collapse_selection (d : Document) :
    d.collapse.selection = ⟨d.selection.start, d.selection.start⟩ := rfl

@[simp] theorem advance_chars (d : Document) (n : Nat) : (d.advance n).chars = d.chars := rfl

@[simp] theorem advance_start (d : Document) (n : Nat) :
    (d.advance n).selection.start = d.selection.start := rfl

theorem advance_selection {d : Document} {n : Nat} (within : d.selection.stop + n ≤ d.length) :
    (d.advance n).selection = ⟨d.selection.start, d.selection.stop + n⟩ := by
  simp only [advance, Nat.min_eq_left within]

theorem advance_zero (d : Document) : d.advance 0 = d := by
  apply Document.ext
  · rfl
  · exact advance_selection d.fits

theorem advance_advance (d : Document) (m n : Nat) :
    (d.advance m).advance n = d.advance (m + n) := by
  apply Document.ext
  · rfl
  · have fits : d.selection.stop ≤ d.length := d.fits
    have length : (d.advance m).length = d.length := rfl
    simp only [advance, Document.length, Span.mk.injEq, true_and] at *
    omega

theorem advance_end {d : Document} (ended : d.selection.stop = d.length) (n : Nat) :
    d.advance n = d := by
  apply Document.ext
  · rfl
  · simp only [advance, ended, Nat.min_eq_right (Nat.le_add_right _ _)]
    rw [← ended]

@[simp] theorem retreat_chars (d : Document) (n : Nat) : (d.retreat n).chars = d.chars := rfl

@[simp] theorem retreat_selection (d : Document) (n : Nat) :
    (d.retreat n).selection = ⟨d.selection.start - n, d.selection.stop⟩ := rfl

@[simp] theorem restore_selection (d : Document) : d.restore d.selection = d := by
  have stop : d.selection.stop ≤ d.length := d.fits
  have start : d.selection.start ≤ d.length := Nat.le_trans d.ordered stop
  apply Document.ext
  · rfl
  · simp only [restore, select, Span.between, Nat.min_eq_left start, Nat.min_eq_left stop,
      Nat.min_eq_left d.ordered, Nat.max_eq_right d.ordered]

/-- Grows the selection by one character, the one returned; `none` at the end of the text. -/
def extend (d : Document) : Direction → Option Char × Document
  | .forward => (d.chars[d.selection.stop]?, d.advance 1)
  | .backward =>
    match d.selection.start with
    | 0 => (none, d)
    | n + 1 => (d.chars[n]?, d.retreat 1)

def extendBy (d : Document) : List Direction → List (Option Char) × Document
  | [] => ([], d)
  | dir :: rest =>
    let (c, d) := d.extend dir
    let (cs, d) := d.extendBy rest
    (c :: cs, d)

def offeredText (d : Document) : Option String :=
  if d.selectsBlank then none else some d.selectedText

end Document

/-! ### Selecting by content -/

inductive SearchError
  | emptyNeedle
  | notFound (needle : String) (occurrence : Nat)
deriving DecidableEq, Repr

def SearchError.message : SearchError → String
  | .emptyNeedle => "cannot select empty text"
  | .notFound needle occurrence =>
    s!"text '{needle}' not found in document (occurrence {occurrence})"

def OccursAt (needle text : List Char) (i : Nat) : Prop := needle <+: text.drop i

instance (needle text : List Char) (i : Nat) : Decidable (OccursAt needle text i) :=
  inferInstanceAs (Decidable (needle <+: text.drop i))

def occurrences (needle text : List Char) : List Nat :=
  (List.range (text.length + 1)).filter fun i => decide (OccursAt needle text i)

/-- Scans for an occurrence, `skip` of them passed over; `offset` is where the text left starts. -/
def scanFor (needle : List Char) (skip offset : Nat) : List Char → Option Nat
  | [] => none
  | c :: rest =>
    if needle.isPrefixOf (c :: rest) then
      match skip with
      | 0 => some offset
      | k + 1 => scanFor needle k (offset + 1) rest
    else scanFor needle skip (offset + 1) rest

namespace Document

/-- Selects an occurrence of a text, and says where it is. -/
def selectText (d : Document) (needle : String) (occurrence : Nat) :
    Except SearchError Span × Document :=
  if needle.isEmpty then (.error .emptyNeedle, d)
  else
    match scanFor needle.toList occurrence 0 d.chars with
    | some i =>
      let d := d.select i (i + needle.length)
      (.ok d.selection, d)
    | none => (.error (.notFound needle occurrence), d)

end Document

end CallCapture

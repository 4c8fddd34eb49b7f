import CallCapture.Document
import Mathlib.Data.List.DropRight
import Mathlib.Data.List.TakeWhile

namespace CallCapture

namespace Document

theorem slice_congr {d d' : Document} (same : d'.chars = d.chars) (s : Span) :
    d'.slice s = d.slice s := by
  simp only [slice, same]

theorem slice_add (d : Document) (i k : Nat) : d.slice ⟨i, i + k⟩ = (d.chars.drop i).take k := by
  simp only [slice, Span.size, Nat.add_sub_cancel_left]

theorem slice_self (d : Document) (i : Nat) : d.slice ⟨i, i⟩ = [] := d.slice_add i 0

theorem slice_append (d : Document) {i j k : Nat} (low : i ≤ j) (high : j ≤ k) :
    d.slice ⟨i, j⟩ ++ d.slice ⟨j, k⟩ = d.slice ⟨i, k⟩ := by
  obtain ⟨m, rfl⟩ := Nat.exists_eq_add_of_le low
  obtain ⟨n, rfl⟩ := Nat.exists_eq_add_of_le high
  rw [Nat.add_assoc i m n, slice_add, slice_add, ← Nat.add_assoc, slice_add, List.take_add,
    List.drop_drop]

theorem slice_cons (d : Document) {i j : Nat} {c : Char} (at_i : d.chars[i]? = some c)
    (later : i < j) : d.slice ⟨i, j⟩ = c :: d.slice ⟨i + 1, j⟩ := by
  obtain ⟨within, rfl⟩ := List.getElem?_eq_some_iff.mp at_i
  have one : d.slice ⟨i, i + 1⟩ = [d.chars[i]] := by
    rw [slice_add, List.drop_eq_getElem_cons within]
    rfl
  rw [← d.slice_append (Nat.le_succ i) later, one, List.singleton_append]

theorem slice_getElem? (d : Document) {i j k : Nat} (inside : i + k < j) :
    (d.slice ⟨i, j⟩)[k]? = d.chars[i + k]? := by
  have short : k < j - i := by omega
  rw [slice, Span.size, List.getElem?_take_of_lt short, List.getElem?_drop]

theorem length_slice (d : Document) {i j : Nat} (fits : j ≤ d.length) :
    (d.slice ⟨i, j⟩).length = j - i := by
  rw [slice, Span.size, List.length_take, List.length_drop]
  exact Nat.min_eq_left (Nat.sub_le_sub_right fits i)

theorem slice_getLast? (d : Document) {i j : Nat} (some : i < j) (fits : j ≤ d.length) :
    (d.slice ⟨i, j⟩).getLast? = d.chars[j - 1]? := by
  have last : i + (j - i - 1) = j - 1 := by omega
  rw [List.getLast?_eq_getElem?, d.length_slice fits, d.slice_getElem? (by omega), last]

theorem mem_slice (d : Document) {i j : Nat} {c : Char} (member : c ∈ d.slice ⟨i, j⟩) :
    ∃ k, i ≤ k ∧ k < j ∧ d.chars[k]? = some c := by
  obtain ⟨k, at_k⟩ := List.getElem?_of_mem member
  have short : k < j - i := by
    obtain ⟨within, _⟩ := List.getElem?_eq_some_iff.mp at_k
    rw [slice, List.length_take] at within
    exact Nat.lt_of_lt_of_le within (Nat.min_le_left _ _)
  rw [d.slice_getElem? (by omega)] at at_k
  exact ⟨i + k, Nat.le_add_right _ _, by omega, at_k⟩

theorem start_lt_stop {d : Document} (shown : d.selectsBlank = false) :
    d.selection.start < d.selection.stop := by
  apply Nat.lt_of_le_of_ne d.ordered
  intro same
  have nothing : d.selected = [] := by
    simp only [selected, slice, Span.size, same, Nat.sub_self, List.take_zero]
  rw [selectsBlank, nothing] at shown
  cases shown

end Document

namespace Text

theorem mem_dropWhile_isBlank {c : Char} (visible : isBlank c = false) {w : List Char} :
    c ∈ w.dropWhile isBlank ↔ c ∈ w := by
  constructor
  · intro member
    exact (List.dropWhile_sublist isBlank).mem member
  · intro member
    rw [← List.takeWhile_append_dropWhile (p := isBlank) (l := w)] at member
    rcases List.mem_append.mp member with front | back
    · rw [List.mem_takeWhile_imp front] at visible
      cases visible
    · exact back

theorem dropWhile_append_visible {c : Char} (visible : isBlank c = false) (w rest : List Char) :
    (w ++ c :: rest).dropWhile isBlank = w.dropWhile isBlank ++ c :: rest := by
  rw [List.dropWhile_append]
  cases gone : w.dropWhile isBlank with
  | nil => rw [List.isEmpty_nil, if_pos rfl, List.dropWhile_cons_of_neg (by simp [visible])]; rfl
  | cons x xs => rw [List.isEmpty_cons, if_neg Bool.false_ne_true]

theorem trimEnd_append_visible {c : Char} (visible : isBlank c = false) (w rest : List Char) :
    trimEnd (w ++ c :: rest) = w ++ c :: trimEnd rest := by
  have back : (w ++ c :: rest).reverse = rest.reverse ++ c :: w.reverse := by
    rw [List.reverse_append, List.reverse_cons, List.append_assoc, List.singleton_append]
  rw [trimEnd, back, dropWhile_append_visible visible, List.reverse_append, List.reverse_cons,
    List.reverse_reverse, List.append_assoc, List.singleton_append, trimEnd]

theorem trimEnd_prefix (s : List Char) : trimEnd s <+: s := List.rdropWhile_prefix isBlank s

theorem trim_opening (w rest : List Char) :
    trim (w ++ '(' :: rest) = w.dropWhile isBlank ++ '(' :: trimEnd rest := by
  have opening : isBlank '(' = false := by decide
  rw [trim, trimStart, dropWhile_append_visible opening, trimEnd_append_visible opening]

theorem trim_call (w body : List Char) :
    trim (w ++ '(' :: (body ++ [')'])) = w.dropWhile isBlank ++ '(' :: (body ++ [')']) := by
  have closing : isBlank ')' = false := by decide
  rw [trim_opening, trimEnd_append_visible closing]
  rfl

theorem trimStart_append_eq_iff {x w : List Char} :
    trimStart (x ++ w) = trimStart w ↔ AllBlank x := by
  constructor
  · intro same c member
    apply eq_true_of_ne_false
    intro visible
    have kept : c ∈ x.dropWhile isBlank := (mem_dropWhile_isBlank visible).mpr member
    have some : (x.dropWhile isBlank).isEmpty = false :=
      List.isEmpty_eq_false_iff.mpr (List.ne_nil_of_mem kept)
    have lengths := congrArg List.length same
    have shorter := (List.dropWhile_sublist isBlank (l := w)).length_le
    rw [trimStart, List.dropWhile_append, some, if_neg Bool.false_ne_true, List.length_append,
      trimStart] at lengths
    have positive := List.length_pos_of_mem kept
    omega
  · intro blank
    exact List.dropWhile_append_of_pos blank

theorem trim_append_opening_eq_iff {x w rest : List Char} :
    trim (x ++ (w ++ '(' :: rest)) = trim (w ++ '(' :: rest) ↔ AllBlank x := by
  rw [← List.append_assoc, trim_opening, trim_opening, List.append_left_inj]
  exact trimStart_append_eq_iff

theorem mem_trim {c : Char} (visible : isBlank c = false) {s : List Char} :
    c ∈ trim s ↔ c ∈ s := by
  rw [trim, trimEnd, List.mem_reverse, mem_dropWhile_isBlank visible, List.mem_reverse, trimStart,
    mem_dropWhile_isBlank visible]

theorem isBlankText_of_visible {c : Char} (visible : isBlank c = false) {s : List Char}
    (member : c ∈ s) : isBlankText s = false := by
  rw [isBlankText, List.isEmpty_eq_false_iff]
  exact List.ne_nil_of_mem ((mem_trim visible).mpr member)

theorem isBlankText_iff_allBlank {s : List Char} : isBlankText s = true ↔ AllBlank s := by
  constructor
  · intro blank c member
    cases visible : isBlank c with
    | true => rfl
    | false =>
      rw [isBlankText_of_visible visible member] at blank
      cases blank
  · intro blank
    have gone : trimStart s = [] := List.dropWhile_eq_nil_iff.mpr blank
    rw [isBlankText, trim, gone]
    rfl

theorem visible_of_head_trim {c : Char} {s : List Char} (first : (trim s).head? = some c) :
    isBlank c = false := by
  have kept := List.head?_dropWhile_not isBlank s
  obtain ⟨cut, whole⟩ := trimEnd_prefix (trimStart s)
  have same : (s.dropWhile isBlank).head? = some c := by
    change (trimStart s).head? = some c
    rw [← whole, List.head?_append]
    change ((trim s).head?.or cut.head?) = some c
    rw [first, Option.some_or]
  rw [same] at kept
  exact kept

theorem visible_of_last_trim {c : Char} {s : List Char} (last : (trim s).getLast? = some c) :
    isBlank c = false := by
  have kept := List.head?_dropWhile_not isBlank (trimStart s).reverse
  rw [trim, trimEnd, List.getLast?_reverse] at last
  rw [last] at kept
  exact kept

theorem trimmed_text {text : String} {s : List Char} (trimmed : text = String.ofList (trim s))
    (shown : isBlankText s = false) :
    text ≠ "" ∧ (∀ c, text.toList.head? = some c → isBlank c = false) ∧
      ∀ c, text.toList.getLast? = some c → isBlank c = false := by
  have chars : text.toList = trim s := by rw [trimmed, String.toList_ofList]
  refine ⟨?_, ?_, ?_⟩
  · intro empty
    rw [empty] at chars
    rw [isBlankText, ← chars] at shown
    cases shown
  · intro c first
    rw [chars] at first
    exact visible_of_head_trim first
  · intro c last
    rw [chars] at last
    exact visible_of_last_trim last

theorem trim_trim (s : List Char) : trim (trim s) = trim s := by
  have front : trimStart (trim s) = trim s := by
    cases start : trim s with
    | nil => rfl
    | cons c rest =>
      have visible : isBlank c = false := visible_of_head_trim (by rw [start]; rfl)
      rw [trimStart, List.dropWhile_cons_of_neg (by simp [visible])]
  calc trim (trim s) = trimEnd (trim s) := by rw [trim, front]
    _ = trim s := List.rdropWhile_idempotent isBlank (trimStart s)

end Text

end CallCapture

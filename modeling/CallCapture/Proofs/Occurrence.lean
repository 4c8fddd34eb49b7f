import CallCapture.Document
import CallCapture.Proofs.Session
import CallCapture.Proofs.Slice

namespace CallCapture

theorem OccursAt.fits {needle text : List Char} {i : Nat} (occurs : OccursAt needle text i)
    (some : needle ≠ []) : i + needle.length ≤ text.length := by
  have length := occurs.length_le
  have positive := List.length_pos_iff.mpr some
  rw [List.length_drop] at length
  omega

theorem mem_occurrences {needle text : List Char} {i : Nat} (some : needle ≠ []) :
    i ∈ occurrences needle text ↔ OccursAt needle text i := by
  rw [occurrences, List.mem_filter, List.mem_range, decide_eq_true_eq, and_iff_right_iff_imp]
  intro occurs
  have fits := occurs.fits some
  omega

theorem occurrences_ascending (needle text : List Char) :
    (occurrences needle text).Pairwise (· < ·) := List.pairwise_lt_range.filter _

theorem occurrences_of_longer {needle text : List Char} (some : needle ≠ [])
    (longer : text.length < needle.length) : occurrences needle text = [] := by
  rw [List.eq_nil_iff_forall_not_mem]
  intro i member
  have fits := ((mem_occurrences some).mp member).fits some
  omega

theorem occurrences_cons (needle : List Char) (c : Char) (text : List Char) :
    occurrences needle (c :: text) =
      (if needle.isPrefixOf (c :: text) then [0] else []) ++
        (occurrences needle text).map (· + 1) := by
  have here : decide (OccursAt needle (c :: text) 0) = needle.isPrefixOf (c :: text) := by
    rw [Bool.eq_iff_iff, decide_eq_true_eq, List.isPrefixOf_iff_prefix]
    rfl
  have later (i : Nat) : OccursAt needle (c :: text) (i + 1) ↔ OccursAt needle text i := Iff.rfl
  rw [occurrences, List.length_cons, List.range_succ_eq_map, List.filter_cons, here,
    List.filter_map]
  simp only [Function.comp_def, Nat.succ_eq_add_one, later]
  split
  · rfl
  · rfl

theorem scanFor_eq {needle : List Char} (some : needle ≠ []) (skip offset : Nat)
    (text : List Char) :
    scanFor needle skip offset text = (occurrences needle text)[skip]?.map (offset + ·) := by
  induction text generalizing skip offset with
  | nil =>
    have none : occurrences needle [] = [] :=
      occurrences_of_longer some (List.length_pos_iff.mpr some)
    rw [none]
    rfl
  | cons c text ih =>
    have further (skip : Nat) : scanFor needle skip (offset + 1) text =
        (((occurrences needle text).map (· + 1))[skip]?).map (offset + ·) := by
      rw [ih, List.getElem?_map, Option.map_map]
      congr 1
      funext i
      exact Nat.add_right_comm offset 1 i
    unfold scanFor
    rw [occurrences_cons]
    cases needle.isPrefixOf (c :: text) with
    | true =>
      cases skip with
      | zero => rfl
      | succ skip => exact further skip
    | false => exact further skip

namespace Document

theorem select_occurrence (d : Document) {needle : List Char} {i : Nat}
    (occurs : OccursAt needle d.chars i) (some : needle ≠ []) :
    (d.select i (i + needle.length)).selection = ⟨i, i + needle.length⟩ := by
  have fits : i + needle.length ≤ d.length := occurs.fits some
  simp only [select, Span.between, Span.mk.injEq]
  omega

theorem select_selected (d : Document) {needle : List Char} {i : Nat}
    (occurs : OccursAt needle d.chars i) (some : needle ≠ []) :
    (d.select i (i + needle.length)).selected = needle := by
  rw [selected, d.select_occurrence occurs some, slice_add]
  exact (List.prefix_iff_eq_take.mp occurs).symm

theorem selectText_cases (d : Document) (needle : String) (occurrence : Nat) :
    (needle = "" ∧ d.selectText needle occurrence = (.error .emptyNeedle, d)) ∨
    (needle ≠ "" ∧ (occurrences needle.toList d.chars).length ≤ occurrence ∧
      d.selectText needle occurrence = (.error (.notFound needle occurrence), d)) ∨
    ∃ i, needle ≠ "" ∧ (occurrences needle.toList d.chars)[occurrence]? = some i ∧
      (d.select i (i + needle.length)).selection = ⟨i, i + needle.length⟩ ∧
      d.selectText needle occurrence =
        (.ok ⟨i, i + needle.length⟩, d.select i (i + needle.length)) := by
  by_cases empty : needle = ""
  · subst empty
    exact .inl ⟨rfl, rfl⟩
  · have filled : needle.isEmpty = false := by simpa using empty
    have some : needle.toList ≠ [] := mt String.toList_eq_nil_iff.mp empty
    rw [selectText, filled, if_neg Bool.false_ne_true, scanFor_eq some]
    cases found : (occurrences needle.toList d.chars)[occurrence]? with
    | none => exact .inr (.inl ⟨empty, List.getElem?_eq_none_iff.mp found, rfl⟩)
    | some i =>
      have there := (mem_occurrences some).mp (List.mem_of_getElem? found)
      have span := d.select_occurrence there some
      rw [String.length_toList] at span
      exact .inr (.inr ⟨i, empty, rfl, span, by simp [span]⟩)

theorem selectText_ok {d : Document} {needle : String} {occurrence : Nat} {s : Span}
    (selects : (d.selectText needle occurrence).1 = .ok s) :
    needle ≠ "" ∧ ∃ i, (occurrences needle.toList d.chars)[occurrence]? = some i ∧
      s = ⟨i, i + needle.length⟩ ∧ (d.selectText needle occurrence).2.chars = d.chars ∧
      (d.selectText needle occurrence).2.selection = s ∧
      (d.selectText needle occurrence).2.selectedText = needle := by
  rcases d.selectText_cases needle occurrence with
    ⟨_, e⟩ | ⟨_, _, e⟩ | ⟨i, filled, found, span, e⟩
  · rw [e] at selects
    cases selects
  · rw [e] at selects
    cases selects
  · rw [e] at selects
    cases selects
    have some : needle.toList ≠ [] := mt String.toList_eq_nil_iff.mp filled
    have shown := d.select_selected ((mem_occurrences some).mp (List.mem_of_getElem? found)) some
    rw [String.length_toList] at shown
    rw [e]
    exact ⟨filled, i, found, rfl, rfl, span, by rw [selectedText, shown, String.ofList_toList]⟩

theorem selectText_error {d : Document} {needle : String} {occurrence : Nat} {e : SearchError}
    (fails : (d.selectText needle occurrence).1 = .error e) :
    (e = .emptyNeedle ∨ e = .notFound needle occurrence) ∧
      (d.selectText needle occurrence).2 = d := by
  rcases d.selectText_cases needle occurrence with ⟨_, e⟩ | ⟨_, _, e⟩ | ⟨_, _, _, _, e⟩
  · rw [e] at fails ⊢
    cases fails
    exact ⟨.inl rfl, rfl⟩
  · rw [e] at fails ⊢
    cases fails
    exact ⟨.inr rfl, rfl⟩
  · rw [e] at fails
    cases fails

theorem selectText_of_occurs {d : Document} {needle : List Char} (some : needle ≠ [])
    (occurs : ∃ i, OccursAt needle d.chars i) :
    ∃ j, OccursAt needle d.chars j ∧
      d.selectText (String.ofList needle) 0 =
        (.ok ⟨j, j + needle.length⟩, d.select j (j + needle.length)) := by
  obtain ⟨i, occurs⟩ := occurs
  have positive := List.length_pos_of_mem ((mem_occurrences some).mpr occurs)
  rcases d.selectText_cases (String.ofList needle) 0 with
    ⟨empty, _⟩ | ⟨_, few, _⟩ | ⟨j, _, found, _, selects⟩
  · exact absurd (by simpa using empty) some
  · rw [String.toList_ofList] at few
    omega
  · rw [String.toList_ofList] at found
    rw [String.length_ofList] at selects
    exact ⟨j, (mem_occurrences some).mp (List.mem_of_getElem? found), selects⟩

theorem selectText_congr {d d' : Document} (same : d.chars = d'.chars) {needle : String}
    {occurrence : Nat} {s : Span} {found : Document}
    (selects : d'.selectText needle occurrence = (.ok s, found)) :
    d.selectText needle occurrence = (.ok s, found) := by
  have alike (i j : Nat) : d.select i j = d'.select i j := by
    apply Document.ext
    · exact same
    · simp only [select, Document.length, same]
  unfold selectText at selects ⊢
  rw [same]
  split at selects
  · cases selects
  next filled =>
    rw [if_neg filled]
    split at selects
    · simpa only [alike] using selects
    · cases selects

theorem selectText_eq_emptyNeedle_iff {d : Document} {needle : String} {occurrence : Nat} :
    (d.selectText needle occurrence).1 = .error .emptyNeedle ↔ needle = "" := by
  rcases d.selectText_cases needle occurrence with
    ⟨empty, e⟩ | ⟨filled, _, e⟩ | ⟨_, filled, _, _, e⟩
  · rw [e]
    simp [empty]
  · simp [e, filled]
  · simp [e, filled]

theorem selectText_eq_notFound_iff {d : Document} {needle : String} {occurrence : Nat} :
    (d.selectText needle occurrence).1 = .error (.notFound needle occurrence) ↔
      needle ≠ "" ∧ (occurrences needle.toList d.chars).length ≤ occurrence := by
  rcases d.selectText_cases needle occurrence with
    ⟨empty, e⟩ | ⟨filled, few, e⟩ | ⟨i, _, found, _, e⟩
  · rw [e]
    simp [empty]
  · simp [e, filled, few]
  · obtain ⟨more, _⟩ := List.getElem?_eq_some_iff.mp found
    simp [e, more]

theorem selectText_of_place {d : Document} {needle : String} {occurrence i : Nat}
    (some : needle ≠ "") (place : (occurrences needle.toList d.chars)[occurrence]? = .some i) :
    (d.selectText needle occurrence).1 = .ok ⟨i, i + needle.length⟩ := by
  rcases d.selectText_cases needle occurrence with ⟨empty, _⟩ | ⟨_, few, _⟩ | ⟨j, _, found, _, e⟩
  · exact absurd empty some
  · obtain ⟨more, _⟩ := List.getElem?_eq_some_iff.mp place
    exact absurd few (Nat.not_le_of_lt more)
  · cases found.symm.trans place
    rw [e]

theorem start_lt_of_selectText {d : Document} {needle : String} {k k' : Nat} {s s' : Span}
    (later : k < k') (first : (d.selectText needle k).1 = .ok s)
    (second : (d.selectText needle k').1 = .ok s') : s.start < s'.start := by
  obtain ⟨_, i, found, rfl, _⟩ := selectText_ok first
  obtain ⟨_, i', found', rfl, _⟩ := selectText_ok second
  obtain ⟨_, rfl⟩ := List.getElem?_eq_some_iff.mp found
  obtain ⟨_, rfl⟩ := List.getElem?_eq_some_iff.mp found'
  exact List.pairwise_iff_getElem.mp (occurrences_ascending _ _) _ _ _ _ later

/-- The occurrence with a number, counted from zero, is selected: the place that the ascending list
of all places has under that number. The search fails just for the empty text and for a number that
is not below the number of places, and the document is then left as it is; a text longer than the
document has no place. Larger numbers select places further on. -/
theorem selectText_occurrence (d : Document) (needle : String) (k : Nat) :
    ((d.selectText needle k).1 = .error .emptyNeedle ↔ needle = "") ∧
    ((d.selectText needle k).1 = .error (.notFound needle k) ↔
      needle ≠ "" ∧ (occurrences needle.toList d.chars).length ≤ k) ∧
    (d.length < needle.length → (d.selectText needle k).1 = .error (.notFound needle k)) ∧
    (∀ e, (d.selectText needle k).1 = .error e →
      (e = .emptyNeedle ∨ e = .notFound needle k) ∧ (d.selectText needle k).2 = d) ∧
    (needle ≠ "" →
      (occurrences needle.toList d.chars).Pairwise (· < ·) ∧
      (∀ i, i ∈ occurrences needle.toList d.chars ↔ OccursAt needle.toList d.chars i) ∧
      ∀ i, (occurrences needle.toList d.chars)[k]? = some i →
        (d.selectText needle k).1 = .ok ⟨i, i + needle.length⟩) ∧
    (∀ s, (d.selectText needle k).1 = .ok s →
      (d.selectText needle k).2.chars = d.chars ∧ (d.selectText needle k).2.selection = s ∧
        (d.selectText needle k).2.selectedText = needle) ∧
    ∀ k' s s', k < k' → (d.selectText needle k).1 = .ok s →
      (d.selectText needle k').1 = .ok s' → s.start < s'.start := by
  refine ⟨selectText_eq_emptyNeedle_iff, selectText_eq_notFound_iff, fun longer => ?_,
    fun e => selectText_error, fun some => ?_, fun s selects => ?_,
    fun k' s s' => start_lt_of_selectText⟩
  · have some : needle ≠ "" := by
      rintro rfl
      exact absurd longer (Nat.not_lt_zero _)
    have none := occurrences_of_longer (mt String.toList_eq_nil_iff.mp some) longer
    exact selectText_eq_notFound_iff.mpr ⟨some, by rw [none]; exact Nat.zero_le k⟩
  · exact ⟨occurrences_ascending _ _,
      fun i => mem_occurrences (mt String.toList_eq_nil_iff.mp some),
      fun i => selectText_of_place some⟩
  · obtain ⟨_, _, _, _, left⟩ := selectText_ok selects
    exact left

theorem selectText_occurrence_overlapping :
    ((ofString "aaa").selectText "aa" 1).1 = .ok ⟨1, 3⟩ ∧
    ((ofString "aaa").selectText "aa" 1).2.selectedText = "aa" ∧
    ((ofString "aaa").selectText "aa" 2).1 = .error (.notFound "aa" 2) ∧
    ((ofString "aaa").selectText "aa" 2).2 = ofString "aaa" ∧
    ((ofString "aaa").selectText "aaaa" 0).1 = .error (.notFound "aaaa" 0) ∧
    ∀ s s', ((ofString "aaa").selectText "aa" 0).1 = .ok s →
      ((ofString "aaa").selectText "aa" 1).1 = .ok s' → s.start < s'.start := by
  obtain ⟨_, _, _, _, places, left, _⟩ := selectText_occurrence (ofString "aaa") "aa" 1
  obtain ⟨_, missing, _, unchanged, _, _, _⟩ := selectText_occurrence (ofString "aaa") "aa" 2
  obtain ⟨_, _, longer, _, _, _, _⟩ := selectText_occurrence (ofString "aaa") "aaaa" 0
  obtain ⟨_, _, _, _, _, _, further⟩ := selectText_occurrence (ofString "aaa") "aa" 0
  obtain ⟨_, _, place⟩ := places (by decide)
  have selects := place 1 (by decide)
  have few := missing.mpr ⟨by decide, by decide⟩
  exact ⟨selects, (left _ selects).2.2, few, (unchanged _ few).2, longer (by decide),
    fun s s' => further 1 s s' Nat.one_pos⟩

end Document

end CallCapture

import CallCapture.Text.Basic
import CallCapture.Timestamp
import Mathlib

namespace CallCapture.Text

theorem isDigit_digit (n : Nat) : isDigit (digit n) = true := by
  have h : n % 10 < 10 := Nat.mod_lt _ (by decide)
  unfold digit
  generalize n % 10 = k at h
  match k, h with
  | 0, _ | 1, _ | 2, _ | 3, _ | 4, _ | 5, _ | 6, _ | 7, _ | 8, _ | 9, _ => rfl

theorem isDigit_of_mem_digits {n : Nat} {c : Char} (member : c ∈ digits n) : isDigit c = true := by
  fun_induction digits n with
  | case1 n small =>
    rw [List.mem_singleton.mp member]
    exact isDigit_digit n
  | case2 n large ih =>
    rcases List.mem_append.mp member with high | low
    · exact ih high
    · rw [List.mem_singleton.mp low]
      exact isDigit_digit n

theorem digits_ne_nil (n : Nat) : digits n ≠ [] := by
  unfold digits
  split <;> simp

theorem tail_digits_of_zero {n : Nat} {rest : List Char} (zero : digits n = '0' :: rest) :
    rest = [] := by
  fun_induction digits n generalizing rest with
  | case1 n small => simpa using (List.cons.inj zero).2.symm
  | case2 n large ih =>
    cases high : digits (n / 10) with
    | nil => exact absurd high (digits_ne_nil _)
    | cons c tail =>
      rw [high] at zero
      have front : c = '0' := (List.cons.inj zero).1
      have single : tail = [] := ih (by rw [high, front])
      have value : decimal (digits (n / 10)) = 0 := by rw [high, front, single]; rfl
      rw [decimal_digits] at value
      omega

theorem length_digits_le {n width : Nat} (positive : 0 < width) (fits : n < 10 ^ width) :
    (digits n).length ≤ width := by
  fun_induction digits n generalizing width with
  | case1 n small => exact positive
  | case2 n large ih =>
    obtain ⟨width, rfl⟩ : ∃ w, width = w + 1 := ⟨width - 1, by omega⟩
    have wide : 0 < width := by
      apply Nat.pos_of_ne_zero
      rintro rfl
      omega
    have higher : n / 10 < 10 ^ width := by
      rw [Nat.pow_succ] at fits
      omega
    have := ih wide higher
    simp only [List.length_append, List.length_cons, List.length_nil]
    omega

theorem decimal_zeros_append (k : Nat) (ds : List Char) :
    decimal (List.replicate k '0' ++ ds) = decimal ds := by
  have zeros : (List.replicate k '0').foldl (fun n c => 10 * n + digitValue c) 0 = 0 := by
    induction k with
    | zero => rfl
    | succ k ih => rw [List.replicate_succ, List.foldl_cons]; exact ih
  simp only [decimal, valueFrom, List.foldl_append, zeros]

theorem decimal_padded (width n : Nat) : decimal (padded width n) = n := by
  simp only [padded, decimal_zeros_append, decimal_digits]

theorem length_padded {width n : Nat} (positive : 0 < width) (fits : n < 10 ^ width) :
    (padded width n).length = width := by
  have := length_digits_le positive fits
  simp only [padded, List.length_append, List.length_replicate]
  omega

theorem isDigit_of_mem_padded {w n : Nat} {c : Char} (member : c ∈ padded w n) :
    isDigit c = true := by
  rcases List.mem_append.mp member with zero | digit
  · rw [List.eq_of_mem_replicate zero]
    rfl
  · exact isDigit_of_mem_digits digit

def NoDigitFirst (cs : List Char) : Prop := ∀ c, cs.head? = some c → isDigit c = false

theorem takeWhile_digits {ds rest : List Char} (digits : ∀ c ∈ ds, isDigit c = true)
    (ends : NoDigitFirst rest) : (ds ++ rest).takeWhile isDigit = ds := by
  rw [List.takeWhile_append_of_pos digits]
  cases rest with
  | nil => simp
  | cons c rest => simp [ends c rfl]

theorem dropWhile_digits {ds rest : List Char} (digits : ∀ c ∈ ds, isDigit c = true)
    (ends : NoDigitFirst rest) : (ds ++ rest).dropWhile isDigit = rest := by
  rw [List.dropWhile_append_of_pos digits]
  cases rest with
  | nil => simp
  | cons c rest => simp [ends c rfl]

end CallCapture.Text

namespace CallCapture.Timestamp

section

open Text

theorem readDigits_padded {w n : Nat} (positive : 0 < w) (fits : n < 10 ^ w)
    (rest : List Char) : readDigits w (padded w n ++ rest) = some (n, rest) := by
  have length := length_padded positive fits
  have digits : (padded w n).all isDigit = true :=
    List.all_eq_true.mpr fun _ => isDigit_of_mem_padded
  have front : (padded w n ++ rest).take w = padded w n := by simp [length]
  have back : (padded w n ++ rest).drop w = rest := by simp [length]
  simp [readDigits, front, back, length, digits, decimal_padded]

theorem readMark_cons (c : Char) (rest : List Char) : readMark c (c :: rest) = some rest := by
  simp [readMark]

theorem readSeparator_T (rest : List Char) : readSeparator ('T' :: rest) = some rest := rfl

/-! ### The fraction of a second -/

theorem dropTrailingZeros_append (ds : List Char) :
    dropTrailingZeros ds ++ List.replicate (ds.length - (dropTrailingZeros ds).length) '0' =
      ds := by
  have parts := List.takeWhile_append_dropWhile (p := (· == '0')) (l := ds.reverse)
  have zeros : ds.reverse.takeWhile (· == '0') =
      List.replicate (ds.reverse.takeWhile (· == '0')).length '0' :=
    List.eq_replicate_of_mem fun c member => by simpa using List.mem_takeWhile_imp member
  have whole : ds = dropTrailingZeros ds ++ (ds.reverse.takeWhile (· == '0')).reverse := by
    rw [dropTrailingZeros, ← List.reverse_append, parts, List.reverse_reverse]
  have length : ds.length - (dropTrailingZeros ds).length =
      (ds.reverse.takeWhile (· == '0')).length := by
    have := congrArg List.length whole
    simp only [List.length_append, List.length_reverse] at this
    omega
  rw [length, ← List.reverse_replicate, ← zeros]
  exact whole.symm

theorem dropTrailingZeros_padded_ne_nil {n : Nat} (some : n ≠ 0) (width : Nat) :
    dropTrailingZeros (padded width n) ≠ [] := by
  intro nothing
  have zeros := dropTrailingZeros_append (padded width n)
  rw [nothing, List.nil_append] at zeros
  have value := decimal_padded width n
  rw [← zeros, ← List.append_nil (List.replicate _ _), decimal_zeros_append] at value
  exact some value.symm

theorem nanoseconds_dropTrailingZeros {n : Nat} (fits : n < 1000000000) :
    nanoseconds (dropTrailingZeros (padded 9 n)) = n := by
  have length : (padded 9 n).length = 9 := length_padded (by decide) fits
  have whole := dropTrailingZeros_append (padded 9 n)
  have short : (dropTrailingZeros (padded 9 n)).length ≤ 9 := by
    have := congrArg List.length whole
    simp only [List.length_append, List.length_replicate, length] at this
    omega
  rw [length] at whole
  rw [nanoseconds, List.take_of_length_le short, whole, decimal_padded]

theorem isDigit_of_mem_dropTrailingZeros {n : Nat} {c : Char}
    (member : c ∈ dropTrailingZeros (padded 9 n)) : isDigit c = true := by
  apply isDigit_of_mem_padded (w := 9) (n := n)
  rw [dropTrailingZeros, List.mem_reverse] at member
  exact List.mem_reverse.mp ((List.dropWhile_sublist _).mem member)

theorem readFraction_writeFraction {n : Nat} (fits : n < 1000000000) {rest : List Char}
    (ends : NoDigitFirst rest) (point : rest.head? ≠ some '.') :
    readFraction (writeFraction n ++ rest) = some (n, rest) := by
  unfold writeFraction
  split
  next zero =>
    subst zero
    rw [List.nil_append]
    unfold readFraction
    split
    · simp at point
    · rfl
  next some =>
    have digits : ∀ c ∈ dropTrailingZeros (padded 9 n), isDigit c = true :=
      fun _ => isDigit_of_mem_dropTrailingZeros
    simp only [List.cons_append, readFraction, takeWhile_digits digits ends,
      dropWhile_digits digits ends, nanoseconds_dropTrailingZeros fits]
    simp [dropTrailingZeros_padded_ne_nil some]

/-! ### The offset -/

theorem writeOffset_ends (minutes : Int) :
    NoDigitFirst (writeOffset minutes) ∧ (writeOffset minutes).head? ≠ some '.' := by
  have first : ∃ c rest, writeOffset minutes = c :: rest ∧ isDigit c = false ∧ c ≠ '.' := by
    unfold writeOffset
    split
    · exact ⟨_, _, rfl, rfl, by decide⟩
    · split
      · exact ⟨_, _, rfl, rfl, by decide⟩
      · exact ⟨_, _, rfl, rfl, by decide⟩
  obtain ⟨c, rest, written, other, point⟩ := first
  rw [written]
  constructor
  · intro d front
    cases front
    exact other
  · simpa using point

theorem readOffset_signed {sign : Char} (isSign : sign = '+' ∨ sign = '-') {hours minutes : Nat}
    (hoursFit : hours < 24) (minutesFit : minutes < 60) :
    readOffset (sign :: (padded 2 hours ++ ':' :: padded 2 minutes)) =
      some (if sign = '-' then -(60 * hours + minutes : Int) else (60 * hours + minutes : Int),
        []) := by
  have readHours := readDigits_padded (w := 2) (by decide) (by omega : hours < 10 ^ 2)
    (':' :: padded 2 minutes)
  have readMinutes := readDigits_padded (w := 2) (by decide) (by omega : minutes < 10 ^ 2) []
  rw [List.append_nil] at readMinutes
  have inRange : ¬ (24 ≤ hours ∨ 60 ≤ minutes) := by omega
  rcases isSign with rfl | rfl
  · simp [readOffset, readHours, readMark_cons, readMinutes, inRange]
  · simp [readOffset, readHours, readMark_cons, readMinutes, inRange]

theorem readOffset_writeOffset {minutes : Int} (valid : isOffset minutes = true) :
    readOffset (writeOffset minutes) = some (minutes, []) := by
  have small : minutes.natAbs < 1440 := of_decide_eq_true valid
  unfold writeOffset
  split
  next zero => subst zero; rfl
  next other =>
    have hours : minutes.natAbs / 60 < 24 := by omega
    have rest : minutes.natAbs % 60 < 60 := by omega
    by_cases negative : minutes < 0
    · have value :
          -(60 * ((minutes.natAbs / 60 : Nat) : Int) + ((minutes.natAbs % 60 : Nat) : Int)) =
            minutes := by omega
      rw [if_pos negative, readOffset_signed (.inr rfl) hours rest, if_pos rfl, value]
    · have value : 60 * ((minutes.natAbs / 60 : Nat) : Int) + ((minutes.natAbs % 60 : Nat) : Int) =
          minutes := by omega
      rw [if_neg negative, readOffset_signed (.inl rfl) hours rest, if_neg (by decide), value]

/-! ### Timestamps -/

theorem daysIn_le (year month : Nat) : daysIn year month ≤ 31 := by
  unfold daysIn
  split
  · split <;> decide
  · split <;> decide

theorem read?_write (t : Timestamp) : read? t.write = some t := by
  obtain ⟨year, month, day, hour, minute, second, nanosecond, offset, hd, ht, ho⟩ := t
  have date := hd
  have time := ht
  simp only [isDate, Bool.and_eq_true, decide_eq_true_eq] at date
  simp only [isTime, Bool.and_eq_true, decide_eq_true_eq] at time
  have dayFits := daysIn_le year month
  have readYear := readDigits_padded (w := 4) (n := year) (by decide) (by omega)
  have readTwo {n : Nat} (fits : n < 100) := readDigits_padded (w := 2) (n := n) (by decide) fits
  have readMonth := readTwo (n := month) (by omega)
  have readDay := readTwo (n := day) (by omega)
  have readHour := readTwo (n := hour) (by omega)
  have readMinute := readTwo (n := minute) (by omega)
  have readSecond := readTwo (n := second) (by omega)
  obtain ⟨ends, point⟩ := writeOffset_ends offset
  have readNanosecond := readFraction_writeFraction (n := nanosecond) (by omega) ends point
  have noLeap : second ≠ 60 := by omega
  rw [write]
  simp only [List.append_assoc, List.cons_append]
  refine Option.bind_eq_some_iff.mpr ⟨_, readYear _, ?_⟩
  refine Option.bind_eq_some_iff.mpr ⟨_, readMark_cons _ _, ?_⟩
  refine Option.bind_eq_some_iff.mpr ⟨_, readMonth _, ?_⟩
  refine Option.bind_eq_some_iff.mpr ⟨_, readMark_cons _ _, ?_⟩
  refine Option.bind_eq_some_iff.mpr ⟨_, readDay _, ?_⟩
  refine Option.bind_eq_some_iff.mpr ⟨_, readSeparator_T _, ?_⟩
  refine Option.bind_eq_some_iff.mpr ⟨_, readHour _, ?_⟩
  refine Option.bind_eq_some_iff.mpr ⟨_, readMark_cons _ _, ?_⟩
  refine Option.bind_eq_some_iff.mpr ⟨_, readMinute _, ?_⟩
  refine Option.bind_eq_some_iff.mpr ⟨_, readMark_cons _ _, ?_⟩
  refine Option.bind_eq_some_iff.mpr ⟨_, readSecond _, ?_⟩
  refine Option.bind_eq_some_iff.mpr ⟨_, readNanosecond, ?_⟩
  refine Option.bind_eq_some_iff.mpr ⟨_, readOffset_writeOffset ho, ?_⟩
  simp [noLeap, hd, ht, ho]

end

end CallCapture.Timestamp

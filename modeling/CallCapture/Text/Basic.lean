namespace CallCapture.Text

def inRanges (ranges : List (Nat × Nat)) (c : Char) : Bool :=
  ranges.any fun r => r.1 ≤ c.toNat && c.toNat ≤ r.2

def rangeCount (ranges : List (Nat × Nat)) : Nat :=
  ranges.foldl (fun n r => n + (r.2 + 1 - r.1)) 0

/-! ### Blanks -/

def blankRanges : List (Nat × Nat) :=
  [(0x09, 0x0D), (0x20, 0x20), (0x85, 0x85), (0xA0, 0xA0), (0x1680, 0x1680), (0x2000, 0x200A),
   (0x2028, 0x2029), (0x202F, 0x202F), (0x205F, 0x205F), (0x3000, 0x3000)]

def isBlank (c : Char) : Bool := inRanges blankRanges c

def trimStart (s : List Char) : List Char := s.dropWhile isBlank

def trimEnd (s : List Char) : List Char := (s.reverse.dropWhile isBlank).reverse

def trim (s : List Char) : List Char := trimEnd (trimStart s)

def AllBlank (s : List Char) : Prop := ∀ c ∈ s, isBlank c = true

def isBlankText (s : List Char) : Bool := (trim s).isEmpty

example : rangeCount blankRanges = 25 := rfl

/-! ### Cuts counted in bytes -/

def byteSize : List Char → Nat
  | [] => 0
  | c :: rest => c.utf8Size + byteSize rest

def splitBytes? : (n : Nat) → List Char → Option (List Char × List Char)
  | 0, s => some ([], s)
  | _, [] => none
  | n, c :: rest =>
    if c.utf8Size ≤ n then (splitBytes? (n - c.utf8Size) rest).map fun (a, b) => (c :: a, b)
    else none

def dropBytes? (start : Nat) (s : List Char) : Option (List Char) :=
  (splitBytes? start s).map (·.2)

def cut? (start stop : Nat) (s : List Char) : Option (List Char) :=
  (dropBytes? start s).bind fun rest => (splitBytes? (stop - start) rest).map (·.1)

def quoteChar (c : Char) : List Char :=
  if c = '"' || c = '\\' then ['\\', c] else [c]

def quote (s : String) : String := "\"" ++ String.ofList (s.toList.flatMap quoteChar) ++ "\""

def listing (texts : List String) : String :=
  "[" ++ String.intercalate ", " (texts.map quote) ++ "]"

/-! ### Digits -/

def isDigit (c : Char) : Bool := '0' ≤ c && c ≤ '9'

def digit (n : Nat) : Char := Char.ofNat (48 + n % 10)

def digitValue (c : Char) : Nat := c.toNat - 48

def digits (n : Nat) : List Char :=
  if n < 10 then [digit n] else digits (n / 10) ++ [digit n]
termination_by n
decreasing_by omega

def valueFrom (base : Nat) (value : Char → Nat) (high : Nat) (ds : List Char) : Nat :=
  ds.foldl (fun n c => base * n + value c) high

def decimal (ds : List Char) : Nat := valueFrom 10 digitValue 0 ds

def padded (width n : Nat) : List Char :=
  let ds := digits n
  List.replicate (width - ds.length) '0' ++ ds

def isHexDigit (c : Char) : Bool :=
  isDigit c || ('a' ≤ c && c ≤ 'f') || ('A' ≤ c && c ≤ 'F')

def hexValue (c : Char) : Nat :=
  if isDigit c then c.toNat - 48 else if 'a' ≤ c then c.toNat - 87 else c.toNat - 55

def hexadecimal (ds : List Char) : Nat := valueFrom 16 hexValue 0 ds

def char? (n : Nat) : Option Char := if n.isValidChar then some (Char.ofNat n) else none

def hexDigit (n : Nat) : Char := if n < 10 then Char.ofNat (48 + n) else Char.ofNat (87 + n)

/-- An unsigned 64-bit number in decimal, one plus sign allowed before it. -/
def word? (s : List Char) : Option UInt64 :=
  let ds := match s with
    | '+' :: rest => rest
    | _ => s
  if ds.isEmpty || !ds.all isDigit then none
  else if decimal ds < UInt64.size then some (UInt64.ofNat (decimal ds)) else none

theorem digitValue_digit (n : Nat) : digitValue (digit n) = n % 10 := by
  have h : n % 10 < 10 := Nat.mod_lt _ (by decide)
  unfold digit digitValue
  generalize n % 10 = k at h
  match k, h with
  | 0, _ | 1, _ | 2, _ | 3, _ | 4, _ | 5, _ | 6, _ | 7, _ | 8, _ | 9, _ => rfl

theorem decimal_concat (ds : List Char) (c : Char) :
    decimal (ds ++ [c]) = 10 * decimal ds + digitValue c := by
  simp [decimal, valueFrom, List.foldl_append]

theorem decimal_digits (n : Nat) : decimal (digits n) = n := by
  fun_induction digits n with
  | case1 n h =>
    have : decimal [digit n] = digitValue (digit n) := by simp [decimal, valueFrom]
    rw [this, digitValue_digit]
    omega
  | case2 n h ih => rw [decimal_concat, ih, digitValue_digit]; omega

/-! ### Lines -/

def lineFeed : UInt8 := 10

def carriageReturn : UInt8 := 13

def stripReturn (line : List UInt8) : List UInt8 :=
  if line.getLast? = some carriageReturn then line.dropLast else line

def endLines : List (List UInt8) → List (List UInt8)
  | [] | [[]] => []
  | [rest] => [rest]
  | line :: next :: rest => stripReturn line :: endLines (next :: rest)

def lines (bytes : List UInt8) : List (List UInt8) := endLines (bytes.splitOn lineFeed)

theorem endLines_append {ended rest : List (List UInt8)} (more : rest ≠ []) :
    endLines (ended ++ rest) = ended.map stripReturn ++ endLines rest := by
  induction ended with
  | nil => rfl
  | cons line ended ih =>
    cases tail : ended ++ rest with
    | nil => exact absurd (List.append_eq_nil_iff.mp tail).2 more
    | cons next later =>
      rw [List.cons_append, tail, endLines, ← tail, ih, List.map_cons, List.cons_append]

theorem lines_append (x y : List UInt8) :
    lines (x ++ [lineFeed] ++ y) = lines (x ++ [lineFeed]) ++ lines y := by
  have cut (rest : List UInt8) :
      lines (x ++ lineFeed :: rest) = (x.splitOn lineFeed).map stripReturn ++ lines rest := by
    rw [lines, List.splitOn_append_cons_self, endLines_append (List.splitOn_ne_nil _ _), lines]
  have last : lines (x ++ [lineFeed]) = (x.splitOn lineFeed).map stripReturn := by
    rw [cut [], show lines [] = [] from rfl, List.append_nil]
  rw [last, List.append_assoc, List.singleton_append, cut y]

def decodeLine? (line : List UInt8) : Option String := String.fromUTF8? ⟨line.toArray⟩

theorem fromUTF8?_toUTF8 (s : String) : String.fromUTF8? s.toUTF8 = some s := by
  have valid : s.toUTF8.IsValidUTF8 := s.isValidUTF8
  rw [String.fromUTF8?, dif_pos valid]
  rfl

end CallCapture.Text

import CallCapture.Text.Basic

namespace CallCapture.Toml

open Text

def isPlain (c : Char) : Bool := c = '\t' || (0x20 ≤ c.toNat && c.toNat ≠ 0x7F)

def isBlank (c : Char) : Bool := c = ' ' || c = '\t'

def readLineEnd : List Char → Option (List Char)
  | '\n' :: rest => some rest
  | '\r' :: '\n' :: rest => some rest
  | _ => none

def readCode (count : Nat) (cs : List Char) : Option (Char × List Char) :=
  let ds := cs.take count
  if ds.length = count && ds.all isHexDigit then
    (char? (hexadecimal ds)).map fun c => (c, cs.drop count)
  else none

def readEscape : List Char → Option (Char × List Char)
  | 'b' :: rest => some ('\x08', rest)
  | 't' :: rest => some ('\t', rest)
  | 'n' :: rest => some ('\n', rest)
  | 'f' :: rest => some ('\x0c', rest)
  | 'r' :: rest => some ('\r', rest)
  | '"' :: rest => some ('"', rest)
  | '\\' :: rest => some ('\\', rest)
  | 'u' :: rest => readCode 4 rest
  | 'U' :: rest => readCode 8 rest
  | _ => none

def skipBlankLines : List Char → List Char
  | '\r' :: '\n' :: rest => skipBlankLines rest
  | c :: rest => if isBlank c || c = '\n' then skipBlankLines rest else c :: rest
  | [] => []

/-- The text after a line break that a backslash hides: blanks, a line end, and all blanks and line
ends that follow. -/
def readHiddenBreak (cs : List Char) : Option (List Char) :=
  (readLineEnd (cs.dropWhile isBlank)).map skipBlankLines

theorem length_readLineEnd {cs rest : List Char} (h : readLineEnd cs = some rest) :
    rest.length < cs.length := by
  unfold readLineEnd at h
  split at h
  · obtain rfl := Option.some.inj h
    exact Nat.lt_succ_self _
  · obtain rfl := Option.some.inj h
    exact Nat.lt_succ_of_lt (Nat.lt_succ_self _)
  · contradiction

theorem length_skipBlankLines (cs : List Char) : (skipBlankLines cs).length ≤ cs.length := by
  fun_induction skipBlankLines cs with
  | case1 rest ih => exact Nat.le_succ_of_le (Nat.le_succ_of_le ih)
  | case2 c rest _ _ ih => exact Nat.le_succ_of_le ih
  | case3 => exact Nat.le_refl _
  | case4 => exact Nat.le_refl _

theorem length_readHiddenBreak {cs rest : List Char} (h : readHiddenBreak cs = some rest) :
    rest.length ≤ cs.length := by
  obtain ⟨next, found, rfl⟩ := Option.map_eq_some_iff.mp h
  have shorter := length_readLineEnd found
  have skipped := length_skipBlankLines next
  have dropped := (List.dropWhile_sublist isBlank (l := cs)).length_le
  omega

theorem length_readCode {count : Nat} {cs rest : List Char} {c : Char}
    (h : readCode count cs = some (c, rest)) : rest.length ≤ cs.length := by
  simp only [readCode] at h
  split at h
  · obtain ⟨_, _, found⟩ := Option.map_eq_some_iff.mp h
    obtain ⟨-, rfl⟩ := Prod.mk.inj found
    simp
  · simp at h

theorem length_readEscape {cs rest : List Char} {c : Char} (h : readEscape cs = some (c, rest)) :
    rest.length < cs.length := by
  unfold readEscape at h
  split at h
  case h_8 | h_9 => exact Nat.lt_succ_of_le (length_readCode h)
  case h_10 => contradiction
  all_goals
    obtain ⟨-, rfl⟩ := Prod.mk.inj (Option.some.inj h)
    exact Nat.lt_succ_self _

def readBasic (done : List Char) (cs : List Char) : Option (String × List Char) :=
  match cs with
  | [] => none
  | '"' :: rest => some (String.ofList done.reverse, rest)
  | '\\' :: rest =>
    match h : readEscape rest with
    | some (c, next) =>
      have := length_readEscape h
      readBasic (c :: done) next
    | none => none
  | c :: rest => if isPlain c then readBasic (c :: done) rest else none
termination_by cs.length
decreasing_by all_goals simp only [List.length_cons]; omega

def readLiteral (done : List Char) : List Char → Option (String × List Char)
  | [] => none
  | c :: rest =>
    if c = '\x27' then some (String.ofList done.reverse, rest)
    else if isPlain c then readLiteral (c :: done) rest
    else none

/-- What a run of quotation marks within a string on several lines comes to. One or two of them
belong to the string; three end it, and up to two before those belong to it. -/
inductive MarkRun
  | inside (count : Nat)
  | closing (count : Nat)
deriving DecidableEq, Repr

def markRun (mark : Char) (cs : List Char) : MarkRun :=
  let more := (cs.takeWhile (· == mark)).length
  if more < 2 then .inside (more + 1) else .closing (min (more - 2) 2)

def readLines (mark : Char) (escapes : Bool) (done : List Char) (cs : List Char) :
    Option (String × List Char) :=
  match cs with
  | [] => none
  | c :: rest =>
    if c = mark then
      match markRun mark rest with
      | .inside count =>
        readLines mark escapes (List.replicate count mark ++ done) (rest.drop (count - 1))
      | .closing count =>
        some (String.ofList (List.replicate count mark ++ done).reverse, rest.drop (count + 2))
    else if escapes && c = '\\' then
      match hb : readHiddenBreak rest with
      | some next =>
        have := length_readHiddenBreak hb
        readLines mark escapes done next
      | none =>
        match he : readEscape rest with
        | some (e, next) =>
          have := length_readEscape he
          readLines mark escapes (e :: done) next
        | none => none
    else
      match hl : readLineEnd (c :: rest) with
      | some next =>
        have := length_readLineEnd hl
        readLines mark escapes ('\n' :: done) next
      | none => if isPlain c then readLines mark escapes (c :: done) rest else none
termination_by cs.length
decreasing_by all_goals simp only [List.length_cons, List.length_drop] at *; omega

def skipFirstLineEnd (cs : List Char) : List Char := (readLineEnd cs).getD cs

def readLineText : List Char → Option (String × List Char)
  | '"' :: rest => readBasic [] rest
  | '\x27' :: rest => readLiteral [] rest
  | _ => none

def readText : List Char → Option (String × List Char)
  | '"' :: '"' :: '"' :: rest => readLines '"' true [] (skipFirstLineEnd rest)
  | '\x27' :: '\x27' :: '\x27' :: rest =>
    readLines '\x27' false [] (skipFirstLineEnd rest)
  | cs => readLineText cs

end CallCapture.Toml

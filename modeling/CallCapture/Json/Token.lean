import CallCapture.Json.Value

namespace CallCapture.Json

inductive Token
  | openBrace
  | closeBrace
  | openBracket
  | closeBracket
  | colon
  | comma
  | null
  | bool (b : Bool)
  | number (n : Number)
  | text (s : Words)
deriving DecidableEq, Repr

def isSpace (c : Char) : Bool := c = ' ' || c = '\t' || c = '\n' || c = '\r'

/-! ### Strings -/

/-- A piece of a string: a character, or the 16-bit unit of a `\u` escape. -/
inductive Piece
  | char (c : Char)
  | unit (n : Nat)
deriving DecidableEq, Repr

def escaped? : Char → Option Char
  | '"' => some '"'
  | '\\' => some '\\'
  | '/' => some '/'
  | 'b' => some '\x08'
  | 'f' => some '\x0c'
  | 'n' => some '\n'
  | 'r' => some '\r'
  | 't' => some '\t'
  | _ => none

def readPieces (done : List Piece) : List Char → Option (List Piece × List Char)
  | [] => none
  | '"' :: rest => some (done.reverse, rest)
  | '\\' :: 'u' :: a :: b :: c :: d :: rest =>
    if [a, b, c, d].all Text.isHexDigit then
      readPieces (.unit (Text.hexadecimal [a, b, c, d]) :: done) rest
    else none
  | '\\' :: c :: rest =>
    match escaped? c with
    | some e => readPieces (.char e :: done) rest
    | none => none
  | c :: rest => if c.toNat < 0x20 then none else readPieces (.char c :: done) rest

def isHighSurrogate (n : Nat) : Bool := 0xD800 ≤ n && n < 0xDC00

def isLowSurrogate (n : Nat) : Bool := 0xDC00 ≤ n && n < 0xE000

/-- Joins surrogate pairs; a half that stands alone has no character. -/
def joinPieces (done : List Char) : List Piece → Option (List Char)
  | [] => some done.reverse
  | .char c :: rest => joinPieces (c :: done) rest
  | [.unit n] =>
    if isHighSurrogate n || isLowSurrogate n then none else some (Char.ofNat n :: done).reverse
  | .unit n :: .char c :: rest =>
    if isHighSurrogate n || isLowSurrogate n then none
    else joinPieces (c :: Char.ofNat n :: done) rest
  | .unit n :: .unit m :: rest =>
    if isHighSurrogate n then
      if isLowSurrogate m then
        joinPieces (Char.ofNat (0x10000 + (n - 0xD800) * 0x400 + (m - 0xDC00)) :: done) rest
      else none
    else if isLowSurrogate n then none
    else joinPieces (Char.ofNat n :: done) (.unit m :: rest)

def readText (cs : List Char) : Option (Token × List Char) :=
  (readPieces [] cs).map fun (pieces, rest) =>
    (.text ((joinPieces [] pieces).map String.ofList), rest)

/-! ### Numbers -/

def readFraction : List Char → Option (List Char × List Char)
  | '.' :: rest =>
    if (rest.takeWhile Text.isDigit).isEmpty then none
    else some (rest.takeWhile Text.isDigit, rest.dropWhile Text.isDigit)
  | cs => some ([], cs)

def readPower (cs : List Char) : Option ((Bool × List Char) × List Char) :=
  let (down, ds) := match cs with
    | '-' :: rest => (true, rest)
    | '+' :: rest => (false, rest)
    | _ => (false, cs)
  if (ds.takeWhile Text.isDigit).isEmpty then none
  else some ((down, ds.takeWhile Text.isDigit), ds.dropWhile Text.isDigit)

def readExponent : List Char → Option (Option (Bool × List Char) × List Char)
  | 'e' :: rest => (readPower rest).map fun (power, rest) => (some power, rest)
  | 'E' :: rest => (readPower rest).map fun (power, rest) => (some power, rest)
  | cs => some (none, cs)

def readWhole (cs : List Char) : Option (List Char × List Char) :=
  let ds := cs.takeWhile Text.isDigit
  if ds.isEmpty || (ds.head? = some '0' && 1 < ds.length) then none
  else some (ds, cs.dropWhile Text.isDigit)

def readUnsigned (negative : Bool) (cs : List Char) : Option (Token × List Char) := do
  let (whole, cs) ← readWhole cs
  let (fraction, cs) ← readFraction cs
  let (exponent, cs) ← readExponent cs
  some (.number ⟨negative, whole, fraction, exponent⟩, cs)

def readNumber : List Char → Option (Token × List Char)
  | '-' :: rest => readUnsigned true rest
  | cs => readUnsigned false cs

/-! ### Tokens -/

def readToken : List Char → Option (Token × List Char)
  | [] => none
  | '{' :: rest => some (.openBrace, rest)
  | '}' :: rest => some (.closeBrace, rest)
  | '[' :: rest => some (.openBracket, rest)
  | ']' :: rest => some (.closeBracket, rest)
  | ':' :: rest => some (.colon, rest)
  | ',' :: rest => some (.comma, rest)
  | '"' :: rest => readText rest
  | 'n' :: 'u' :: 'l' :: 'l' :: rest => some (.null, rest)
  | 't' :: 'r' :: 'u' :: 'e' :: rest => some (.bool true, rest)
  | 'f' :: 'a' :: 'l' :: 's' :: 'e' :: rest => some (.bool false, rest)
  | c :: rest => readNumber (c :: rest)

theorem length_readPieces {done pieces : List Piece} {cs rest : List Char}
    (h : readPieces done cs = some (pieces, rest)) : rest.length < cs.length := by
  fun_induction readPieces done cs with
  | case1 => simp at h
  | case2 => simp_all
  | case3 _ _ _ _ _ _ _ ih => have := ih h; simp only [List.length_cons]; omega
  | case4 => simp at h
  | case5 _ _ _ _ _ _ ih => have := ih h; simp only [List.length_cons]; omega
  | case6 => simp at h
  | case7 => simp at h
  | case8 _ _ _ _ _ _ _ ih => have := ih h; simp only [List.length_cons]; omega

theorem length_dropWhile_le (p : Char → Bool) (cs : List Char) :
    (cs.dropWhile p).length ≤ cs.length :=
  (List.dropWhile_suffix p).length_le

theorem length_readFraction {cs ds rest : List Char} (h : readFraction cs = some (ds, rest)) :
    rest.length ≤ cs.length := by
  unfold readFraction at h
  split at h
  · split at h
    · simp at h
    · obtain ⟨-, rfl⟩ := by simpa using h
      exact Nat.le_succ_of_le (length_dropWhile_le _ _)
  · simp_all

theorem length_readPower {cs rest : List Char} {power : Bool × List Char}
    (h : readPower cs = some (power, rest)) : rest.length ≤ cs.length := by
  unfold readPower at h
  split at h
  next down ds hds =>
    have bound : ds.length ≤ cs.length := by
      split at hds <;> simp_all
    split at h
    · simp at h
    · obtain ⟨-, rfl⟩ := by simpa using h
      exact Nat.le_trans (length_dropWhile_le _ _) bound

theorem length_readExponent {cs rest : List Char} {power : Option (Bool × List Char)}
    (h : readExponent cs = some (power, rest)) : rest.length ≤ cs.length := by
  unfold readExponent at h
  split at h
  · obtain ⟨p, hp, he⟩ := Option.map_eq_some_iff.1 h
    obtain ⟨-, rfl⟩ := by simpa using he
    exact Nat.le_succ_of_le (length_readPower hp)
  · obtain ⟨p, hp, he⟩ := Option.map_eq_some_iff.1 h
    obtain ⟨-, rfl⟩ := by simpa using he
    exact Nat.le_succ_of_le (length_readPower hp)
  · simp_all

theorem length_readWhole {cs ds rest : List Char} (h : readWhole cs = some (ds, rest)) :
    rest.length < cs.length := by
  unfold readWhole at h
  dsimp only at h
  split at h
  · simp at h
  next hne =>
    obtain ⟨rfl, rfl⟩ := by simpa using h
    have parts :=
      congrArg List.length (List.takeWhile_append_dropWhile (p := Text.isDigit) (l := cs))
    have some_digit : 0 < (cs.takeWhile Text.isDigit).length := by
      apply List.length_pos_iff.2
      intro h
      simp [h] at hne
    simp only [List.length_append] at parts
    omega

theorem length_readUnsigned {negative : Bool} {cs rest : List Char} {t : Token}
    (h : readUnsigned negative cs = some (t, rest)) : rest.length < cs.length := by
  simp only [readUnsigned, Option.bind_eq_bind, Option.bind_eq_some_iff] at h
  obtain ⟨⟨_, a⟩, ha, ⟨_, b⟩, hb, ⟨_, c⟩, hc, he⟩ := h
  obtain ⟨-, rfl⟩ := by simpa using he
  have shorter : a.length < cs.length := length_readWhole ha
  have fraction : b.length ≤ a.length := length_readFraction hb
  have power : c.length ≤ b.length := length_readExponent hc
  omega

theorem length_readNumber {cs rest : List Char} {t : Token}
    (h : readNumber cs = some (t, rest)) : rest.length < cs.length := by
  unfold readNumber at h
  split at h
  · have := length_readUnsigned h
    simp only [List.length_cons]
    omega
  · exact length_readUnsigned h

theorem length_readToken {cs rest : List Char} {t : Token}
    (h : readToken cs = some (t, rest)) : rest.length < cs.length := by
  unfold readToken at h
  split at h
  case h_1 => simp at h
  case h_8 =>
    obtain ⟨p, hp, he⟩ := Option.map_eq_some_iff.1 h
    obtain ⟨-, rfl⟩ := by simpa using he
    exact Nat.lt_succ_of_lt (length_readPieces hp)
  case h_12 => exact length_readNumber h
  all_goals
    cases h
    simp only [List.length_cons]
    omega

def readTokens (done : List Token) (cs : List Char) : Option (List Token) :=
  match cs with
  | [] => some done.reverse
  | c :: rest =>
    if isSpace c then readTokens done rest
    else
      match _h : readToken (c :: rest) with
      | some (t, left) => readTokens (t :: done) left
      | none => none
termination_by cs.length
decreasing_by
  · simp
  · exact length_readToken _h

def tokens? (cs : List Char) : Option (List Token) := readTokens [] cs

/-! ### Spelling -/

/-- How a character stands in a string: controls and the two marks are escaped, all else is
written as it is. -/
def spellChar (c : Char) : List Char :=
  if c = '"' then ['\\', '"']
  else if c = '\\' then ['\\', '\\']
  else if c = '\n' then ['\\', 'n']
  else if c = '\r' then ['\\', 'r']
  else if c = '\t' then ['\\', 't']
  else if c = '\x08' then ['\\', 'b']
  else if c = '\x0c' then ['\\', 'f']
  else if c.toNat < 0x20 then
    ['\\', 'u', '0', '0', Text.hexDigit (c.toNat / 16), Text.hexDigit (c.toNat % 16)]
  else [c]

def spellString (s : String) : List Char := '"' :: (s.toList.flatMap spellChar ++ ['"'])

def Number.spell (n : Number) : List Char :=
  (if n.negative then ['-'] else []) ++ n.whole
    ++ (if n.fraction.isEmpty then [] else '.' :: n.fraction)
    ++ (match n.exponent with
      | some (down, power) => 'e' :: (if down then '-' :: power else power)
      | none => [])

def Token.spell : Token → List Char
  | .openBrace => ['{']
  | .closeBrace => ['}']
  | .openBracket => ['[']
  | .closeBracket => [']']
  | .colon => [':']
  | .comma => [',']
  | .null => ['n', 'u', 'l', 'l']
  | .bool true => ['t', 'r', 'u', 'e']
  | .bool false => ['f', 'a', 'l', 's', 'e']
  | .number n => n.spell
  | .text s => spellString (s.getD "")

end CallCapture.Json

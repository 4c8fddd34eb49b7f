import CallCapture.Json.Text
import CallCapture.Proofs.Numerals

namespace CallCapture.Json

inductive Piece.Means : Piece → Char → Prop
  | char (c : Char) : Means (.char c) c
  | unit (c : Char) : Means (.unit c.toNat) c

theorem not_surrogate (c : Char) :
    isHighSurrogate c.toNat = false ∧ isLowSurrogate c.toNat = false := by
  have valid : c.toNat < 0xD800 ∨ 0xDFFF < c.toNat := by
    rcases c.valid with low | high
    · exact .inl low
    · exact .inr high.1
  simp only [isHighSurrogate, isLowSurrogate, Bool.and_eq_false_iff, decide_eq_false_iff_not]
  omega

theorem joinPieces_cons {p : Piece} {c : Char} (means : p.Means c) (done : List Char)
    (rest : List Piece) : joinPieces done (p :: rest) = joinPieces (c :: done) rest := by
  cases means with
  | char => rw [joinPieces]
  | unit =>
    obtain ⟨high, low⟩ := not_surrogate c
    cases rest with
    | nil => simp [joinPieces, high, low]
    | cons q rest =>
      cases q with
      | char d => simp [joinPieces, high, low]
      | unit m => simp [joinPieces, high, low]

theorem joinPieces_means {pieces : List Piece} {s : List Char}
    (means : List.Forall₂ Piece.Means pieces s) (done : List Char) :
    joinPieces done pieces = some (done.reverse ++ s) := by
  induction means generalizing done with
  | nil => simp [joinPieces]
  | cons first _ ih => simp [joinPieces_cons first, ih]

theorem hexDigit_spec : ∀ n < 16,
    Text.isHexDigit (Text.hexDigit n) = true ∧ Text.hexValue (Text.hexDigit n) = n := by
  decide

theorem readPieces_spellChar (c : Char) : ∃ p : Piece, p.Means c ∧
    ∀ done rest, readPieces done (spellChar c ++ rest) = readPieces (p :: done) rest := by
  fun_cases spellChar c
  case case8 control =>
    obtain ⟨isHigh, high⟩ := hexDigit_spec (c.toNat / 16) (by omega)
    obtain ⟨isLow, low⟩ := hexDigit_spec (c.toNat % 16) (by omega)
    have value : Text.hexadecimal
        ['0', '0', Text.hexDigit (c.toNat / 16), Text.hexDigit (c.toNat % 16)] = c.toNat := by
      simp only [Text.hexadecimal, Text.valueFrom, List.foldl_cons, List.foldl_nil, high, low,
        show Text.hexValue '0' = 0 from rfl]
      omega
    refine ⟨.unit c.toNat, .unit c, fun done rest => ?_⟩
    simp [readPieces, isHigh, isLow, value, show Text.isHexDigit '0' = true from rfl]
  case case9 quote backslash _ _ _ _ _ printable =>
    refine ⟨.char c, .char c, fun done rest => ?_⟩
    rw [List.singleton_append, readPieces]
    · rw [if_neg printable]
    all_goals simp_all
  all_goals
    subst c
    exact ⟨.char _, .char _, fun done rest => by simp [readPieces, escaped?]⟩

theorem readPieces_spelt (s : List Char) : ∃ pieces, List.Forall₂ Piece.Means pieces s ∧
    ∀ done rest, readPieces done (s.flatMap spellChar ++ '"' :: rest) =
      some (done.reverse ++ pieces, rest) := by
  induction s with
  | nil => exact ⟨[], .nil, fun done rest => by simp [readPieces]⟩
  | cons c s ih =>
    obtain ⟨p, first, read⟩ := readPieces_spellChar c
    obtain ⟨pieces, means, later⟩ := ih
    refine ⟨p :: pieces, .cons first means, fun done rest => ?_⟩
    rw [List.flatMap_cons, List.append_assoc, read, later]
    simp

theorem readText_spelt (s : String) (rest : List Char) :
    readText (s.toList.flatMap spellChar ++ '"' :: rest) = some (.text (some s), rest) := by
  obtain ⟨pieces, means, read⟩ := readPieces_spelt s.toList
  simp [readText, read, joinPieces_means means]

def numberGoesOn (c : Char) : Bool := Text.isDigit c || c = '.' || c = 'e' || c = 'E'

def EndsNumber (cs : List Char) : Prop := ∀ c, cs.head? = some c → numberGoesOn c = false

theorem endsNumber_nil : EndsNumber [] := fun _ first => by cases first

theorem endsNumber_cons {c : Char} (other : numberGoesOn c = false) (cs : List Char) :
    EndsNumber (c :: cs) := by
  intro d first
  cases first
  exact other

theorem EndsNumber.noDigitFirst {cs : List Char} (ends : EndsNumber cs) :
    Text.NoDigitFirst cs := by
  intro c first
  have other := ends c first
  simp only [numberGoesOn, Bool.or_eq_false_iff] at other
  exact other.1.1.1

theorem readWhole_digits (n : Nat) {cs : List Char} (ends : EndsNumber cs) :
    readWhole (Text.digits n ++ cs) = some (Text.digits n, cs) := by
  have digits : ∀ c ∈ Text.digits n, Text.isDigit c = true := fun _ => Text.isDigit_of_mem_digits
  have front : ¬ ((Text.digits n).head? = some '0' ∧ 1 < (Text.digits n).length) := by
    rintro ⟨zero, several⟩
    obtain ⟨rest, written⟩ := List.head?_eq_some_iff.mp zero
    rw [written, Text.tail_digits_of_zero written] at several
    simp at several
  simp only [readWhole, Text.takeWhile_digits digits ends.noDigitFirst,
    Text.dropWhile_digits digits ends.noDigitFirst]
  simp [Text.digits_ne_nil, front]

theorem readFraction_ends {cs : List Char} (ends : EndsNumber cs) :
    readFraction cs = some ([], cs) := by
  unfold readFraction
  split
  · cases ends '.' rfl
  · rfl

theorem readExponent_ends {cs : List Char} (ends : EndsNumber cs) :
    readExponent cs = some (none, cs) := by
  unfold readExponent
  split
  · cases ends 'e' rfl
  · cases ends 'E' rfl
  · rfl

theorem readUnsigned_digits (n : Nat) {cs : List Char} (ends : EndsNumber cs) :
    readUnsigned false (Text.digits n ++ cs) = some (.number (.ofNat n), cs) := by
  simp [readUnsigned, readWhole_digits n ends, readFraction_ends ends, readExponent_ends ends,
    Number.ofNat]

theorem readNumber_of_digit {c : Char} (digit : Text.isDigit c = true) (rest : List Char) :
    readNumber (c :: rest) = readUnsigned false (c :: rest) := by
  unfold readNumber
  split
  next minus => cases minus; cases digit
  · rfl

theorem readToken_of_digit {c : Char} (digit : Text.isDigit c = true) (rest : List Char) :
    readToken (c :: rest) = readNumber (c :: rest) := by
  unfold readToken
  split
  case h_1 nothing => cases nothing
  case h_12 same => cases same; rfl
  all_goals
    next same => cases same; cases digit

theorem spell_ofNat (n : Nat) : (Number.ofNat n).spell = Text.digits n := by
  simp [Number.spell, Number.ofNat]

theorem readToken_digits (n : Nat) {cs : List Char} (ends : EndsNumber cs) :
    readToken (Text.digits n ++ cs) = some (.number (.ofNat n), cs) := by
  have read := readUnsigned_digits n ends
  cases written : Text.digits n with
  | nil => exact absurd written (Text.digits_ne_nil n)
  | cons c rest =>
    have digit : Text.isDigit c = true := Text.isDigit_of_mem_digits (written ▸ List.mem_cons_self)
    rw [written] at read
    rw [List.cons_append] at read ⊢
    rw [readToken_of_digit digit, readNumber_of_digit digit, read]

/-- Tokens that their spelling determines: natural numbers, and strings that are not garbled. -/
def Token.Plain : Token → Prop
  | .number m => ∃ n, m = .ofNat n
  | .text s => s.isSome
  | _ => True

def Token.EndsBefore (cs : List Char) : Token → Prop
  | .number _ => EndsNumber cs
  | _ => True

theorem readToken_spell {t : Token} (plain : t.Plain) {cs : List Char} (ends : t.EndsBefore cs) :
    readToken (t.spell ++ cs) = some (t, cs) := by
  cases t with
  | bool b =>
    cases b with
    | true => rfl
    | false => rfl
  | number m =>
    obtain ⟨n, rfl⟩ := plain
    rw [Token.spell, spell_ofNat]
    exact readToken_digits n ends
  | text s =>
    obtain ⟨s, rfl⟩ := Option.isSome_iff_exists.mp plain
    simp [Token.spell, spellString, readToken, readText_spelt]
  | _ => rfl

theorem isSpace_of_isDigit {c : Char} (digit : Text.isDigit c = true) : isSpace c = false := by
  rw [Bool.eq_false_iff]
  intro space
  simp only [isSpace, Bool.or_eq_true, decide_eq_true_eq] at space
  rcases space with ((rfl | rfl) | rfl) | rfl <;> cases digit

theorem spell_cons {t : Token} (plain : t.Plain) :
    ∃ c rest, t.spell = c :: rest ∧ isSpace c = false := by
  cases t with
  | bool b =>
    cases b with
    | true => exact ⟨_, _, rfl, rfl⟩
    | false => exact ⟨_, _, rfl, rfl⟩
  | number m =>
    obtain ⟨n, rfl⟩ := plain
    rw [Token.spell, spell_ofNat]
    cases written : Text.digits n with
    | nil => exact absurd written (Text.digits_ne_nil n)
    | cons c rest =>
      exact ⟨c, rest, rfl,
        isSpace_of_isDigit (Text.isDigit_of_mem_digits (written ▸ List.mem_cons_self))⟩
  | _ => exact ⟨_, _, rfl, rfl⟩

/-- Tokens laid out in a text: spelt one after another, with blanks between them or without. -/
inductive Laid : List Token → List Char → Prop
  | nil : Laid [] []
  | space {c : Char} {ts : List Token} {cs : List Char} :
      isSpace c = true → Laid ts cs → Laid ts (c :: cs)
  | token {t : Token} {ts : List Token} {cs : List Char} :
      t.Plain → t.EndsBefore cs → Laid ts cs → Laid (t :: ts) (t.spell ++ cs)

theorem readTokens_of_laid {ts : List Token} {cs : List Char} (laid : Laid ts cs)
    (done : List Token) : readTokens done cs = some (done.reverse ++ ts) := by
  induction laid generalizing done with
  | nil => simp [readTokens]
  | space blank _ ih => rw [readTokens, if_pos blank, ih]
  | @token t ts cs plain ends _ ih =>
    have read := readToken_spell plain ends
    obtain ⟨c, rest, spelt, visible⟩ := spell_cons plain
    rw [spelt, List.cons_append] at read ⊢
    rw [readTokens, if_neg (by simp [visible])]
    split
    next found =>
      rw [read] at found
      cases found
      simp [ih]
    next missing =>
      rw [read] at missing
      cases missing

theorem tokens?_of_laid {ts : List Token} {cs : List Char} (laid : Laid ts cs) :
    tokens? cs = some ts := readTokens_of_laid laid []

theorem Laid.spaces {blanks : List Char} (blank : ∀ c ∈ blanks, isSpace c = true)
    {ts : List Token} {cs : List Char} (laid : Laid ts cs) : Laid ts (blanks ++ cs) := by
  induction blanks with
  | nil => exact laid
  | cons c blanks ih =>
    have later := ih fun d member => blank d (List.mem_cons_of_mem _ member)
    exact .space (blank c List.mem_cons_self) later

end CallCapture.Json

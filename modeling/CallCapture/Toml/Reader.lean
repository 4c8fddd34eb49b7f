import CallCapture.Toml.Number
import CallCapture.Toml.Text
import CallCapture.Toml.Value

/-! Every step of the reader takes at least one character, so as many steps as the text is long are
enough. -/

namespace CallCapture.Toml

def nestingLimit : Nat := 80

/-! ### Between values -/

def skipBlanks (cs : List Char) : List Char := cs.dropWhile isBlank

def skipComment : List Char → List Char
  | '#' :: rest => rest.dropWhile isPlain
  | cs => cs

theorem length_skipComment (cs : List Char) :
    (skipComment (skipBlanks cs)).length ≤ cs.length := by
  have blanks : (skipBlanks cs).length ≤ cs.length := (List.dropWhile_suffix isBlank).length_le
  unfold skipComment
  split
  next rest same =>
    have plain : (rest.dropWhile isPlain).length ≤ rest.length :=
      (List.dropWhile_suffix isPlain).length_le
    rw [same, List.length_cons] at blanks
    omega
  next => exact blanks

def skipGaps (cs : List Char) : List Char :=
  match h : readLineEnd (skipComment (skipBlanks cs)) with
  | some rest =>
    have := length_readLineEnd h
    have := length_skipComment cs
    skipGaps rest
  | none => skipComment (skipBlanks cs)
termination_by cs.length
decreasing_by omega

def readEndOfLine (cs : List Char) : Option (List Char) :=
  match skipComment (skipBlanks cs) with
  | [] => some []
  | rest => readLineEnd rest

/-! ### Keys -/

def isBareKeyChar (c : Char) : Bool :=
  Text.isDigit c || ('a' ≤ c && c ≤ 'z') || ('A' ≤ c && c ≤ 'Z') || c = '-' || c = '_'

def readKeyPart (cs : List Char) : Option (String × List Char) :=
  match readLineText cs with
  | some part => some part
  | none =>
    let bare := cs.takeWhile isBareKeyChar
    if bare.isEmpty then none else some (String.ofList bare, cs.dropWhile isBareKeyChar)

/-- The parts of a key, at most `limit` of them and the last first, and the text after the key. -/
def readKeyParts (done : List String) :
    (limit : Nat) → List Char → Option (List String × List Char)
  | 0, _ => none
  | limit + 1, cs =>
    match readKeyPart (skipBlanks cs) with
    | none => none
    | some (part, rest) =>
      match skipBlanks rest with
      | '.' :: rest => readKeyParts (part :: done) limit rest
      | rest => some (part :: done, rest)

def readKey (cs : List Char) : Option (Key × List Char) :=
  match readKeyParts [] (nestingLimit - 1) cs with
  | some (last :: above, rest) => some (⟨above.reverse, last⟩, rest)
  | _ => none

def readAssigned (cs : List Char) : Option (Key × List Char) :=
  match readKey cs with
  | some (key, '=' :: rest) => some (key, skipBlanks rest)
  | _ => none

/-! ### Values -/

def readScalar (cs : List Char) : Option (Toml × List Char) :=
  match cs with
  | 't' :: 'r' :: 'u' :: 'e' :: rest => some (.bool true, rest)
  | 'f' :: 'a' :: 'l' :: 's' :: 'e' :: rest => some (.bool false, rest)
  | '"' :: _ | '\x27' :: _ => (readText cs).map fun (s, rest) => (.text s, rest)
  | _ => if startsMoment cs then readMoment cs else readNumber cs

inductive Frame
  | array (items : List Toml)
  | table (pairs : List (Key × Toml)) (key : Key)

inductive Due
  | value
  | item
  | firstKey
  | key (pairs : List (Key × Toml))
  | closing (value : Toml)

structure Builder where
  due : Due := .value
  frames : List Frame := []

namespace Builder

def start (frames : List Frame) (cs : List Char) : Option (Builder × List Char) :=
  match cs with
  | '[' :: rest =>
    if frames.length + 1 < nestingLimit then some (⟨.item, .array [] :: frames⟩, rest) else none
  | '{' :: rest =>
    if frames.length + 1 < nestingLimit then some (⟨.firstKey, frames⟩, rest) else none
  | _ => (readScalar cs).map fun (v, rest) => (⟨.closing v, frames⟩, rest)

def startPair (pairs : List (Key × Toml)) (frames : List Frame) (cs : List Char) :
    Option (Builder × List Char) :=
  (readAssigned cs).map fun (key, rest) => (⟨.value, .table pairs key :: frames⟩, rest)

def next (v : Toml) : List Frame → List Char → Option (Builder × List Char)
  | .array items :: frames, cs =>
    match skipGaps cs with
    | ',' :: rest => some (⟨.item, .array (v :: items) :: frames⟩, rest)
    | ']' :: rest => some (⟨.closing (.array (v :: items).reverse), frames⟩, rest)
    | _ => none
  | .table pairs key :: frames, cs =>
    match skipBlanks cs with
    | ',' :: rest => some (⟨.key ((key, v) :: pairs), frames⟩, rest)
    | '}' :: rest =>
      (inlineTable? ((key, v) :: pairs).reverse).map fun t => (⟨.closing t, frames⟩, rest)
    | _ => none
  | [], _ => none

def step (b : Builder) (cs : List Char) : Option (Builder × List Char) :=
  match b.due, b.frames with
  | .value, frames => start frames cs
  | .item, .array items :: frames =>
    match skipGaps cs with
    | ']' :: rest => some (⟨.closing (.array items.reverse), frames⟩, rest)
    | cs => start (.array items :: frames) cs
  | .item, _ => none
  | .firstKey, frames =>
    match skipBlanks cs with
    | '}' :: rest => some (⟨.closing (.table .inline []), frames⟩, rest)
    | cs => startPair [] frames cs
  | .key pairs, frames => startPair pairs frames cs
  | .closing v, frames => next v frames cs

def run : (fuel : Nat) → Builder → List Char → Option (Toml × List Char)
  | _, ⟨.closing v, []⟩, cs => some (v, cs)
  | 0, _, _ => none
  | fuel + 1, b, cs =>
    match b.step cs with
    | some (b, rest) => run fuel b rest
    | none => none

end Builder

def readValue (fuel : Nat) (cs : List Char) : Option (Toml × List Char) := Builder.run fuel {} cs

/-! ### Documents -/

def readStatement (fuel : Nat) (cs : List Char) : Option (Statement × List Char) :=
  match cs with
  | '[' :: '[' :: rest =>
    match readKey rest with
    | some (key, ']' :: ']' :: rest) =>
      (readEndOfLine rest).map fun rest => (.header (.element key), rest)
    | _ => none
  | '[' :: rest =>
    match readKey rest with
    | some (key, ']' :: rest) =>
      (readEndOfLine rest).map fun rest => (.header (.table key), rest)
    | _ => none
  | _ => do
    let (key, rest) ← readAssigned cs
    let (value, rest) ← readValue fuel rest
    let rest ← readEndOfLine rest
    some (.assign key value, rest)

/-- The statements of a text, the last first, after those in `done`; the fuel is more than the
length of the text. -/
def readStatements (done : List Statement) : (fuel : Nat) → List Char → Option (List Statement)
  | 0, _ => none
  | fuel + 1, cs =>
    match skipGaps cs with
    | [] => some done
    | cs =>
      match readStatement fuel cs with
      | some (s, rest) => readStatements (s :: done) fuel rest
      | none => none

def skipByteOrderMark : List Char → List Char
  | '\ufeff' :: rest => rest
  | cs => cs

def read? (text : List Char) : Option Entries :=
  let cs := skipByteOrderMark text
  (readStatements [] (cs.length + 1) cs).bind fun statements => ofStatements? statements.reverse

end CallCapture.Toml

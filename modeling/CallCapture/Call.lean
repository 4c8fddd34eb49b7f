import CallCapture.Text.Basic

namespace CallCapture

def isOpening (c : Char) : Bool := c = '(' || c = '[' || c = '{'

def isClosing (c : Char) : Bool := c = ')' || c = ']' || c = '}'

def isBracket (c : Char) : Bool := isOpening c || isClosing c

def opening? : Char → Option Char
  | ')' => some '('
  | ']' => some '['
  | '}' => some '{'
  | _ => none

/-- Unanswered brackets, the innermost first. -/
structure BracketStack where
  items : List Char := []
deriving DecidableEq, Repr

namespace BracketStack

def empty : BracketStack := ⟨[]⟩

def push (s : BracketStack) (c : Char) : BracketStack := ⟨c :: s.items⟩

def top? (s : BracketStack) : Option Char := s.items.head?

def size (s : BracketStack) : Nat := s.items.length

def isEmpty (s : BracketStack) : Bool := s.items.isEmpty

def toList (s : BracketStack) : List Char := s.items.reverse

def feed (s : BracketStack) (c : Char) : Bool × BracketStack :=
  if isOpening c then (true, s.push c)
  else if isClosing c then
    (true, if s.top? = opening? c then ⟨s.items.tail⟩ else s.push c)
  else (false, s)

def after (s : BracketStack) (text : List Char) : BracketStack :=
  text.foldl (fun s c => (s.feed c).2) s

theorem feed_fst (s : BracketStack) (c : Char) : (s.feed c).1 = isBracket c := by
  unfold feed isBracket
  cases isOpening c <;> cases isClosing c <;> simp

@[simp] theorem after_nil (s : BracketStack) : s.after [] = s := rfl

@[simp] theorem after_cons (s : BracketStack) (c : Char) (text : List Char) :
    s.after (c :: text) = (s.feed c).2.after text := rfl

theorem after_append (s : BracketStack) (a b : List Char) :
    s.after (a ++ b) = (s.after a).after b := by
  simp [after, List.foldl_append]

end BracketStack

/-- Balanced words: every opening bracket is answered by a closing one of its kind, and what
stands between the two is balanced. -/
inductive Balanced : List Char → Prop
  | nil : Balanced []
  | plain {c : Char} {w : List Char} (h : isBracket c = false) : Balanced w → Balanced (c :: w)
  | pair {o c : Char} {v w : List Char} (h : opening? c = some o) :
      Balanced v → Balanced w → Balanced (o :: (v ++ c :: w))

/-- One cancellation: two adjacent brackets that answer each other are deleted. -/
inductive Cancels : List Char → List Char → Prop
  | pair {o c : Char} (u v : List Char) (h : opening? c = some o) :
      Cancels (u ++ o :: c :: v) (u ++ v)

/-! ### Names -/

def isNameStart (c : Char) : Bool := 'A' ≤ c && c ≤ 'Z'

def isNamePart (c : Char) : Bool :=
  isNameStart c || ('a' ≤ c && c ≤ 'z') || ('0' ≤ c && c ≤ '9') || c = '_'

/-- What a reader of names is in the middle of; a name is held with its last character first. -/
inductive NameReader
  | outside
  | inName (name : List Char)
  | afterName (name : List Char)
deriving DecidableEq, Repr

def NameReader.scan : NameReader → List Char → Option (List Char)
  | _, [] => none
  | .outside, c :: rest => if isNameStart c then scan (.inName [c]) rest else scan .outside rest
  | .inName name, c :: rest =>
    if isNamePart c then scan (.inName (c :: name)) rest
    else if c = '(' then some name.reverse
    else if Text.isBlank c then scan (.afterName name) rest
    else scan .outside rest
  | .afterName name, c :: rest =>
    if c = '(' then some name.reverse
    else if Text.isBlank c then scan (.afterName name) rest
    else if isNameStart c then scan (.inName [c]) rest
    else scan .outside rest

def callName? (text : List Char) : Option (List Char) := NameReader.scan .outside text

def defaultCallName : String := "Widget"

def callName (text : String) : String :=
  match callName? text.toList with
  | some name => String.ofList name
  | none => defaultCallName

structure NameSplit (text before name blanks after : List Char) : Prop where
  whole : text = before ++ name ++ blanks ++ '(' :: after
  starts : ∃ c rest, name = c :: rest ∧ isNameStart c = true
  parts : ∀ c ∈ name, isNamePart c = true
  blanks : Text.AllBlank blanks

end CallCapture

import CallCapture.Journal.Basic
import CallCapture.Journal.Pattern.Reader
import CallCapture.Text.Basic

namespace CallCapture

structure FieldTest where
  name : String
  hasValue : Bool
deriving DecidableEq, Repr

namespace FieldTest

def isFraction (cs : List Char) : Bool :=
  let whole := cs.takeWhile Text.isDigit
  match cs.dropWhile Text.isDigit with
  | [] => !whole.isEmpty
  | c :: rest => c = '.' && rest.all Text.isDigit && !(whole.isEmpty && rest.isEmpty)

def unsigned : List Char → List Char
  | '+' :: rest | '-' :: rest => rest
  | cs => cs

def isExponent (cs : List Char) : Bool :=
  let ds := unsigned cs
  !ds.isEmpty && ds.all Text.isDigit

def isNumber (cs : List Char) : Bool :=
  let body := (unsigned cs).map Char.toLower
  let mantissa := body.takeWhile (· != 'e')
  match body.dropWhile (· != 'e') with
  | [] => isFraction mantissa || ["inf", "infinity", "nan"].contains (String.ofList body)
  | _ :: exponent => isFraction mantissa && isExponent exponent

/-- A name, perhaps with an equals sign and a number or a pattern behind it; from a second equals
sign on, the text does not count. -/
def read? (cs : List Char) : Option FieldTest :=
  if cs.isEmpty then none
  else
    match cs.splitOn '=' with
    | name :: value :: _ =>
      if isNumber value || Pattern.isValid value then some ⟨String.ofList name, true⟩ else none
    | _ => some ⟨String.ofList cs, false⟩

end FieldTest

structure Directive where
  target : Option String := none
  span : Option String := none
  field : Option FieldTest := none
  /-- The rank of the last level that shows. -/
  shows : Nat
deriving DecidableEq, Repr

namespace Directive

def everything : Nat := 5

def levelNames : List String := ["off", "error", "warn", "info", "debug", "trace"]

def level? (cs : List Char) : Option Nat :=
  match Text.word? cs with
  | some n => if n.toNat ≤ everything then some n.toNat else none
  | none => levelNames.idxOf? (String.ofList cs).toLower

def isStart (c : Char) : Bool := ['[', '-', ':', '_'].contains c || Text.isAlphanumeric c

/-- Why a text gives no directive: it has none of the forms, or one of its parts would start or end
within a character. -/
inductive Fault
  | malformed
  | cutCharacter
deriving DecidableEq, Repr

def required {α : Type} : Option α → Except Fault α
  | some a => .ok a
  | none => .error .malformed

/-- The text of a directive, from which parts are taken at the places where they lie in the same
text without blanks around it. A part is given by what follows its ends there. -/
structure Source where
  text : List Char

namespace Source

def trimmed (s : Source) : List Char := Text.trim s.text

def place (s : Source) (rest : List Char) : Nat := Text.byteSize s.trimmed - Text.byteSize rest

def part (s : Source) (rest next : List Char) : Except Fault (List Char) :=
  match Text.cut? (s.place rest) (s.place next) s.text with
  | some part => .ok part
  | none => .error .cutCharacter

def partToEnd (s : Source) (rest : List Char) : Except Fault (List Char) :=
  match Text.dropBytes? (s.place rest) s.text with
  | some part => .ok part
  | none => .error .cutCharacter

end Source

def readLevel (s : Source) : List Char → Except Fault Nat
  | [] => .ok everything
  | '=' :: rest => do
    let level ← s.partToEnd rest
    if level.isEmpty then .ok everything else required (level? level)
  | _ => .error .malformed

def readField (s : Source) (cs : List Char) : Except Fault (FieldTest × List Char) :=
  let next := cs.dropWhile (· != '}')
  match next with
  | [] => .error .malformed
  | _ :: rest => do
    let field ← required (FieldTest.read? (← s.part cs next))
    match rest with
    | ']' :: rest => .ok (field, rest)
    | _ => .error .malformed

/-- What stands between brackets, the first of which has been read, and the level. An empty name of
a span counts as one, unless a field follows. -/
def readBrackets (s : Source) (target : Option String) (cs : List Char) : Except Fault Directive :=
  let next := cs.dropWhile fun c => c != ']' && c != '{'
  match next with
  | [] => .error .malformed
  | sign :: rest => do
    let span ← s.part cs next
    if sign = ']' then
      let shows ← readLevel s rest
      .ok { target, span := String.ofList span, shows }
    else
      let (field, rest) ← readField s rest
      let shows ← readLevel s rest
      .ok { target, span := if span.isEmpty then none else String.ofList span, field, shows }

def ofWord (cs : List Char) : Directive :=
  match level? cs with
  | some shows => { shows }
  | none => { target := String.ofList cs, shows := everything }

def read (text : List Char) : Except Fault Directive :=
  let s : Source := ⟨text⟩
  if !s.trimmed.head?.any isStart then .error .malformed
  else
    let next := s.trimmed.dropWhile fun c => c != '=' && c != '['
    match next with
    | [] => .ok (ofWord text)
    | '[' :: rest => do
      let target ← s.part s.trimmed next
      readBrackets s (if target.isEmpty then none else some (String.ofList target)) rest
    | rest => do
      let target ← s.part s.trimmed next
      let shows ← readLevel s rest
      .ok { target := String.ofList target, shows }

/-- Whether a directive tells about an event. Nothing happens within a span here, and values are
those of spans, so a directive that asks for either never does. -/
def applies (d : Directive) (e : Event) : Bool :=
  d.span.isNone
    && (d.target.all fun target => target.toList.isPrefixOf e.source.target.toList)
    && d.field.all fun field => !field.hasValue && e.fieldNames.contains field.name

def weight (d : Directive) : Nat :=
  match d.target with
  | some target => target.utf8ByteSize + 1
  | none => 0

/-- Whether a directive gives way to a later one: the target counts first, then whether a field is
asked for, and then its name. -/
def yieldsTo (d later : Directive) : Bool :=
  if d.weight = later.weight then
    match d.field, later.field with
    | some a, some b => a.name ≤ b.name
    | some _, none => false
    | none, _ => true
  else d.weight < later.weight

end Directive

abbrev Filter := List Directive

namespace Filter

def decisive? (f : Filter) (e : Event) : Option Directive :=
  (f.filter (·.applies e)).foldl
    (fun best d =>
      match best with
      | some b => if b.yieldsTo d then some d else some b
      | none => some d)
    none

def passes (f : Filter) (e : Event) : Bool :=
  match f.decisive? e with
  | some d => e.level.rank ≤ d.shows
  | none => false

def keeps (f : Filter) : Entry → Bool
  | .event e => f.passes e
  | .echo _ => true

def standard : Filter := [{ shows := 2 }]

/-- A filter from its text: directives with commas between them, where nothing may stand between
two commas. Without directives nothing is let through. -/
def read (text : String) : Except Directive.Fault Filter :=
  ((text.toList.splitOn ',').filter (!·.isEmpty)).mapM Directive.read

/-- The filter of a setting: the standard one when nothing is set or when a directive is malformed,
and none at all when a directive would cut a character. -/
def ofSetting? : Option String → Option Filter
  | none => some standard
  | some text =>
    match read text with
    | .ok f => some f
    | .error .malformed => some standard
    | .error .cutCharacter => none

end Filter

end CallCapture

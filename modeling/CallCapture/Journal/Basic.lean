import CallCapture.Text.Basic
import CallCapture.Timestamp

namespace CallCapture

inductive Level
  | error
  | warn
  | info
  | debug
deriving DecidableEq, Repr

def Level.name : Level → String
  | .error => "ERROR"
  | .warn => "WARN"
  | .info => "INFO"
  | .debug => "DEBUG"

def Level.rank : Level → Nat
  | .error => 1
  | .warn => 2
  | .info => 3
  | .debug => 4

inductive Component
  | expansion
  | capture
  | messages
  | clipboard
deriving DecidableEq, Repr

def Component.target : Component → String
  | .expansion => "widget_catcher::app::expander"
  | .capture => "widget_catcher::app::catch"
  | .messages => "widget_catcher::app::messaging"
  | .clipboard => "widget_catcher::infra::clipboard"

inductive FieldValue
  | number (n : Nat)
  | shown (text : String)
  | quoted (text : String)
deriving DecidableEq, Repr

structure Event where
  level : Level
  source : Component
  message : String
  fields : List (String × FieldValue) := []
deriving DecidableEq, Repr

def Event.fieldNames (e : Event) : List String := "message" :: e.fields.map (·.1)

inductive Entry
  | event (e : Event)
  | echo (line : String)
deriving DecidableEq, Repr

structure Logged (α : Type) where
  value : α
  entries : List Entry := []

namespace Logged

instance : Monad Logged where
  pure a := ⟨a, []⟩
  bind x f := ⟨(f x.value).value, x.entries ++ (f x.value).entries⟩

@[simp] theorem pure_value {α : Type} (a : α) : (pure a : Logged α).value = a := rfl

@[simp] theorem pure_entries {α : Type} (a : α) : (pure a : Logged α).entries = [] := rfl

@[simp] theorem bind_value {α β : Type} (x : Logged α) (f : α → Logged β) :
    (x >>= f).value = (f x.value).value := rfl

@[simp] theorem bind_entries {α β : Type} (x : Logged α) (f : α → Logged β) :
    (x >>= f).entries = x.entries ++ (f x.value).entries := rfl

@[ext] theorem ext {α : Type} {x y : Logged α} (value : x.value = y.value)
    (entries : x.entries = y.entries) : x = y := by
  cases x
  cases y
  cases value
  cases entries
  rfl

instance : LawfulMonad Logged := LawfulMonad.mk' Logged
  (fun _ => Logged.ext rfl (List.append_nil _))
  (fun _ _ => Logged.ext rfl (List.nil_append _))
  (fun _ _ _ => Logged.ext rfl (List.append_assoc _ _ _))

end Logged

def log (e : Event) : Logged Unit := ⟨(), [.event e]⟩

def echo (line : String) : Logged Unit := ⟨(), [.echo line]⟩

def steersTerminal (c : Char) : Bool :=
  c = '\x1b' || c = '\x07' || c = '\x08' || c = '\x0c' || c = '\x7f'
    || (0x80 ≤ c.toNat && c.toNat ≤ 0x9f)

def escapeControl (c : Char) : List Char :=
  if !steersTerminal c then [c]
  else
    let digits := [Text.hexDigit (c.toNat / 16), Text.hexDigit (c.toNat % 16)]
    if c.toNat < 0x80 then '\\' :: 'x' :: digits else '\\' :: 'u' :: '\x7b' :: (digits ++ ['\x7d'])

def escapeControls (text : String) : String :=
  String.ofList (text.toList.flatMap escapeControl)

def fieldText : String × FieldValue → String
  | ("message", .shown s) | ("message", .quoted s) => escapeControls s
  | (name, .number n) => s!"{name}={n}"
  | (name, .shown s) => s!"{name}={s}"
  | (name, .quoted s) => s!"{name}=\"{s}\""

def Event.text (e : Event) : String :=
  String.intercalate " " (e.message :: e.fields.map fieldText)

def Entry.line : Entry → String
  | .event e => e.level.name ++ " " ++ e.text
  | .echo line => line

def Entry.timedLine (now : Timestamp) : Entry → String
  | .event e =>
    let gap := String.ofList (List.replicate (6 - e.level.name.length) ' ')
    String.ofList now.write ++ gap ++ (Entry.event e).line
  | .echo line => line

end CallCapture

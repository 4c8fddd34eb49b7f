import CallCapture.Text.Basic

namespace CallCapture

namespace Json

structure Number where
  negative : Bool := false
  whole : List Char
  fraction : List Char := []
  exponent : Option (Bool × List Char) := none
deriving DecidableEq, Repr

def Number.ofNat (n : Nat) : Number := { whole := Text.digits n }

/-- A string; `none` when an escape in it names half of a surrogate pair. -/
abbrev Words := Option String

end Json

inductive Json
  | null
  | bool (b : Bool)
  | number (n : Json.Number)
  | text (s : Json.Words)
  | array (items : List Json)
  | object (members : List (Json.Words × Json))
deriving Repr

namespace Json

def ofString (s : String) : Json := .text (some s)

def ofNat (n : Nat) : Json := .number (Number.ofNat n)

def member? {α : Type} (name : String) (encode : α → Json) (a : Option α) : List (Words × Json) :=
  (a.map fun a => (some name, encode a)).toList

def member (name : String) (value : Json) : Words × Json := (some name, value)

def orNull {α : Type} (encode : α → Json) : Option α → Json
  | some a => encode a
  | none => .null

end Json

end CallCapture

namespace CallCapture.Json

/-! ### Records -/

structure Field where
  name : String
  mayBeLeftOut : Bool := false
deriving DecidableEq, Repr

structure Record where
  given : List (String × Json)

namespace Record

def get? (r : Record) (name : String) : Option Json := r.given.lookup name

def required {α : Type} (r : Record) (name : String) (decode : Json → Option α) : Option α :=
  (r.get? name).bind decode

def optional {α : Type} (r : Record) (name : String) (decode : Json → Option α) :
    Option (Option α) :=
  match r.get? name with
  | none | some .null => some none
  | some j => (decode j).map some

def orDefault {α : Type} (r : Record) (name : String) (decode : Json → Option α) (default : α) :
    Option α :=
  match r.get? name with
  | none => some default
  | some j => decode j

/-- Adds a member: known names are kept, once, and unknown ones dropped. -/
def add (fields : List Field) (r : Record) (m : Words × Json) : Option Record :=
  m.1.bind fun name =>
    if fields.all (·.name != name) then some r
    else if (r.get? name).isSome then none
    else some ⟨r.given ++ [(name, m.2)]⟩

end Record

def record? (fields : List Field) : Json → Option Record
  | .object members => members.foldlM (Record.add fields) ⟨[]⟩
  | .array items =>
    if fields.length < items.length then none
    else if (fields.drop items.length).all (·.mayBeLeftOut) then
      some ⟨(fields.map (·.name)).zip items⟩
    else none
  | _ => none

/-! ### Scalars -/

def bool? : Json → Option Bool
  | .bool b => some b
  | _ => none

def string? : Json → Option String
  | .text s => s
  | _ => none

def word? : Json → Option UInt64
  | .number ⟨false, whole, [], none⟩ =>
    if Text.decimal whole < UInt64.size then some (UInt64.ofNat (Text.decimal whole)) else none
  | _ => none

/-- One of a set of names, given as a string or as an object with the name as its only key and
null as its value. -/
def choice? {α : Type} (names : List (String × α)) : Json → Option α
  | .text (some s) => names.lookup s
  | .object [(some s, .null)] => names.lookup s
  | _ => none

end CallCapture.Json

namespace CallCapture.Double

def limit : Nat := Nat.pow 2 1024 - Nat.pow 2 970

/-- The double nearest to a natural number, a tie going to the even neighbour. -/
def nearest (n : Nat) : Nat :=
  if n < 9007199254740992 then n
  else
    let step := Nat.pow 2 (n.log2 - 52)
    let low := n / step
    let excess := 2 * (n % step)
    if step < excess || (excess = step && low % 2 = 1) then (low + 1) * step else low * step

def productOverflows (a b : Nat) : Bool := limit ≤ a * b

end CallCapture.Double

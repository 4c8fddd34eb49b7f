import CallCapture.Json.Token
import CallCapture.Json.Value

namespace CallCapture.Json

/-- A container that is still open, with what it holds so far, the last first. -/
inductive Frame
  | array (items : List Json)
  | object (members : List (Words × Json))
  | member (members : List (Words × Json)) (key : Words)

inductive Due
  | value
  | firstItem
  | firstKey
  | key
  | colon (key : Words)
  | nothing (whole : Json)

structure Builder where
  due : Due := .value
  frames : List Frame := []

namespace Builder

def start (frames : List Frame) : Token → Option Builder
  | .openBrace => some ⟨.firstKey, .object [] :: frames⟩
  | .openBracket => some ⟨.firstItem, .array [] :: frames⟩
  | .null => some ⟨.nothing .null, frames⟩
  | .bool b => some ⟨.nothing (.bool b), frames⟩
  | .number n => some ⟨.nothing (.number n), frames⟩
  | .text s => some ⟨.nothing (.text s), frames⟩
  | .closeBrace | .closeBracket | .colon | .comma => none

def next (j : Json) : List Frame → Token → Option Builder
  | .array items :: frames, .comma => some ⟨.value, .array (j :: items) :: frames⟩
  | .array items :: frames, .closeBracket =>
    some ⟨.nothing (.array (j :: items).reverse), frames⟩
  | .member members key :: frames, .comma =>
    some ⟨.key, .object ((key, j) :: members) :: frames⟩
  | .member members key :: frames, .closeBrace =>
    some ⟨.nothing (.object ((key, j) :: members).reverse), frames⟩
  | _, _ => none

def step (b : Builder) (t : Token) : Option Builder :=
  match b.due, b.frames, t with
  | .value, frames, t => start frames t
  | .firstItem, .array _ :: frames, .closeBracket => some ⟨.nothing (.array []), frames⟩
  | .firstItem, frames, t => start frames t
  | .firstKey, .object _ :: frames, .closeBrace => some ⟨.nothing (.object []), frames⟩
  | .firstKey, frames, .text s => some ⟨.colon s, frames⟩
  | .key, frames, .text s => some ⟨.colon s, frames⟩
  | .colon key, .object members :: frames, .colon => some ⟨.value, .member members key :: frames⟩
  | .nothing j, frames, t => next j frames t
  | _, _, _ => none

end Builder

def ofTokens? (ts : List Token) : Option Json :=
  match ts.foldlM Builder.step {} with
  | some ⟨.nothing j, []⟩ => some j
  | _ => none

def read? (cs : List Char) : Option Json := (tokens? cs).bind ofTokens?

/-! ### Texts whose every value is read -/

def gather (n : Nat) : List Char → Nat × List Char
  | [] => (n, [])
  | d :: ds =>
    if 10 * n + Text.digitValue d < UInt64.size then gather (10 * n + Text.digitValue d) ds
    else (n, d :: ds)

/-- A number is taken as the double of its leading digits times the double of its power of ten;
it is out of range when that is infinite, or when the power alone is and the digits are not zero. -/
def Number.isFinite (n : Number) : Bool :=
  let (high, wholeLeft) := gather 0 n.whole
  let (significand, fractionLeft) := gather high n.fraction
  let shift : Int := wholeLeft.length - (n.fraction.length - fractionLeft.length)
  let power : Int := match n.exponent with
    | some (true, ds) => shift - Text.decimal ds
    | some (false, ds) => shift + Text.decimal ds
    | none => shift
  significand = 0 || power < 0
    || (power ≤ 308
      && !Double.productOverflows (Double.nearest significand)
        (Double.nearest (Nat.pow 10 power.toNat)))

def Token.hasValue : Token → Bool
  | .number n => n.isFinite
  | .text s => s.isSome
  | _ => true

def nesting (depth deepest : Nat) : List Token → Nat
  | [] => deepest
  | .openBrace :: ts | .openBracket :: ts => nesting (depth + 1) (max deepest (depth + 1)) ts
  | .closeBrace :: ts | .closeBracket :: ts => nesting (depth - 1) deepest ts
  | _ :: ts => nesting depth deepest ts

def maxNesting : Nat := 127

def readWholly? (cs : List Char) : Option Json :=
  (tokens? cs).bind fun ts =>
    if ts.all Token.hasValue && nesting 0 0 ts ≤ maxNesting then ofTokens? ts else none

/-! ### Printing -/

mutual

def tokens : Json → List Token
  | .null => [.null]
  | .bool b => [.bool b]
  | .number n => [.number n]
  | .text s => [.text s]
  | .array items => .openBracket :: (itemTokens items ++ [.closeBracket])
  | .object members => .openBrace :: (memberTokens members ++ [.closeBrace])

def itemTokens : List Json → List Token
  | [] => []
  | [j] => j.tokens
  | j :: k :: rest => j.tokens ++ .comma :: itemTokens (k :: rest)

def memberTokens : List (Words × Json) → List Token
  | [] => []
  | [(key, j)] => .text key :: .colon :: j.tokens
  | (key, j) :: m :: rest =>
    .text key :: .colon :: (j.tokens ++ .comma :: memberTokens (m :: rest))

end

def compactChars (j : Json) : List Char := j.tokens.flatMap Token.spell

def compact (j : Json) : String := String.ofList j.compactChars

def newline (level : Nat) : List Char := '\n' :: List.replicate (2 * level) ' '

mutual

def indentedAt (level : Nat) : Json → List Char
  | .array [] => ['[', ']']
  | .object [] => ['\x7b', '\x7d']
  | .array (j :: items) =>
    '[' :: (newline (level + 1) ++ indentedItems (level + 1) (j :: items) ++ newline level ++ [']'])
  | .object (m :: members) =>
    '\x7b' ::
      (newline (level + 1) ++ indentedMembers (level + 1) (m :: members) ++ newline level
        ++ ['\x7d'])
  | j => j.compactChars

def indentedItems (level : Nat) : List Json → List Char
  | [] => []
  | [j] => indentedAt level j
  | j :: k :: rest =>
    indentedAt level j ++ ',' :: (newline level ++ indentedItems level (k :: rest))

def indentedMembers (level : Nat) : List (Words × Json) → List Char
  | [] => []
  | [(key, j)] => spellString (key.getD "") ++ ':' :: ' ' :: indentedAt level j
  | (key, j) :: m :: rest =>
    spellString (key.getD "")
      ++ ':' :: ' ' ::
        (indentedAt level j ++ ',' :: (newline level ++ indentedMembers level (m :: rest)))

end

def indented (j : Json) : String := String.ofList (indentedAt 0 j)

end CallCapture.Json

import CallCapture.Text.Basic

namespace CallCapture.Pattern

open Text

/-- How the rest of a group is read: whether blanks and comments are left out, and whether only
characters of ASCII may match. -/
structure Mode where
  spaced : Bool := false
  ascii : Bool := false
deriving DecidableEq, Repr

def skipSpace (comment : Bool) : List Char → List Char
  | [] => []
  | c :: rest =>
    if comment then skipSpace (c != '\n') rest
    else if c = '#' then skipSpace true rest
    else if isBlank c then skipSpace false rest
    else c :: rest

def Mode.skip (m : Mode) (cs : List Char) : List Char := if m.spaced then skipSpace false cs else cs

/-- The character that decides whether a hyphen ends a class or stands between two ends. Blanks
are passed here and the sign of one comment, but not the text of that comment. -/
def Mode.behindHyphen (m : Mode) (cs : List Char) : Option Char :=
  if m.spaced then
    match cs.dropWhile isBlank with
    | '#' :: rest => (rest.dropWhile isBlank).head?
    | rest => rest.head?
  else cs.head?

inductive Atom
  | literal (c : Char)
  | anyOf
  | place
deriving DecidableEq, Repr

def joined : List Nat → Nat
  | [] => 0
  | [d] => d
  | ds => ds.foldl max 0 + 1

def depthLimit : Nat := 250

/-! ### Escapes -/

def controls : List (Char × Char) :=
  [('a', '\x07'), ('f', '\x0c'), ('n', '\n'), ('r', '\r'), ('t', '\t'), ('v', '\x0b')]

def readHex (m : Mode) : (count : Nat) → List Char → Option (List Char × List Char)
  | 0, cs => some ([], cs)
  | count + 1, cs =>
    match m.skip cs with
    | c :: rest =>
      if isHexDigit c then (readHex m count rest).map fun (ds, rest) => (c :: ds, rest) else none
    | [] => none

def readCode (m : Mode) (count : Nat) (cs : List Char) : Option (Atom × List Char) :=
  match readHex m count cs with
  | some (ds, rest) =>
    if m.ascii && count = 2 && 0x80 ≤ hexadecimal ds then none
    else (char? (hexadecimal ds)).map fun c => (.literal c, rest)
  | none => none

def categories : List Char := ['C', 'L', 'M', 'N', 'P', 'S', 'Z']

def readCategory (m : Mode) (cs : List Char) : Option (Atom × List Char) :=
  match m.skip cs with
  | c :: rest => if m.ascii || !categories.contains c.toUpper then none else some (.anyOf, rest)
  | [] => none

/-- An escape whose backslash has been read. The ends of words are known in ASCII only. -/
def readEscape (m : Mode) : List Char → Option (Atom × List Char)
  | [] => none
  | c :: rest =>
    match c with
    | 'x' => readCode m 2 rest
    | 'u' => readCode m 4 rest
    | 'U' => readCode m 8 rest
    | 'p' | 'P' => readCategory m rest
    | 'd' | 's' | 'w' => some (.anyOf, rest)
    | 'D' | 'S' | 'W' => if m.ascii then none else some (.anyOf, rest)
    | 'A' | 'z' => some (.place, rest)
    | 'b' | 'B' | '<' | '>' => if m.ascii then some (.place, rest) else none
    | c =>
      match controls.lookup c with
      | some control => some (.literal control, rest)
      | none => if c.toNat < 0x80 && !c.isAlphanum then some (.literal c, rest) else none

/-! ### Classes -/

def Atom.fits (m : Mode) : Atom → Bool
  | .literal c => !m.ascii || c.toNat < 0x80
  | .anyOf => true
  | .place => false

def readMember (m : Mode) : List Char → Option (Atom × List Char)
  | [] => none
  | '\\' :: rest => readEscape m rest
  | c :: rest => some (.literal c, rest)

/-- An atom, or a range from one character to another that is not before it. A hyphen before a
closing bracket or another hyphen makes no range. -/
def readRange (m : Mode) (cs : List Char) : Option (List Char) :=
  match readMember m cs with
  | none => none
  | some (low, rest) =>
    if !low.fits m then none
    else
      match m.skip rest with
      | '-' :: next =>
        if [']', '-'].any fun c => m.behindHyphen next = some c then some ('-' :: next)
        else
          match low, readMember m (m.skip next) with
          | .literal a, some (.literal b, rest) =>
            if a ≤ b && (Atom.literal b).fits m then some rest else none
          | _, _ => none
      | rest => some rest

def classNames : List String :=
  ["alnum", "alpha", "ascii", "blank", "cntrl", "digit", "graph", "lower", "print", "punct",
    "space", "upper", "word", "xdigit"]

def readClassName (cs : List Char) : Option (List Char) :=
  let name := cs.takeWhile (· != ':')
  match cs.dropWhile (· != ':') with
  | ':' :: ']' :: rest => if classNames.contains (String.ofList name) then some rest else none
  | _ => none

def readNamedClass : List Char → Option (Bool × List Char)
  | ':' :: '^' :: rest => (readClassName rest).map fun rest => (true, rest)
  | ':' :: rest => (readClassName rest).map fun rest => (false, rest)
  | _ => none

/-- How far the start of a class has been read: at first it may be turned to its opposite, and
then, before other members, hyphens and one closing bracket stand for themselves. -/
inductive ClassStage
  | opened
  | leading
  | members
deriving DecidableEq, Repr

structure OpenClass where
  stage : ClassStage := .opened
  /-- The depths of the members since the last operator, the last first. -/
  members : List Nat := []
  /-- The depth of what stands before the last operator. -/
  left : Option Nat := none
deriving DecidableEq, Repr

inductive ClassMove
  | goOn (c : OpenClass)
  | enter (c : OpenClass)
  | leave
deriving DecidableEq, Repr

namespace OpenClass

def add (c : OpenClass) (depth : Nat) : OpenClass := { c with members := depth :: c.members }

def innerDepth (c : OpenClass) : Nat :=
  match c.left with
  | some d => max d (joined c.members) + 1
  | none => joined c.members

def depth (c : OpenClass) : Nat := c.innerDepth + 1

def behindOperator (c : OpenClass) : OpenClass := { c with members := [], left := c.innerDepth }

def stepMembers (m : Mode) (c : OpenClass) (cs : List Char) : Option (ClassMove × List Char) :=
  match cs with
  | '[' :: rest =>
    match readNamedClass rest with
    | some (opposite, rest) => if opposite && m.ascii then none else some (.goOn (c.add 0), rest)
    | none => some (.enter c, rest)
  | ']' :: rest => some (.leave, rest)
  | '&' :: '&' :: rest | '-' :: '-' :: rest | '~' :: '~' :: rest =>
    some (.goOn c.behindOperator, rest)
  | cs => (readRange m cs).map fun rest => (.goOn (c.add 0), rest)

def stepLeading (m : Mode) (c : OpenClass) (cs : List Char) : Option (ClassMove × List Char) :=
  match cs with
  | '-' :: rest => some (.goOn { c.add 0 with stage := .leading }, rest)
  | cs =>
    let c := { c with stage := .members }
    match c.members, cs with
    | [], ']' :: rest => some (.goOn (c.add 0), rest)
    | _, cs => c.stepMembers m cs

def step (m : Mode) (c : OpenClass) (cs : List Char) : Option (ClassMove × List Char) :=
  match c.stage, cs with
  | .opened, '^' :: rest =>
    if m.ascii then none else some (.goOn { c with stage := .leading }, rest)
  | .members, cs => c.stepMembers m cs
  | _, cs => c.stepLeading m cs

end OpenClass

end CallCapture.Pattern

import CallCapture.Journal.Pattern.Class
import CallCapture.Text.Alphanumeric

/-! Only the form of a pattern matters here. A repetition with a count has no place in it, because
the brace that ends the count would end the condition that the pattern stands in. -/

namespace CallCapture.Pattern

open Text

def flags : List Char := ['i', 'm', 's', 'U', 'u', 'R', 'x', '-']

def areFlags (cs : List Char) : Bool :=
  cs.all flags.contains && cs.Nodup && cs.getLast? ≠ some '-'

def Mode.under (m : Mode) (cs : List Char) : Mode :=
  let given := cs.takeWhile (· != '-')
  { spaced := given.contains 'x' || (m.spaced && !cs.contains 'x')
    ascii := if cs.contains 'u' then !given.contains 'u' else m.ascii }

def isGroupNameChar (c : Char) : Bool := ['_', '.', '[', ']'].contains c || isAlphanumeric c

def isGroupName : List Char → Bool
  | [] => false
  | c :: rest => (c = '_' || isAlphabetic c) && rest.all isGroupNameChar

structure OpenGroup where
  mode : Mode := {}
  /-- The depths of the branches that ended. -/
  branches : List Nat := []
  /-- The depths of the parts of the branch that goes on, the last first. -/
  parts : List Nat := []
  /-- Whether a repetition may follow. -/
  repeatable : Bool := false
deriving DecidableEq, Repr

namespace OpenGroup

def add (g : OpenGroup) (depth : Nat) : OpenGroup :=
  { g with parts := depth :: g.parts, repeatable := true }

def addFlags (g : OpenGroup) (cs : List Char) : OpenGroup :=
  { g.add 0 with mode := g.mode.under cs, repeatable := false }

def endBranch (g : OpenGroup) : OpenGroup :=
  { g with branches := joined g.parts :: g.branches, parts := [], repeatable := false }

def repeatLast? (g : OpenGroup) : Option OpenGroup :=
  match g.parts with
  | d :: parts => if g.repeatable then some { g with parts := (d + 1) :: parts } else none
  | [] => none

def innerDepth (g : OpenGroup) : Nat := joined g.endBranch.branches

end OpenGroup

structure Reader where
  group : OpenGroup := {}
  /-- The groups around it, the innermost first. -/
  outer : List OpenGroup := []
  /-- The classes that are open, the innermost first. -/
  classes : List OpenClass := []
  names : List (List Char) := []
deriving DecidableEq, Repr

namespace Reader

def mode (r : Reader) : Mode := r.group.mode

def add (r : Reader) (depth : Nat) : Reader := { r with group := r.group.add depth }

def openGroup (r : Reader) (m : Mode) : Reader :=
  { r with group := { mode := m }, outer := r.group :: r.outer }

def closeGroup? (r : Reader) : Option Reader :=
  match r.outer with
  | g :: outer => some { r with group := g.add (r.group.innerDepth + 1), outer }
  | [] => none

def readNamed (r : Reader) (cs : List Char) : Option (Reader × List Char) :=
  let name := cs.takeWhile (· != '>')
  match cs.dropWhile (· != '>') with
  | _ :: rest =>
    if isGroupName name && !r.names.contains name then
      some ({ r.openGroup r.mode with names := name :: r.names }, rest)
    else none
  | [] => none

def readFlags (r : Reader) (cs : List Char) : Option (Reader × List Char) :=
  let given := cs.takeWhile fun c => c != ':' && c != ')'
  if !areFlags given then none
  else
    match cs.dropWhile fun c => c != ':' && c != ')' with
    | ':' :: rest => some (r.openGroup (r.mode.under given), rest)
    | ')' :: rest =>
      if given.isEmpty then none else some ({ r with group := r.group.addFlags given }, rest)
    | _ => none

def readGroup (r : Reader) (cs : List Char) : Option (Reader × List Char) :=
  match r.mode.skip cs with
  | '?' :: 'P' :: '<' :: rest | '?' :: '<' :: rest => r.readNamed rest
  | '?' :: rest => r.readFlags rest
  | rest => some (r.openGroup r.mode, rest)

/-- A repetition whose sign has been read. A question mark right behind it is part of it. -/
def readRepetition (r : Reader) (cs : List Char) : Option (Reader × List Char) :=
  r.group.repeatLast?.map fun group =>
    ({ r with group }, match cs with | '?' :: rest => rest | _ => cs)

def stepInside (r : Reader) (c : OpenClass) (outer : List OpenClass) (cs : List Char) :
    Option (Reader × List Char) :=
  match c.step r.mode cs with
  | none => none
  | some (.goOn c, rest) => some ({ r with classes := c :: outer }, rest)
  | some (.enter c, rest) => some ({ r with classes := {} :: c :: outer }, rest)
  | some (.leave, rest) =>
    match outer with
    | o :: outer => some ({ r with classes := o.add c.depth :: outer }, rest)
    | [] => some ({ r.add c.depth with classes := [] }, rest)

def stepOutside (r : Reader) (cs : List Char) : Option (Reader × List Char) :=
  match cs with
  | [] | '{' :: _ => none
  | '(' :: rest => r.readGroup rest
  | ')' :: rest => r.closeGroup?.map fun r => (r, rest)
  | '[' :: rest => some ({ r with classes := [{}] }, rest)
  | '|' :: rest => some ({ r with group := r.group.endBranch }, rest)
  | '*' :: rest | '+' :: rest | '?' :: rest => r.readRepetition rest
  | '\\' :: rest => (readEscape r.mode rest).map fun (_, rest) => (r.add 0, rest)
  | '.' :: rest => if r.mode.ascii then none else some (r.add 0, rest)
  | _ :: rest => some (r.add 0, rest)

def step (r : Reader) (cs : List Char) : Option (Reader × List Char) :=
  match r.classes with
  | c :: outer => r.stepInside c outer cs
  | [] => r.stepOutside cs

def isComplete (r : Reader) : Bool :=
  r.outer.isEmpty && r.classes.isEmpty && r.group.innerDepth ≤ depthLimit

def readAll : (steps : Nat) → Reader → List Char → Bool
  | 0, _, _ => false
  | steps + 1, r, cs =>
    match r.mode.skip cs with
    | [] => r.isComplete
    | cs =>
      match r.step cs with
      | some (r, rest) => readAll steps r rest
      | none => false

end Reader

def isValid (cs : List Char) : Bool := Reader.readAll (cs.length + 1) {} cs

end CallCapture.Pattern

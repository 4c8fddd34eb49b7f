/-! A location is the list of names from the root. Nothing can be made below a file, and a file is
replaced as a whole. -/

namespace CallCapture

structure Path where
  text : String
deriving DecidableEq, Repr

namespace Path

inductive Step
  | stay
  | up
  | into (name : String)
deriving DecidableEq, Repr

def parts (p : Path) : List (List Char) := p.text.toList.splitOn '/'

def isAbsolute (p : Path) : Bool := p.text.toList.head? = some '/'

def Step.ofPart (part : List Char) : Step :=
  if part = [] || part = ['.'] then .stay
  else if part = ['.', '.'] then .up
  else .into (String.ofList part)

def steps (p : Path) : List Step := p.parts.map Step.ofPart

/-- A part that counts when the parent is taken: one that moves, or a dot that begins a relative
path. -/
def isSignificant (p : Path) (i : Nat) (part : List Char) : Bool :=
  part ≠ [] && (part ≠ ['.'] || (i = 0 && !p.isAbsolute))

def significant (p : Path) : List Nat :=
  (p.parts.zipIdx.filter fun (part, i) => p.isSignificant i part).map (·.2)

def parent? (p : Path) : Option Path :=
  match p.significant.reverse with
  | [] => none
  | [_] => some ⟨if p.isAbsolute then "/" else ""⟩
  | _ :: i :: _ => some ⟨String.ofList (List.intercalate ['/'] (p.parts.take (i + 1)))⟩

def join (base : Path) (below : Path) : Path :=
  if below.isAbsolute || base.text.isEmpty then below
  else if base.text.toList.getLast? = some '/' then ⟨base.text ++ below.text⟩
  else ⟨base.text ++ "/" ++ below.text⟩

end Path

abbrev Location := List String

def Location.path (l : Location) : Path := ⟨"/" ++ String.intercalate "/" l⟩

inductive Node
  | folder
  | file (bytes : ByteArray)

instance : DecidableEq Node
  | .folder, .folder => .isTrue rfl
  | .folder, .file _ => .isFalse Node.noConfusion
  | .file _, .folder => .isFalse Node.noConfusion
  | .file a, .file b =>
    if same : a.data = b.data then .isTrue (congrArg Node.file (ByteArray.ext same))
    else .isFalse fun h => same (congrArg ByteArray.data (Node.file.inj h))

structure Disk where
  entries : List (Location × Node) := []
  here : Location := []
deriving DecidableEq

namespace Disk

def at? (d : Disk) (l : Location) : Option Node :=
  if l = [] then some .folder else d.entries.lookup l

def isFolder (d : Disk) (l : Location) : Bool := d.at? l = some .folder

def put (d : Disk) (l : Location) (n : Node) : Disk :=
  if (d.entries.lookup l).isSome then
    { d with entries := d.entries.map fun e => if e.1 = l then (l, n) else e }
  else { d with entries := d.entries ++ [(l, n)] }

def remove (d : Disk) (l : Location) : Disk :=
  { d with entries := d.entries.filter fun e => e.1 ≠ l }

def start (d : Disk) (p : Path) : Location := if p.isAbsolute then [] else d.here

def absolute (d : Disk) (p : Path) : Path := d.here.path.join p

def pathSize : Nat := 4096

/-- A path that is empty, too long or holds a zero character names nothing. -/
def canName (p : Path) : Bool :=
  !p.text.isEmpty && p.text.utf8ByteSize < pathSize && !p.text.toList.contains '\x00'

def follow (d : Disk) (l : Location) : List Path.Step → Option Location
  | [] => some l
  | step :: steps =>
    if d.isFolder l then
      match step with
      | .stay => d.follow l steps
      | .up => d.follow l.dropLast steps
      | .into name =>
        if (d.at? (l ++ [name])).isSome then d.follow (l ++ [name]) steps else none
    else none

def locate? (d : Disk) (p : Path) : Option Location :=
  if canName p then d.follow (d.start p) p.steps else none

def get? (d : Disk) (p : Path) : Option Node := (d.locate? p).bind d.at?

def pathExists (d : Disk) (p : Path) : Bool := (d.locate? p).isSome

def readText? (d : Disk) (p : Path) : Option String :=
  match d.get? p with
  | some (.file bytes) => String.fromUTF8? bytes
  | _ => none

def canCreate (name : String) : Bool := name.utf8ByteSize ≤ 255

/-- Follows steps, making the folders that are missing; a failure keeps what was made before. -/
def makeAlong (d : Disk) (l : Location) : List Path.Step → Option Location × Disk
  | [] => (some l, d)
  | step :: steps =>
    if d.isFolder l then
      match step with
      | .stay => d.makeAlong l steps
      | .up => d.makeAlong l.dropLast steps
      | .into name =>
        match d.at? (l ++ [name]) with
        | some _ => d.makeAlong (l ++ [name]) steps
        | none =>
          if canCreate name then (d.put (l ++ [name]) .folder).makeAlong (l ++ [name]) steps
          else (none, d)
    else (none, d)

def makeFolders (d : Disk) (p : Path) : Bool × Disk :=
  if canName p then
    match d.makeAlong (d.start p) p.steps with
    | (some l, made) => (made.isFolder l, made)
    | (none, made) => (false, made)
  else (false, d)

/-- Puts a finished file in place of whatever file stands at a path. The path has to end with a
name, in a folder that exists. -/
def replaceFile (d : Disk) (p : Path) (bytes : ByteArray) : Option Disk :=
  match p.steps.reverse with
  | .into name :: above =>
    match if canName p then d.follow (d.start p) above.reverse else none with
    | some l =>
      if d.isFolder l && canCreate name && !d.isFolder (l ++ [name]) then
        some (d.put (l ++ [name]) (.file bytes))
      else none
    | none => none
  | _ => none

def rename? (d : Disk) (place : Location) (p : Path) : Option Disk :=
  match d.at? place with
  | some (.file bytes) =>
    (d.replaceFile p bytes).map fun moved =>
      if moved.locate? p = some place then moved else moved.remove place
  | _ => none

def freeIn? (d : Disk) (l : Location) (names : Nat → String) : Option Location :=
  ((List.range (d.entries.length + 1)).map fun i => l ++ [names i]).find? fun place =>
    (d.at? place).isNone

end Disk

end CallCapture

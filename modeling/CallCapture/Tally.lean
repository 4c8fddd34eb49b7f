import CallCapture.Disk
import CallCapture.Json.Text
import CallCapture.Json.Value
import CallCapture.Timestamp

/-! The file of the tally is replaced as a whole, so that no reader sees half of it: the new one is
staged in the folder of the old one and renamed. -/

namespace CallCapture

structure Tally where
  count : UInt64 := 0
  lastAt : Option Timestamp := none
deriving DecidableEq, Repr

namespace Tally

def successor (n : UInt64) : UInt64 := if n.toNat + 1 < UInt64.size then n + 1 else n

def countOne (now : Timestamp) (t : Tally) : Tally := ⟨successor t.count, some now⟩

end Tally

/-! ### In JSON -/

namespace Timestamp

def toJson (t : Timestamp) : Json := Json.ofString (String.ofList t.write)

def ofJson? (j : Json) : Option Timestamp := (Json.string? j).bind fun s => read? s.toList

end Timestamp

namespace Tally

def toJson (t : Tally) : Json :=
  .object [Json.member "usageCount" (Json.ofNat t.count.toNat),
    Json.member "lastCaughtAt" (Json.orNull Timestamp.toJson t.lastAt)]

def ofJson? (j : Json) : Option Tally := do
  let r ← j.record? [⟨"usageCount", true⟩, ⟨"lastCaughtAt", true⟩]
  let count ← r.orDefault "usageCount" Json.word? 0
  let lastAt ← r.optional "lastCaughtAt" Timestamp.ofJson?
  some ⟨count, lastAt⟩

def read? (text : List Char) : Option Tally := (Json.read? text).bind ofJson?

end Tally

/-! ### On a disk -/

inductive TallyError
  | unreadable (path : Path)
  | invalid (path : Path)
  | noFolder (folder : Path)
  | notStaged (folder : Path)
  | notWritten
  | unwritable (path : Path)
deriving DecidableEq, Repr

def TallyError.message : TallyError → String
  | .unreadable p => s!"failed to read usage file at {p.text}"
  | .invalid p => s!"invalid usage data in {p.text}"
  | .noFolder p => s!"failed to create usage directory {p.text}"
  | .notStaged p => s!"failed to stage usage file in {p.text}"
  | .notWritten => "failed to write staged usage data"
  | .unwritable p => s!"failed to write usage file to {p.text}"

/-- A failed update. When the staged file could not be renamed, the failure still holds it. -/
structure TallyFailure where
  error : TallyError
  staged : Option Location := none
deriving DecidableEq, Repr

structure TallyStore where
  path : Path
deriving DecidableEq, Repr

namespace TallyStore

def stagedName (n : Nat) : String := ".tmp" ++ Nat.repr (100000 + n)

/-- What the system decides beyond what the disk shows. It may refuse any operation, for lack of
rights or of room: folders after so many steps of the way, writing after so many bytes. -/
structure Conditions where
  lookupRefused : Bool := false
  readingRefused : Bool := false
  foldersRefusedAfter : Option Nat := none
  stagingRefused : Bool := false
  writingRefusedAfter : Option Nat := none
  renamingRefused : Bool := false
  removalRefused : Bool := false
  names : Nat → String := stagedName

def Conditions.discard (c : Conditions) (d : Disk) (place : Location) : Disk :=
  if c.removalRefused then d else d.remove place

/-- A look-up that is refused finds nothing, as if there were no file. -/
def load (s : TallyStore) (d : Disk) (c : Conditions := {}) : Except TallyError Tally :=
  if !c.lookupRefused && d.pathExists s.path then
    match if c.readingRefused then none else d.readText? s.path with
    | none => .error (.unreadable s.path)
    | some text =>
      match Tally.read? text.toList with
      | some t => .ok t
      | none => .error (.invalid s.path)
  else .ok {}

def folder (s : TallyStore) : Path :=
  match s.path.parent? with
  | some p => if p.text.isEmpty then ⟨"."⟩ else p
  | none => ⟨"."⟩

def makeFolders (s : TallyStore) (d : Disk) (c : Conditions := {}) : Bool × Disk :=
  match c.foldersRefusedAfter with
  | some n =>
    (false, if Disk.canName s.folder then
      (d.makeAlong (d.start s.folder) (s.folder.steps.take n)).2 else d)
  | none => d.makeFolders s.folder

/-- Whether a file can be staged in the folder: its path from the root has to be short enough. All
names count as long as the first. -/
def canStage (s : TallyStore) (d : Disk) (c : Conditions := {}) : Bool :=
  !c.stagingRefused && Disk.canName ((d.absolute s.folder).join ⟨c.names 0⟩)

def stagedAt? (s : TallyStore) (d : Disk) (c : Conditions := {}) : Option Location :=
  if s.canStage d c then (d.locate? s.folder).bind fun l => d.freeIn? l c.names else none

/-- A staged file that cannot be written is taken away again; one that cannot be renamed stays for
as long as the failure is held. -/
def save (s : TallyStore) (d : Disk) (t : Tally) (c : Conditions := {}) :
    Except TallyFailure Unit × Disk :=
  match s.makeFolders d c with
  | (false, made) => (.error ⟨.noFolder s.folder, none⟩, made)
  | (true, made) =>
    match s.stagedAt? made c with
    | none => (.error ⟨.notStaged s.folder, none⟩, made)
    | some place =>
      let bytes := t.toJson.indented.toUTF8
      match c.writingRefusedAfter with
      | some n =>
        (.error ⟨.notWritten, none⟩,
          c.discard (made.put place (.file (bytes.extract 0 n))) place)
      | none =>
        let written := made.put place (.file bytes)
        match if c.renamingRefused then none else written.rename? place s.path with
        | some renamed => (.ok (), renamed)
        | none => (.error ⟨.unwritable s.path, some place⟩, written)

def increment (s : TallyStore) (now : Timestamp) (d : Disk) (c : Conditions := {}) :
    Except TallyFailure UInt64 × Disk :=
  match s.load d c with
  | .error e => (.error ⟨e, none⟩, d)
  | .ok t =>
    match s.save d (t.countOne now) c with
    | (.ok (), d) => (.ok (t.countOne now).count, d)
    | (.error f, d) => (.error f, d)

end TallyStore

def TallyFailure.release (f : TallyFailure) (d : Disk) (c : TallyStore.Conditions := {}) : Disk :=
  match f.staged with
  | some place => c.discard d place
  | none => d

/-- The disk that an update leaves when its outcome is held no longer. -/
def TallyStore.settled {α : Type} (update : Except TallyFailure α × Disk) (c : Conditions := {}) :
    Disk :=
  match update with
  | (.ok _, d) => d
  | (.error f, d) => f.release d c

end CallCapture

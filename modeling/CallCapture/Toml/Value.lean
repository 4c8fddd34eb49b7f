namespace CallCapture

namespace Toml

/-- How a table came about: by a header of its own, by a longer header, by a dotted key, or
written inline. -/
inductive Origin
  | header
  | implied
  | dotted
  | inline
deriving DecidableEq, Repr

end Toml

inductive Toml
  | text (s : String)
  | integer (n : Int)
  | float
  | bool (b : Bool)
  | moment
  | array (items : List Toml)
  | table (origin : Toml.Origin) (entries : List (String × Toml))
  | tables (elements : List (List (String × Toml)))
deriving Repr

namespace Toml

/-- The entries of a table, in the order in which their keys first appear. -/
abbrev Entries := List (String × Toml)

structure Key where
  above : List String
  last : String
deriving DecidableEq, Repr

end Toml

end CallCapture

namespace CallCapture.Toml

namespace Entries

def replace (es : Entries) (key : String) (value : Toml) : Entries :=
  es.map fun e => if e.1 = key then (key, value) else e

def without (es : Entries) (key : String) : Entries := es.filter fun e => e.1 ≠ key

end Entries

/-- Goes down a path from a table, making the tables that are missing, and changes the one at its
end. A path of a dotted key stops at tables that a header opened. -/
def descend {α : Type} (dotted : Bool) (change : Origin → Entries → Option (α × Entries)) :
    (path : List String) → Origin → Entries → Option (α × Entries)
  | [], origin, es => change origin es
  | key :: path, _, es =>
    match es.lookup key with
    | none => do
      let origin := if dotted then Origin.dotted else .implied
      let (a, below) ← descend dotted change path origin []
      some (a, es ++ [(key, .table origin below)])
    | some (.table origin below) =>
      if origin = .inline || (dotted && origin = .header) then none
      else do
        let (a, below) ← descend dotted change path origin below
        some (a, es.replace key (.table origin below))
    | some (.tables elements) =>
      match elements.getLast? with
      | some last => do
        let (a, below) ← descend dotted change path .header last
        some (a, es.replace key (.tables (elements.dropLast ++ [below])))
      | none => none
    | some _ => none

/-- Adds a key to the table with the given origin; the key must be new, and a key with dots must
end in a table that dotted keys made. -/
def assign (origin : Origin) (key : Key) (value : Toml) (es : Entries) : Option Entries := do
  let add (origin : Origin) (es : Entries) : Option (Unit × Entries) :=
    if (origin == .dotted) == key.above.isEmpty || (es.lookup key.last).isSome then none
    else some ((), es ++ [(key.last, value)])
  let ((), es) ← descend true add key.above origin es
  some es

def inlineTable? (pairs : List (Key × Toml)) : Option Toml := do
  let es ← pairs.foldlM (fun es (key, value) => assign .header key value es) []
  some (.table .inline es)

inductive Header
  | table (key : Key)
  | element (key : Key)
deriving DecidableEq, Repr

inductive Statement
  | assign (key : Key) (value : Toml)
  | header (h : Header)
deriving Repr

/-- A document part way through: the tables closed so far, and the open one with its header, if it
has one. -/
structure Draft where
  closed : Entries := []
  header : Option Header := none
  current : Entries := []

namespace Draft

def close (d : Draft) : Option Entries :=
  match d.header with
  | none => some d.current
  | some (.table key) => do
    let add (_ : Origin) (es : Entries) : Option (Unit × Entries) :=
      some ((), es ++ [(key.last, .table .header d.current)])
    let ((), es) ← descend false add key.above .header d.closed
    some es
  | some (.element key) => do
    let add (_ : Origin) (es : Entries) : Option (Unit × Entries) :=
      match es.lookup key.last with
      | none => some ((), es ++ [(key.last, .tables [d.current])])
      | some (.tables elements) =>
        some ((), es.replace key.last (.tables (elements ++ [d.current])))
      | some _ => none
    let ((), es) ← descend false add key.above .header d.closed
    some es

/-- Opens a table; one that longer headers have implied is opened with what they put there. -/
def openTable (key : Key) (closed : Entries) : Option Draft := do
  let take (_ : Origin) (es : Entries) : Option (Entries × Entries) :=
    match es.lookup key.last with
    | none => some ([], es)
    | some (.table .implied below) => some (below, es.without key.last)
    | some _ => none
  let (current, closed) ← descend false take key.above .header closed
  some ⟨closed, some (.table key), current⟩

def openElement (key : Key) (closed : Entries) : Option Draft := do
  let check (_ : Origin) (es : Entries) : Option (Unit × Entries) :=
    match es.lookup key.last with
    | none | some (.tables _) => some ((), es)
    | some _ => none
  let ((), closed) ← descend false check key.above .header closed
  some ⟨closed, some (.element key), []⟩

def step (d : Draft) : Statement → Option Draft
  | .assign key value => (assign .header key value d.current).map fun es => { d with current := es }
  | .header (.table key) => d.close.bind (openTable key)
  | .header (.element key) => d.close.bind (openElement key)

end Draft

def ofStatements? (statements : List Statement) : Option Entries :=
  (statements.foldlM Draft.step {}).bind Draft.close

end CallCapture.Toml

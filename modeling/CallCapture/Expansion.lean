import CallCapture.Call
import CallCapture.Document
import CallCapture.Journal.Basic
import CallCapture.Report

namespace CallCapture

structure Budgets where
  backward : Nat := 50
  forward : Nat := 100
  balance : Nat := 10000
deriving DecidableEq, Repr

/-- Steps taken back over `behind`, which is read away from the selection: the walk stops on a
capital letter that has at least one character after it. -/
def stepsBack : (budget taken : Nat) → (behind : List Char) → Nat
  | _, taken, [] => taken
  | 0, taken, _ :: _ => taken
  | budget + 1, taken, c :: behind =>
    if isNameStart c && 0 < taken then taken + 1 else stepsBack budget (taken + 1) behind

def stepsToOpening? (budget : Nat) (ahead : List Char) : Option Nat :=
  (ahead.take budget).findIdx? (· == '(')

inductive Closing
  | balanced
  | textEnded
  | budgetSpent (unanswered : Nat)
deriving DecidableEq, Repr

def closeBrackets (budget : Nat) (stack : BracketStack) (taken : Nat) :
    (ahead : List Char) → Nat × Closing
  | [] =>
    if stack.isEmpty then (taken, .balanced)
    else if budget = 0 then (taken, .budgetSpent stack.size)
    else (taken, .textEnded)
  | c :: ahead =>
    if stack.isEmpty then (taken, .balanced)
    else
      match budget with
      | 0 => (taken, .budgetSpent stack.size)
      | budget + 1 => closeBrackets budget (stack.feed c).2 (taken + 1) ahead

namespace Document

/-- Where an expansion leads: the document with the selection it grew to and, when the balance
budget was spent, how many brackets were unanswered then. -/
structure Growth where
  route : Route
  grown : Document
  unanswered : Nat := 0
deriving DecidableEq, Repr

def closeCall (b : Budgets) (route : Route) (d : Document) : Growth :=
  match closeBrackets b.balance (BracketStack.empty.push '(') 0 (d.chars.drop d.selection.stop) with
  | (taken, .balanced) => ⟨route, d.advance taken, 0⟩
  | (taken, .textEnded) => ⟨.endOfDocument, d.advance taken, 0⟩
  | (taken, .budgetSpent n) => ⟨.budgetExhausted, d.advance taken, n⟩

def probed (d : Document) : Document := (d.extend .forward).2

def isDirectHit (d : Document) : Bool := d.probed.selected.getLast? == some '('

/-- The selection from the capital letter before its start to the first opening parenthesis after
that; none when there is no such parenthesis within the budget. -/
def anchor? (b : Budgets) (d : Document) : Option Document :=
  let start := d.selection.start
  let named := d.collapse.retreat (stepsBack b.backward 0 (d.chars.take start).reverse)
  (stepsToOpening? b.forward (d.chars.drop start)).map fun i => named.advance (i + 1)

def growth? (b : Budgets) (d : Document) : Option Growth :=
  if d.selectsBlank then none
  else if d.isDirectHit then some (d.probed.closeCall b .directHit)
  else
    match d.anchor? b with
    | some anchored => some (anchored.closeCall b .anchored)
    | none => some ⟨.noOpeningBracket, d.restore d.selection, 0⟩

end Document

def looksLikeCall (text : List Char) : Bool := text.contains '(' && text.contains ')'

def Document.Growth.events (b : Budgets) (g : Document.Growth) (text : List Char) : List Event :=
  let event (level : Level) (message : String) (fields : List (String × FieldValue)) : Event :=
    ⟨level, .expansion, message, fields⟩
  let stop :=
    match g.route with
    | .directHit | .anchored => []
    | .noOpeningBracket =>
      [event .debug "no opening bracket near selection; keeping original"
        [("text", .shown (String.ofList text))]]
    | .endOfDocument =>
      [event .warn "reached end of document while looking for closing brackets" []]
    | .budgetExhausted =>
      [event .warn "bracket budget exhausted before balancing"
        [("budget", .number b.balance), ("open", .number g.unanswered)]]
  if g.route = .noOpeningBracket || looksLikeCall text then stop
  else
    stop ++ [event .warn "selected text does not look like a widget call"
      [("text", .shown (String.ofList text))]]

namespace Document

/-- Grows the selection to the call around it and gives the trimmed text of the result. Only a
blank selection is an error, and then the document stays as it is. -/
def expand (b : Budgets) (d : Document) : Logged (Except CaptureError Expansion × Document) :=
  match d.growth? b with
  | none => ⟨(.error .emptySelection, d), [.event ⟨.warn, .expansion, "empty selection", []⟩]⟩
  | some g =>
    let text := Text.trim g.grown.selected
    ⟨(.ok ⟨String.ofList text, g.route⟩, g.grown),
      (g.events b text).map .event⟩

end Document

end CallCapture

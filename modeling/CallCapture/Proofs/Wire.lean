import CallCapture.Document
import CallCapture.Message
import CallCapture.Proofs.Fields
import CallCapture.Proofs.Numerals
import CallCapture.Report
import CallCapture.Settings
import CallCapture.Tally

/-! The reader takes the compact form of a value back as that value, so a value that was read from
any text at all is the same after it was written and read once more. -/

namespace CallCapture

open Json

/-- A type on the wire: its values in JSON, the reader of texts, and the values there are. -/
structure Wire (α : Type) where
  toJson : α → Json
  read? : List Char → Option α
  InRange : α → Prop := fun _ => True

namespace Wire

variable {α : Type}

def ofDecoder (toJson : α → Json) (ofJson? : Json → Option α) : Wire α where
  toJson := toJson
  read? := fun text => (Json.read? text).bind ofJson?

def write (w : Wire α) (a : α) : List Char := (w.toJson a).compactChars

/-- What is written is read back, and what is read can be written. -/
structure RoundTrips (w : Wire α) : Prop where
  back : ∀ a, w.InRange a → w.read? (w.write a) = some a
  stable : ∀ text a, w.read? text = some a → w.InRange a ∧ w.read? (w.write a) = some a

theorem RoundTrips.of_back {w : Wire α} (back : ∀ a, w.InRange a → w.read? (w.write a) = some a)
    (inRange : ∀ text a, w.read? text = some a → w.InRange a) : w.RoundTrips where
  back := back
  stable := fun text a read => ⟨inRange text a read, back a (inRange text a read)⟩

theorem ofDecoder_roundTrips {toJson : α → Json} {ofJson? : Json → Option α}
    (plain : ∀ a, (toJson a).Plain) (decodes : ∀ a, ofJson? (toJson a) = some a) :
    (ofDecoder toJson ofJson?).RoundTrips := by
  apply RoundTrips.of_back
  · intro a _
    have read := (plain a).read?_compact
    simp only [ofDecoder, write, read, Option.bind_some, decodes]
  · intro _ _ _
    trivial

end Wire

theorem PageCommand.reads : Reads PageCommand.toJson PageCommand.ofJson? :=
  reads_choice fun c => by cases c <;> rfl

theorem Route.reads : Reads Route.toJson Route.ofJson? :=
  reads_choice fun r => by cases r <;> rfl

theorem CaptureError.reads : Reads CaptureError.toJson CaptureError.ofJson? :=
  reads_choice fun e => by cases e <;> rfl

theorem CopyMethod.reads : Reads CopyMethod.toJson CopyMethod.ofJson? :=
  reads_choice fun m => by cases m <;> rfl

theorem Timestamp.reads : Reads Timestamp.toJson Timestamp.ofJson? where
  back := fun t => by
    simp [Timestamp.ofJson?, Timestamp.toJson, string?_ofString, Timestamp.read?_write]
  ne_null := fun t => by simp [Timestamp.toJson, ofString]

/-! ### Messages -/

namespace PageRequest

def wire : Wire PageRequest := .ofDecoder toJson ofJson?

theorem toJson_plain (q : PageRequest) : q.toJson.Plain := by
  apply plain_object
  intro m member
  rcases List.mem_cons.mp member with rfl | optional
  · exact ⟨rfl, plain_ofString _⟩
  · exact plain_member? plain_ofString m optional

theorem ofJson?_toJson (q : PageRequest) : ofJson? q.toJson = some q := by
  rw [ofJson?, toJson]
  apply bind_record?
  · decide
  · simpa [member] using member?_sublist "widget" q.widget
  intro r found
  have command := PageCommand.reads.required (found "command")
  have widget : r.optional "widget" string? = some q.widget :=
    reads_string.optional (by simp [found, member, List.lookup_cons])
  simp [command, widget]

theorem readWholly?_toJson (q : PageRequest) :
    readWholly? q.toJson.compactChars = some q.toJson := by
  apply q.toJson_plain.readWholly?_compact
  all_goals
    obtain ⟨command, widget⟩ := q
    cases command <;> cases widget
  all_goals first | rfl | exact Nat.le_of_ble_eq_true rfl

end PageRequest

namespace PageResponse

def wire : Wire PageResponse := .ofDecoder toJson ofJson?

theorem toJson_plain (a : PageResponse) : a.toJson.Plain := by
  apply plain_object
  simp [member, plain_bool, plain_ofString]

theorem ofJson?_toJson (a : PageResponse) : ofJson? a.toJson = some a := by
  rw [ofJson?, toJson]
  apply bind_record?
  · decide
  · simp [member]
  intro r found
  have success := reads_bool.required (found "success")
  have message := reads_string.required (found "message")
  simp [success, message]

end PageResponse

namespace ExtensionInfo

def wire : Wire ExtensionInfo := .ofDecoder toJson ofJson?

theorem toJson_plain (i : ExtensionInfo) : i.toJson.Plain := by
  apply plain_object
  simp [member, plain_ofString]

theorem ofJson?_toJson (i : ExtensionInfo) : ofJson? i.toJson = some i := by
  rw [ofJson?, toJson]
  apply bind_record?
  · decide
  · simp [member]
  intro r found
  have name := reads_string.required (found "name")
  have version := reads_string.required (found "version")
  simp [name, version]

end ExtensionInfo

namespace RuntimeRequest

def wire : Wire RuntimeRequest where
  toJson := toJson
  read? := read?

theorem toJson_plain (q : RuntimeRequest) : q.toJson.Plain := by
  cases q with
  | getExtensionInfo =>
    apply plain_object
    simp [member, plain_ofString]
  | logError error =>
    apply plain_object
    simp [member, plain_ofString]
  | logInfo message =>
    apply plain_object
    simp [member, plain_ofString]

theorem splitAction?_action (a : Action) (rest : List (Words × Json))
    (other : ∀ m ∈ rest, m.1 ≠ some "action") :
    splitAction? (.object (member "action" (ofString a.name) :: rest)) =
      some (ofString a.name, .object rest) := by
  have none : rest.filter (·.1 == some "action") = [] := by
    simpa [List.filter_eq_nil_iff] using other
  have all : rest.filter (·.1 != some "action") = rest := by
    simpa [List.filter_eq_self] using other
  simp [splitAction?, member, none, all]

theorem ofAction?_object (q : RuntimeRequest) : ∃ a rest, (∀ m ∈ rest, m.1 ≠ some "action") ∧
    q.toJson = .object (member "action" (ofString a.name) :: rest) ∧
    ofAction? (.object rest) a = some q := by
  cases q with
  | getExtensionInfo => exact ⟨.getExtensionInfo, [], by simp, rfl, rfl⟩
  | logError error =>
    refine ⟨.logError, [member "error" (ofString error)], by simp [member], rfl, ?_⟩
    rw [ofAction?]
    apply bind_record?
    · decide
    · simp [member]
    intro r found
    have error := reads_string.required (found "error")
    simp [error]
  | logInfo message =>
    refine ⟨.logInfo, [member "message" (ofString message)], by simp [member], rfl, ?_⟩
    rw [ofAction?]
    apply bind_record?
    · decide
    · simp [member]
    intro r found
    have message := reads_string.required (found "message")
    simp [message]

theorem ofJson?_toJson {action? : Json → Option Action}
    (named : ∀ a : Action, action? (ofString a.name) = some a) (q : RuntimeRequest) :
    ofJson? action? q.toJson = some q := by
  obtain ⟨a, rest, other, written, decoded⟩ := q.ofAction?_object
  rw [written, ofJson?, splitAction?_action a rest other]
  simp [named, decoded]

theorem readWholly?_toJson (q : RuntimeRequest) :
    readWholly? q.toJson.compactChars = some q.toJson := by
  apply q.toJson_plain.readWholly?_compact
  · cases q <;> rfl
  · cases q <;> exact Nat.le_of_ble_eq_true rfl

theorem named?_name (a : Action) : Action.named? (ofString a.name) = some a := by cases a <;> rfl

theorem read?_toJson (q : RuntimeRequest) : read? q.toJson.compactChars = some q := by
  rw [read?, q.readWholly?_toJson, Option.bind_some, ofJson?_toJson named?_name]

end RuntimeRequest

/-! ### Reports and spans -/

namespace Report

def wire : Wire Report := .ofDecoder toJson ofJson?

theorem toJson_plain (a : Report) : a.toJson.Plain := by
  apply plain_object
  simp only [List.mem_cons, List.mem_append]
  rintro m (rfl | (((optional | optional) | optional) | optional) | optional)
  · exact ⟨rfl, plain_bool _⟩
  · exact plain_member? plain_ofString m optional
  · exact plain_member? plain_ofString m optional
  · exact plain_member? (fun _ => plain_ofString _) m optional
  · exact plain_member? (fun _ => plain_ofString _) m optional
  · exact plain_member? (fun _ => plain_ofString _) m optional

theorem ofJson?_toJson (a : Report) : ofJson? a.toJson = some a := by
  have inOrder := ((((member?_sublist "finalText" a.finalText).append
    (member?_sublist "displayName" a.displayName)).append
    (member?_sublist "errorKind" a.errorKind)).append
    (member?_sublist "path" a.route)).append (member?_sublist "copy" a.copy)
  rw [ofJson?, toJson]
  apply bind_record?
  · decide
  · simpa [member, fields] using inOrder
  intro r found
  have success := reads_bool.required (found "success")
  have finalText : r.optional "finalText" string? = some a.finalText :=
    reads_string.optional (by simp [found, member, List.lookup_cons, List.lookup_append])
  have displayName : r.optional "displayName" string? = some a.displayName :=
    reads_string.optional (by simp [found, member, List.lookup_cons, List.lookup_append])
  have errorKind : r.optional "errorKind" CaptureError.ofJson? = some a.errorKind :=
    CaptureError.reads.optional (by simp [found, member, List.lookup_cons, List.lookup_append])
  have route : r.optional "path" Route.ofJson? = some a.route :=
    Route.reads.optional (by simp [found, member, List.lookup_cons, List.lookup_append])
  have copy : r.optional "copy" CopyMethod.ofJson? = some a.copy :=
    CopyMethod.reads.optional (by simp [found, member, List.lookup_cons, List.lookup_append])
  simp [success, finalText, displayName, errorKind, route, copy]

end Report

namespace Span

/-- Offsets on the wire are 64-bit numbers. -/
def wire : Wire Span where
  toJson := toJson
  read? := fun text => (Json.read? text).bind ofJson?
  InRange := fun s => s.start < UInt64.size ∧ s.stop < UInt64.size

theorem toJson_plain (s : Span) : s.toJson.Plain := by
  apply plain_object
  simp [member, plain_ofNat]

theorem ofJson?_toJson {s : Span} (inRange : s.start < UInt64.size ∧ s.stop < UInt64.size) :
    ofJson? s.toJson = some s := by
  obtain ⟨start, stop⟩ := s
  obtain ⟨start, rfl⟩ : ∃ n : UInt64, n.toNat = start :=
    ⟨.ofNat start, UInt64.toNat_ofNat_of_lt' inRange.1⟩
  obtain ⟨stop, rfl⟩ : ∃ n : UInt64, n.toNat = stop :=
    ⟨.ofNat stop, UInt64.toNat_ofNat_of_lt' inRange.2⟩
  rw [ofJson?, toJson]
  apply bind_record?
  · decide
  · simp [member]
  intro r found
  have start := reads_word.required (found "start")
  have stop := reads_word.required (found "end")
  simp [start, stop]

theorem inRange_of_ofJson? {j : Json} {s : Span} (decoded : ofJson? j = some s) :
    s.start < UInt64.size ∧ s.stop < UInt64.size := by
  simp only [ofJson?, Option.bind_eq_bind, Option.bind_eq_some_iff] at decoded
  obtain ⟨_, _, start, _, stop, _, made⟩ := decoded
  cases made
  exact ⟨start.toNat_lt_size, stop.toNat_lt_size⟩

theorem roundTrips : wire.RoundTrips := by
  apply Wire.RoundTrips.of_back
  · intro s inRange
    have read := s.toJson_plain.read?_compact
    simp only [wire, Wire.write, read, Option.bind_some, ofJson?_toJson inRange]
  · intro text s read
    obtain ⟨j, _, decoded⟩ := Option.bind_eq_some_iff.mp read
    exact inRange_of_ofJson? decoded

end Span

/-! ### What is stored -/

namespace Tally

def wire : Wire Tally where
  toJson := toJson
  read? := read?

theorem toJson_plain (t : Tally) : t.toJson.Plain := by
  apply plain_object
  have dated : (orNull Timestamp.toJson t.lastAt).Plain :=
    plain_orNull (fun _ => plain_ofString _) t.lastAt
  simp [member, plain_ofNat, dated]

theorem ofJson?_toJson (t : Tally) : ofJson? t.toJson = some t := by
  rw [ofJson?, toJson]
  apply bind_record?
  · decide
  · simp [member]
  intro r found
  have count := reads_word.orDefault 0 (found "usageCount")
  have lastAt := Timestamp.reads.orNull (found "lastCaughtAt")
  simp [count, lastAt]

end Tally

namespace Settings

def wire : Wire Settings where
  toJson := toJson
  read? := ofJsonText?

theorem toJson_plain (s : Settings) : s.toJson.Plain := by
  apply plain_object
  simp only [List.forall_mem_cons, List.not_mem_nil, false_implies, implies_true, and_true]
  have words (n : Option UInt64) : (orNull wordToJson n).Plain :=
    plain_orNull (fun _ => plain_ofNat _) n
  have bools (b : Option Bool) : (orNull .bool b).Plain := plain_orNull plain_bool b
  have strings (s : Option String) : (orNull ofString s).Plain := plain_orNull plain_ofString s
  refine ⟨⟨rfl, ?_⟩, ⟨rfl, ?_⟩, ⟨rfl, ?_⟩, ⟨rfl, ?_⟩⟩
  all_goals
    apply plain_object
    simp [member, words, bools, strings]

theorem section?_object (keys : List String) {r : Record} {name : String}
    {members : List (Words × Json)} (given : r.get? name = some (.object members))
    (distinct : keys.Nodup) (inOrder : (members.map Prod.fst).Sublist (keys.map some)) :
    ∃ r', section? keys r name = some r' ∧ ∀ key, r'.get? key = members.lookup (some key) := by
  have taken := record?_object (keys.map fun key => ⟨key, true⟩)
    (by simpa [Function.comp_def] using distinct) (by simpa [Function.comp_def] using inOrder)
  obtain ⟨r', taken, found⟩ := taken
  exact ⟨r', by rw [section?, Record.orDefault, given]; exact taken, found⟩

theorem ofJson?_toJson (s : Settings) : ofJson? s.toJson = some s := by
  rw [ofJson?, toJson]
  apply bind_record?
  · decide
  · simp [member]
  intro r found
  obtain ⟨budgets, isBudgets, inBudgets⟩ := section?_object
    ["backward_anchor", "forward_anchor", "balance"] (found "budgets")
    (by decide) (by simp [member])
  obtain ⟨feedback, isFeedback, inFeedback⟩ := section?_object
    ["snackbar_duration_ms"] (found "feedback") (by decide) (by simp [member])
  obtain ⟨clipboard, isClipboard, inClipboard⟩ := section?_object
    ["fallback_commands"] (found "clipboard") (by decide) (by simp [member])
  obtain ⟨usage, isUsage, inUsage⟩ := section?_object
    ["enabled", "path"] (found "usage") (by decide) (by simp [member])
  have backward := reads_word.orNull (inBudgets "backward_anchor")
  have forward := reads_word.orNull (inBudgets "forward_anchor")
  have balance := reads_word.orNull (inBudgets "balance")
  have snackbarMillis := reads_word.orNull (inFeedback "snackbar_duration_ms")
  have fallbackCommands := reads_bool.orNull (inClipboard "fallback_commands")
  have tallyEnabled := reads_bool.orNull (inUsage "enabled")
  have tallyPath := reads_string.orNull (inUsage "path")
  simp [isBudgets, isFeedback, isClipboard, isUsage, backward, forward, balance, snackbarMillis,
    fallbackCommands, tallyEnabled, tallyPath]

end Settings

/-! ### All types -/

/-- Every type on the wire comes back as it was written, and is stable once it was read. -/
theorem wires_roundTrip : PageRequest.wire.RoundTrips ∧ PageResponse.wire.RoundTrips ∧
    RuntimeRequest.wire.RoundTrips ∧ ExtensionInfo.wire.RoundTrips ∧ Report.wire.RoundTrips ∧
    Span.wire.RoundTrips ∧ Tally.wire.RoundTrips ∧ Settings.wire.RoundTrips := by
  have tallies : Tally.wire.RoundTrips :=
    Wire.ofDecoder_roundTrips Tally.toJson_plain Tally.ofJson?_toJson
  have settings : Settings.wire.RoundTrips :=
    Wire.ofDecoder_roundTrips Settings.toJson_plain Settings.ofJson?_toJson
  have runtimes : RuntimeRequest.wire.RoundTrips :=
    .of_back (fun q _ => q.read?_toJson) (fun _ _ _ => trivial)
  exact ⟨Wire.ofDecoder_roundTrips PageRequest.toJson_plain PageRequest.ofJson?_toJson,
    Wire.ofDecoder_roundTrips PageResponse.toJson_plain PageResponse.ofJson?_toJson,
    runtimes,
    Wire.ofDecoder_roundTrips ExtensionInfo.toJson_plain ExtensionInfo.ofJson?_toJson,
    Wire.ofDecoder_roundTrips Report.toJson_plain Report.ofJson?_toJson,
    Span.roundTrips, tallies, settings⟩

theorem wires_roundTrip_leapSecond :
    let text := "[18446744073709551615,\"2016-12-31\\u007423:59:60.5Z\"]".toList
    let t : Tally := ⟨18446744073709551615,
      some ⟨2016, 12, 31, 23, 59, 59, 999999999, 0, rfl, rfl, rfl⟩⟩
    let s : Span := ⟨0, 18446744073709551615⟩
    Tally.wire.read? text = some t ∧ Tally.wire.read? (Tally.wire.write t) = some t ∧
      Span.wire.read? (Span.wire.write s) = some s := by
  intro text t s
  obtain ⟨-, -, -, -, -, spans, tallies, -⟩ := wires_roundTrip
  have items : Json.read? "[18446744073709551615,\"2016-12-31\\u007423:59:60.5Z\"]".toList =
      some (.array [.number (.ofNat 18446744073709551615),
        .text (some "2016-12-31t23:59:60.5Z")]) := by cbv
  have count : word? (.number (.ofNat 18446744073709551615)) = some 18446744073709551615 := by cbv
  have lastAt : Timestamp.ofJson? (.text (some "2016-12-31t23:59:60.5Z")) =
      some ⟨2016, 12, 31, 23, 59, 59, 999999999, 0, rfl, rfl, rfl⟩ := by cbv
  have read : Tally.wire.read? text = some t := by
    simp only [Tally.wire, Tally.read?, text, items, Option.bind_some]
    simp [Tally.ofJson?, record?, Record.orDefault, Record.optional, Record.get?, List.lookup_cons,
      count, lastAt, t]
  have inRange : Span.wire.InRange s := ⟨by decide, by decide⟩
  exact ⟨read, (tallies.stable text t read).2, spans.back s inRange⟩

end CallCapture

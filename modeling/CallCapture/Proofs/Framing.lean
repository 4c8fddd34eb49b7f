import CallCapture.Proofs.Serve
import CallCapture.Proofs.Slice
import CallCapture.Proofs.Wire

namespace CallCapture

namespace Text

def bytes (s : String) : List UInt8 := s.toUTF8.data.toList

theorem decodeLine?_bytes (s : String) : decodeLine? (bytes s) = some s := fromUTF8?_toUTF8 s

theorem bytes_append (s r : String) : bytes (s ++ r) = bytes s ++ bytes r := by
  simp [bytes, String.toUTF8]

theorem bytes_eq_flatMap (s : String) : bytes s = s.toList.flatMap String.utf8EncodeChar := by
  have encoded : s.toByteArray = (s.toList.flatMap String.utf8EncodeChar).toByteArray := by
    rw [← String.ofList_toList (s := s), String.toByteArray_ofList, String.toList_ofList]
    rfl
  rw [bytes, String.toUTF8, encoded, List.toList_data_toByteArray]

theorem mem_utf8EncodeChar_ascii {b : UInt8} {c : Char} (ascii : b.toNat < 128)
    (member : b ∈ String.utf8EncodeChar c) : c.toNat = b.toNat := by
  have code : c.val.toNat = c.toNat := rfl
  unfold String.utf8EncodeChar at member
  simp only [code] at member
  split at member
  · rw [List.mem_singleton.mp member, UInt8.toNat_ofNat']
    omega
  · split at member
    · simp only [List.mem_cons, List.not_mem_nil, or_false] at member
      rcases member with rfl | rfl <;> simp only [UInt8.toNat_ofNat'] at ascii <;> omega
    · split at member
      · simp only [List.mem_cons, List.not_mem_nil, or_false] at member
        rcases member with rfl | rfl | rfl <;> simp only [UInt8.toNat_ofNat'] at ascii <;> omega
      · simp only [List.mem_cons, List.not_mem_nil, or_false] at member
        rcases member with rfl | rfl | rfl | rfl <;>
          simp only [UInt8.toNat_ofNat'] at ascii <;> omega

theorem lineFeed_not_mem_bytes {s : String} (without : '\n' ∉ s.toList) :
    lineFeed ∉ bytes s := by
  rw [bytes_eq_flatMap]
  intro found
  obtain ⟨c, member, encoded⟩ := List.mem_flatMap.mp found
  have same : c.toNat = 10 := mem_utf8EncodeChar_ascii (by decide) encoded
  have isFeed : c = '\n' := Char.toNat_inj.mp same
  exact without (isFeed ▸ member)

/-- Lines that hold no line feed and do not end in a carriage return come apart again. -/
theorem lines_flatMap {ls : List (List UInt8)} (noFeed : ∀ l ∈ ls, lineFeed ∉ l)
    (noReturn : ∀ l ∈ ls, l.getLast? ≠ some carriageReturn) :
    lines (ls.flatMap (· ++ [lineFeed])) = ls := by
  induction ls with
  | nil => rfl
  | cons l ls ih =>
    have whole : lines (l ++ [lineFeed]) = [l] := by
      have cut : (l ++ [lineFeed]).splitOn lineFeed = [l, []] :=
        List.splitOn_append_cons_self_of_not_mem (noFeed l List.mem_cons_self) []
      simp [lines, cut, endLines, stripReturn, noReturn l]
    have later := ih (fun k member => noFeed k (List.mem_cons_of_mem _ member))
      (fun k member => noReturn k (List.mem_cons_of_mem _ member))
    rw [List.flatMap_cons, lines_append, whole, later]
    rfl

end Text

namespace RuntimeRequest

theorem served?_name (a : Action) : Action.served? (Json.ofString a.name) = some a := by
  cases a <;> rfl

theorem pageRequest?_toJson (q : RuntimeRequest) : PageRequest.ofJson? q.toJson = none := by
  cases q <;> rfl

end RuntimeRequest

namespace Message

open Json

theorem readWholly?_toJson (m : Message) :
    readWholly? m.toJson.compactChars = some m.toJson := by
  cases m with
  | page q => exact q.readWholly?_toJson
  | runtime q => exact q.readWholly?_toJson

theorem toJson_object (m : Message) : ∃ members, m.toJson = .object members := by
  cases m with
  | page q => exact ⟨_, rfl⟩
  | runtime q => cases q <;> exact ⟨_, rfl⟩

theorem number_not_mem_tokens (m : Message) (n : Number) : .number n ∉ m.toJson.tokens := by
  cases m with
  | page q =>
    obtain ⟨command, widget⟩ := q
    cases widget <;>
      simp [toJson, PageRequest.toJson, PageCommand.toJson, tokens, memberTokens, member, member?,
        ofString]
  | runtime q =>
    cases q <;>
      simp [toJson, RuntimeRequest.toJson, tokens, memberTokens, member, ofString]

theorem read?_toJson (m : Message) : read? m.toJson.compactChars = some m := by
  rw [read?, m.readWholly?_toJson, Option.bind_some]
  cases m with
  | page q => simp [ofJson?, toJson, PageRequest.ofJson?_toJson]
  | runtime q =>
    simp [ofJson?, toJson, q.pageRequest?_toJson, q.ofJson?_toJson RuntimeRequest.served?_name]

def line (m : Message) : String := m.toJson.compact

def framed (ms : List Message) : List UInt8 := ms.flatMap fun m => Text.bytes (m.line ++ "\n")

theorem line_chars (m : Message) :
    ∃ inside, m.line.toList = '\x7b' :: (inside ++ ['\x7d']) := by
  obtain ⟨members, object⟩ := m.toJson_object
  exact ⟨(memberTokens members).flatMap Token.spell, by
    simp [line, compact, compactChars, object, tokens, Token.spell]⟩

theorem line_shown (m : Message) : Text.isBlankText m.line.toList = false := by
  obtain ⟨inside, chars⟩ := m.line_chars
  apply Text.isBlankText_of_visible (c := '\x7b') (by decide)
  simp [chars]

theorem line_read (m : Message) : read? m.line.toList = some m := by
  rw [line, compact, String.toList_ofList, m.read?_toJson]

theorem lineFeed_not_mem_line (m : Message) : Text.lineFeed ∉ Text.bytes m.line := by
  apply Text.lineFeed_not_mem_bytes
  rw [line, compact, String.toList_ofList]
  exact newline_not_mem_compact m.number_not_mem_tokens

theorem line_noReturn (m : Message) :
    (Text.bytes m.line).getLast? ≠ some Text.carriageReturn := by
  obtain ⟨inside, chars⟩ := m.line_chars
  have last : String.utf8EncodeChar '\x7d' = [125] := by decide
  simp [Text.bytes_eq_flatMap, chars, last, Text.carriageReturn]

theorem lines_framed (ms : List Message) :
    Text.lines (framed ms) = ms.map fun m => Text.bytes m.line := by
  have ended : framed ms = (ms.map fun m => Text.bytes m.line).flatMap (· ++ [Text.lineFeed]) := by
    have feed : Text.bytes "\n" = [Text.lineFeed] := by decide
    simp [framed, List.flatMap_map, Text.bytes_append, feed]
  rw [ended]
  apply Text.lines_flatMap
  · intro l member
    obtain ⟨m, _, rfl⟩ := List.mem_map.mp member
    exact m.lineFeed_not_mem_line
  · intro l member
    obtain ⟨m, _, rfl⟩ := List.mem_map.mp member
    exact m.line_noReturn

end Message

namespace Page

def answer (now : Moment) (p : Page) : Message → Logged (Option Json × Page)
  | .page r => do
    let p ← p.selectHint r
    let (response, p) ← p.handle now r
    pure (some response.toJson, p)
  | .runtime r => do
    let reply ← r.answer
    pure (reply.map ExtensionInfo.toJson, p)

def answerAll (t : Timing) (p : Page) : List Message → Logged Served
  | [] => pure ⟨[], none, p⟩
  | m :: rest => do
    let (reply, p) ← p.answer (t.moment 0) m
    let served ← answerAll (t.later 1) p rest
    pure { served with out := (reply.map written).toList ++ served.out }

theorem answerLine_line (now : Moment) (p : Page) (m : Message) :
    p.answerLine now m.line.toList = p.answer now m := by
  rw [answerLine, m.line_shown, m.line_read]
  cases m <;> rfl

theorem serveLines_messages (t : Timing) (p : Page) (ms : List Message) :
    serveLines t .sound 0 0 p (ms.map fun m => Text.bytes m.line) = answerAll t p ms := by
  induction ms generalizing t p with
  | nil => rfl
  | cons m ms ih =>
    rw [List.map_cons, serveLines_cons (Text.decodeLine?_bytes _), answerLine_line, answerAll]
    simp only [ih]

/-- Messages that are fed one to a line arrive as they are, in their order: each has one line that
is not blank and is read as this message, and serving the input is answering the messages. -/
theorem serve_framed (t : Timing) (p : Page) (ms : List Message) :
    (Text.lines (Message.framed ms)).map Text.decodeLine? = ms.map (fun m => some m.line) ∧
      (∀ m : Message, Text.isBlankText m.line.toList = false ∧
        Message.read? m.line.toList = some m) ∧
      p.serve t .sound (Message.framed ms) = answerAll t p ms := by
  refine ⟨?_, fun m => ⟨m.line_shown, m.line_read⟩, ?_⟩
  · rw [Message.lines_framed, List.map_map]
    exact List.map_congr_left fun m _ => Text.decodeLine?_bytes m.line
  · rw [serve, Message.lines_framed]
    exact serveLines_messages t p ms

end Page

end CallCapture

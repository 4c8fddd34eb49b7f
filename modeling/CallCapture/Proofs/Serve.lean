import CallCapture.Page
import Mathlib

/-! With an outlet that never fails and lines that can be read, an input can be cut after any line
feed. -/

namespace CallCapture

namespace Json

theorem hexDigit_ne_newline {n : Nat} (small : n < 16) : Text.hexDigit n ≠ '\n' := by
  revert n
  decide

theorem newline_not_mem_spellChar (c : Char) : '\n' ∉ spellChar c := by
  fun_cases spellChar c
  case case8 control =>
    have high := (hexDigit_ne_newline (n := c.toNat / 16) (by omega)).symm
    have low := (hexDigit_ne_newline (n := c.toNat % 16) (by omega)).symm
    simp [high, low]
  case case9 other _ _ _ _ _ => simpa [eq_comm] using other
  all_goals decide

theorem newline_not_mem_spellString (s : String) : '\n' ∉ spellString s := by
  intro found
  rcases List.mem_cons.mp found with quote | found
  · cases quote
  · rcases List.mem_append.mp found with inside | quote
    · obtain ⟨c, _, spelt⟩ := List.mem_flatMap.mp inside
      exact newline_not_mem_spellChar c spelt
    · cases List.mem_singleton.mp quote

theorem newline_not_mem_compact {j : Json}
    (plain : ∀ n, Token.number n ∉ j.tokens) : '\n' ∉ j.compactChars := by
  intro found
  obtain ⟨token, member, spelt⟩ := List.mem_flatMap.mp found
  cases token with
  | number n => exact plain n member
  | text s => exact newline_not_mem_spellString _ spelt
  | bool b => cases b <;> revert spelt <;> decide
  | _ => revert spelt; decide

end Json

theorem PageResponse.newline_not_mem (r : PageResponse) : '\n' ∉ r.toJson.compactChars :=
  Json.newline_not_mem_compact fun n => by
    simp [toJson, Json.tokens, Json.memberTokens, Json.member, Json.ofString]

namespace Page

/-! ### Replies and requests -/

def request? (line : String) : Option PageRequest :=
  if Text.isBlankText line.toList then none
  else
    match Message.read? line.toList with
    | some (.page r) => some r
    | _ => none

def accept (now : Moment) (p : Page) (r : PageRequest) : PageResponse × Page :=
  ((p.selectHint r).value.handle now r).value

def reply? (now : Moment) (p : Page) (line : String) : Option Json :=
  if Text.isBlankText line.toList then none
  else
    match Message.read? line.toList with
    | some (.page r) => some (p.accept now r).1.toJson
    | some (.runtime .getExtensionInfo) => some ExtensionInfo.current.toJson
    | some (.runtime _) => none
    | none => some PageResponse.error.toJson

def answerable (line : String) : Bool :=
  !Text.isBlankText line.toList &&
    match Message.read? line.toList with
    | some (.runtime (.logError _)) | some (.runtime (.logInfo _)) => false
    | _ => true

def after (now : Moment) (p : Page) (line : String) : Page :=
  ((request? line).map fun r => (p.accept now r).2).getD p

/-- The page requests among lines, each with the moment at which its line is taken up. -/
def requests (t : Timing) (texts : List String) : List (Moment × PageRequest) :=
  texts.zipIdx.filterMap fun (line, i) => (request? line).map (t.moment i, ·)

def acceptAll (p : Page) (rs : List (Moment × PageRequest)) : Page :=
  rs.foldl (fun p r => (p.accept r.1 r.2).2) p

/-- The replies to lines: each line is answered on the page that the requests of the lines before
it have left. -/
def replies (t : Timing) (p : Page) (texts : List String) : List Json :=
  texts.zipIdx.filterMap fun (line, i) =>
    (p.acceptAll (requests t (texts.take i))).reply? (t.moment i) line

/-! ### One line -/

theorem request?_page {line : String} {r : PageRequest}
    (shown : Text.isBlankText line.toList = false)
    (read : Message.read? line.toList = some (.page r)) : request? line = some r := by
  simp only [request?, shown, read, Bool.false_eq_true, if_false]

theorem reply?_page {line : String} {r : PageRequest}
    (shown : Text.isBlankText line.toList = false)
    (read : Message.read? line.toList = some (.page r)) (now : Moment) (p : Page) :
    p.reply? now line = some (p.accept now r).1.toJson := by
  simp only [reply?, shown, read, Bool.false_eq_true, if_false]

theorem reply?_isSome (now : Moment) (p : Page) (line : String) :
    (p.reply? now line).isSome = answerable line := by
  unfold reply? answerable
  cases Text.isBlankText line.toList with
  | true => rfl
  | false =>
    rcases Message.read? line.toList with _ | r | r
    · rfl
    · rfl
    · cases r <;> rfl

theorem answerLine_value (now : Moment) (p : Page) (line : String) :
    (p.answerLine now line.toList).value = (p.reply? now line, p.after now line) := by
  unfold answerLine reply? after request?
  cases Text.isBlankText line.toList with
  | true => rfl
  | false =>
    rcases Message.read? line.toList with _ | r | r
    · rfl
    · rfl
    · cases r <;> rfl

theorem filterMap_zipIdx_cons {β : Type} (f : String → Nat → Option β) (line : String)
    (rest : List String) :
    (line :: rest).zipIdx.filterMap (fun (text, i) => f text i) =
      (f line 0).toList ++ rest.zipIdx.filterMap fun (text, i) => f text (1 + i) := by
  have shifted : rest.zipIdx (0 + 1) = rest.zipIdx.map fun (text, i) => (text, i + 1) :=
    List.zipIdx_succ
  rw [List.zipIdx_cons, List.filterMap_cons, shifted, List.filterMap_map]
  simp only [Function.comp_def, Nat.add_comm 1]
  cases f line 0 with
  | none => rfl
  | some _ => rfl

@[simp] theorem requests_nil (t : Timing) : requests t [] = [] := rfl

@[simp] theorem acceptAll_nil (p : Page) : p.acceptAll [] = p := rfl

theorem requests_cons (t : Timing) (line : String) (rest : List String) :
    requests t (line :: rest) =
      ((request? line).map (t.moment 0, ·)).toList ++ requests (t.later 1) rest :=
  filterMap_zipIdx_cons (fun text i => (request? text).map (t.moment i, ·)) line rest

theorem acceptAll_requests_cons (t : Timing) (p : Page) (line : String) (rest : List String) :
    p.acceptAll (requests t (line :: rest)) =
      (p.after (t.moment 0) line).acceptAll (requests (t.later 1) rest) := by
  rw [requests_cons, acceptAll, List.foldl_append, after]
  cases request? line with
  | none => rfl
  | some r => rfl

theorem replies_cons (t : Timing) (p : Page) (line : String) (rest : List String) :
    replies t p (line :: rest) =
      (p.reply? (t.moment 0) line).toList
        ++ replies (t.later 1) (p.after (t.moment 0) line) rest := by
  rw [replies, filterMap_zipIdx_cons fun text i =>
    (p.acceptAll (requests t ((line :: rest).take i))).reply? (t.moment i) text]
  simp only [Nat.add_comm 1, List.take_succ_cons, acceptAll_requests_cons]
  simp only [replies, Timing.later_moment, Nat.add_comm 1]
  rfl

/-! ### Runs over lines -/

def written (reply : Json) : String := reply.compact ++ "\n"

def Served.andThen (first second : Served) : Served :=
  ⟨first.out ++ second.out, second.error, second.page⟩

theorem serveLines_later (t : Timing) (p : Page) (lines : List (List UInt8))
    (taken flushed : Nat) :
    serveLines t .sound taken flushed p lines = serveLines (t.later taken) .sound 0 0 p lines := by
  induction lines generalizing t p taken flushed with
  | nil => rfl
  | cons line rest ih =>
    unfold serveLines
    cases Text.decodeLine? line with
    | none => rfl
    | some text =>
      simp only [Timing.later_moment, Nat.add_zero, Outlet.sound_writeFails,
        Outlet.sound_flushFails, Bool.false_eq_true, if_false]
      congr 1
      funext ⟨reply, p⟩
      cases reply with
      | none =>
        dsimp only
        rw [ih t, ih (t.later taken), Timing.later_later]
      | some j =>
        dsimp only
        rw [ih t, ih (t.later taken), Timing.later_later]

theorem serveLines_cons {line : List UInt8} {text : String}
    (decoded : Text.decodeLine? line = some text) (t : Timing) (p : Page)
    (rest : List (List UInt8)) :
    serveLines t .sound 0 0 p (line :: rest) =
      (p.answerLine (t.moment 0) text.toList >>= fun (reply, p) =>
        serveLines (t.later 1) .sound 0 0 p rest >>= fun served =>
          pure { served with out := (reply.map written).toList ++ served.out }) := by
  rw [serveLines, decoded]
  simp only [Outlet.sound_writeFails, Outlet.sound_flushFails, Bool.false_eq_true, if_false]
  congr 1
  funext ⟨reply, p⟩
  cases reply with
  | none =>
    dsimp only
    rw [serveLines_later]
    apply Logged.ext
    · rfl
    · exact (List.append_nil _).symm
  | some j =>
    dsimp only
    rw [serveLines_later]
    rfl

/-- Lines that can be read are served, and what comes after them is served on the page that they
have left. -/
theorem serveLines_append {first : List (List UInt8)} {texts : List String}
    (decoded : first.map Text.decodeLine? = texts.map some) (t : Timing) (p : Page)
    (rest : List (List UInt8)) :
    serveLines t .sound 0 0 p (first ++ rest) =
      (serveLines t .sound 0 0 p first >>= fun served =>
        served.andThen <$> serveLines (t.later first.length) .sound 0 0 served.page rest) := by
  induction first generalizing t p texts with
  | nil =>
    simp only [List.nil_append, List.length_nil, Timing.later_zero, serveLines, pure_bind]
    exact (id_map _).symm
  | cons line first ih =>
    obtain ⟨text, texts, rfl, read, decoded⟩ := List.map_eq_cons_iff.mp decoded.symm
    rw [List.cons_append, serveLines_cons read.symm, serveLines_cons read.symm, bind_assoc]
    congr 1
    funext ⟨reply, p⟩
    dsimp only
    rw [ih decoded.symm]
    simp only [bind_assoc, pure_bind, map_eq_pure_bind, Timing.later_later, List.length_cons,
      Nat.add_comm 1, Served.andThen, List.append_assoc]

theorem serveLines_value {lines : List (List UInt8)} {texts : List String}
    (decoded : lines.map Text.decodeLine? = texts.map some) (t : Timing) (p : Page) :
    (serveLines t .sound 0 0 p lines).value =
      ⟨(replies t p texts).map written, none, p.acceptAll (requests t texts)⟩ := by
  induction lines generalizing t p texts with
  | nil =>
    cases List.map_eq_nil_iff.mp decoded.symm
    rfl
  | cons line rest ih =>
    obtain ⟨text, texts, rfl, read, decoded⟩ := List.map_eq_cons_iff.mp decoded.symm
    rw [serveLines_cons read.symm, Logged.bind_value, answerLine_value, Logged.bind_value,
      ih decoded.symm, replies_cons, acceptAll_requests_cons, List.map_append]
    cases p.reply? (t.moment 0) text with
    | none => rfl
    | some _ => rfl

/-! ### Serving an input -/

theorem replies_length (t : Timing) (p : Page) (texts : List String) :
    (replies t p texts).length = texts.countP answerable := by
  induction texts generalizing t p with
  | nil => rfl
  | cons line rest ih =>
    have answered := reply?_isSome (t.moment 0) p line
    rw [replies_cons, List.length_append, ih, List.countP_cons, Nat.add_comm, ← answered]
    cases p.reply? (t.moment 0) line with
    | none => rfl
    | some _ => rfl

theorem newline_not_mem_reply? {now : Moment} {p : Page} {line : String} {reply : Json}
    (answered : p.reply? now line = some reply) : '\n' ∉ reply.compactChars := by
  unfold reply? at answered
  split at answered
  · cases answered
  · split at answered
    · cases answered
      exact PageResponse.newline_not_mem _
    · cases answered
      decide
    · cases answered
    · cases answered
      exact PageResponse.newline_not_mem _

/-- Serving is a fold over the lines: the replies stand in the order of the lines that have one,
each on a line of its own, only page requests change the page, and the input may be cut after any
line feed. -/
theorem serve_answers_in_order (t : Timing) (p : Page) (input : List UInt8) (texts : List String)
    (decoded : (Text.lines input).map Text.decodeLine? = texts.map some) :
    (p.serve t .sound input).value =
        ⟨(replies t p texts).map written, none, p.acceptAll (requests t texts)⟩ ∧
      (replies t p texts).length = texts.countP answerable ∧
      (∀ reply ∈ replies t p texts, '\n' ∉ reply.compactChars) ∧
      ∀ x y, input = x ++ [Text.lineFeed] ++ y →
        p.serve t .sound input =
          (p.serve t .sound (x ++ [Text.lineFeed]) >>= fun first =>
            first.andThen <$>
              first.page.serve (t.later (Text.lines (x ++ [Text.lineFeed])).length) .sound y) := by
  refine ⟨serveLines_value decoded t p, replies_length t p texts, ?_, ?_⟩
  · intro reply given
    obtain ⟨⟨line, i⟩, _, answered⟩ := List.mem_filterMap.mp given
    exact newline_not_mem_reply? answered
  · intro x y cut
    subst cut
    rw [Text.lines_append, List.map_append] at decoded
    obtain ⟨early, late, rfl, first, _⟩ := List.map_eq_append_iff.mp decoded.symm
    rw [serve, Text.lines_append, serveLines_append first.symm]
    rfl

theorem serve_capture_then_unknown :
    let p : Page := ⟨.ofString "Text('a')", {}, none⟩
    let now : Moment := ⟨0, ⟨2024, 1, 1, 0, 0, 0, 0, 0, rfl, rfl, rfl⟩⟩
    let served := (p.serve now .sound "[\"CATCH\",\"Text\"]\n\nx\n".toUTF8.data.toList).value
    served.out = [written (PageResponse.toJson ⟨true, "Widget copied successfully"⟩),
      written PageResponse.error.toJson] ∧
    served.error = none ∧ served.page.document.selection = ⟨0, 9⟩ := by
  intro p now served
  have decoded : (Text.lines "[\"CATCH\",\"Text\"]\n\nx\n".toUTF8.data.toList).map
      Text.decodeLine? = ["[\"CATCH\",\"Text\"]", "", "x"].map some := by decide
  have answers : served = _ := (serve_answers_in_order now p _ _ decoded).1
  have shown : Text.isBlankText "[\"CATCH\",\"Text\"]".toList = false := by cbv
  have read : Message.read? "[\"CATCH\",\"Text\"]".toList =
      some (.page ⟨.capture, some "Text"⟩) := by cbv
  have taken : (p.accept now ⟨.capture, some "Text"⟩).1 =
      ⟨true, "Widget copied successfully"⟩ := by cbv
  have selected : (p.accept now ⟨.capture, some "Text"⟩).2.document.selection = ⟨0, 9⟩ := by
    cbv
  have blank (p : Page) : p.reply? now "" = none := rfl
  have unread : Message.read? "x".toList = none := by cbv
  have unknown (p : Page) : p.reply? now "x" = some PageResponse.error.toJson := by
    simp only [reply?, unread, show Text.isBlankText "x".toList = false by cbv]
    rfl
  have quiet : request? "" = none ∧ request? "x" = none := ⟨rfl, by cbv⟩
  rw [answers]
  refine ⟨?_, rfl, ?_⟩
  · simp only [replies_cons, reply?_page shown read, Timing.steady_moment, Timing.steady_later,
      blank, unknown, taken]
    rfl
  · simp only [acceptAll_requests_cons, after, request?_page shown read, quiet,
      Timing.steady_moment, Timing.steady_later, Option.map_some, Option.map_none,
      Option.getD_some, Option.getD_none, requests_nil, acceptAll_nil, selected]

end Page

end CallCapture

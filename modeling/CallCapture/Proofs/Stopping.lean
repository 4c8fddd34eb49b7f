import CallCapture.Proofs.Session

/-! Serving that stops has done what it does with a sound outlet on the input cut after the last
line taken up, but for the reply that was lost. -/

namespace CallCapture

namespace Text

def firstLines : Nat → List UInt8 → List UInt8
  | 0, _ => []
  | n + 1, bytes =>
    bytes.takeWhile (· != lineFeed) ++
      match bytes.dropWhile (· != lineFeed) with
      | [] => []
      | feed :: rest => feed :: firstLines n rest

theorem ne_lineFeed {line : List UInt8} (noFeed : lineFeed ∉ line) :
    ∀ b ∈ line, (b != lineFeed) = true := by
  intro b member
  rw [bne_iff_ne]
  rintro rfl
  exact noFeed member

theorem firstLines_append_feed {line : List UInt8} (noFeed : lineFeed ∉ line) (n : Nat)
    (rest : List UInt8) :
    firstLines (n + 1) (line ++ lineFeed :: rest) = line ++ lineFeed :: firstLines n rest := by
  rw [firstLines, List.takeWhile_append_of_pos (ne_lineFeed noFeed),
    List.dropWhile_append_of_pos (ne_lineFeed noFeed)]
  simp

theorem firstLines_of_not_mem {line : List UInt8} (noFeed : lineFeed ∉ line) (n : Nat) :
    firstLines (n + 1) line = line := by
  rw [firstLines, List.takeWhile_eq_self_iff.mpr (ne_lineFeed noFeed),
    List.dropWhile_eq_nil_iff.mpr (ne_lineFeed noFeed), List.append_nil]

theorem lines_append_feed {line : List UInt8} (noFeed : lineFeed ∉ line) (rest : List UInt8) :
    lines (line ++ lineFeed :: rest) = stripReturn line :: lines rest := by
  have cut : (line ++ lineFeed :: rest).splitOn lineFeed = [line] ++ rest.splitOn lineFeed :=
    List.splitOn_append_cons_self_of_not_mem noFeed rest
  rw [lines, cut, endLines_append (List.splitOn_ne_nil _ _)]
  rfl

theorem length_lines_of_not_mem {line : List UInt8} (noFeed : lineFeed ∉ line) :
    (lines line).length ≤ 1 := by
  rw [lines, List.splitOn_eq_singleton noFeed]
  cases line with
  | nil => exact Nat.zero_le _
  | cons b line => exact Nat.le_refl _

theorem lines_firstLines (n : Nat) (input : List UInt8) :
    lines (firstLines n input) = (lines input).take n := by
  induction n generalizing input with
  | zero => rfl
  | succ n ih =>
    by_cases feed : lineFeed ∈ input
    · obtain ⟨line, rest, rfl, noFeed⟩ := List.eq_append_cons_of_mem feed
      rw [firstLines_append_feed noFeed, lines_append_feed noFeed, lines_append_feed noFeed, ih,
        List.take_succ_cons]
    · have short := length_lines_of_not_mem feed
      rw [firstLines_of_not_mem feed, List.take_of_length_le (by omega)]

theorem firstLines_prefix (n : Nat) (input : List UInt8) : firstLines n input <+: input := by
  induction n generalizing input with
  | zero => exact List.nil_prefix
  | succ n ih =>
    by_cases feed : lineFeed ∈ input
    · obtain ⟨line, rest, rfl, noFeed⟩ := List.eq_append_cons_of_mem feed
      rw [firstLines_append_feed noFeed]
      exact (List.prefix_append_right_inj line).mpr (List.cons_prefix_cons.mpr ⟨rfl, ih rest⟩)
    · rw [firstLines_of_not_mem feed]

end Text

theorem Logged.bind_congr {α β : Type} {x : Logged α} {f g : α → Logged β}
    (same : f x.value = g x.value) : x >>= f = x >>= g := by
  apply Logged.ext
  · rw [bind_value, bind_value, same]
  · rw [bind_entries, bind_entries, same]

def Outlet.fails (o : Outlet) (n : Nat) : Bool := o.writeFails n || o.flushFails n

namespace Page

/-- The first lines of an input are served undisturbed: they can be read, as the texts given, and
the replies to them get out. -/
structure Undisturbed (outlet : Outlet) (lines : List (List UInt8)) (texts : List String) :
    Prop where
  readable : (lines.take texts.length).map Text.decodeLine? = texts.map some
  delivered : ∀ n < texts.countP answerable, outlet.fails n = false

/-- What stops serving at the line after these texts: it cannot be read, or the reply to it cannot
be written or flushed. -/
inductive StopsAfter (outlet : Outlet) (lines : List (List UInt8)) (texts : List String) :
    ServeError → Prop
  | read {line : List UInt8} (reached : lines[texts.length]? = some line)
      (unreadable : Text.decodeLine? line = none) : StopsAfter outlet lines texts .read
  | write {line : List UInt8} {text : String} (reached : lines[texts.length]? = some line)
      (readable : Text.decodeLine? line = some text) (answered : answerable text = true)
      (unwritten : outlet.writeFails (texts.countP answerable) = true) :
      StopsAfter outlet lines texts .write
  | flush {line : List UInt8} {text : String} (reached : lines[texts.length]? = some line)
      (readable : Text.decodeLine? line = some text) (answered : answerable text = true)
      (written : outlet.writeFails (texts.countP answerable) = false)
      (unflushed : outlet.flushFails (texts.countP answerable) = true) :
      StopsAfter outlet lines texts .flush

/-! ### One line -/

theorem serveLines_delivered {line : List UInt8} {text : String}
    (decoded : Text.decodeLine? line = some text) (t : Timing) (outlet : Outlet)
    (taken flushed : Nat) (p : Page) (rest : List (List UInt8))
    (delivered : answerable text = true → outlet.fails flushed = false) :
    serveLines t outlet taken flushed p (line :: rest) =
      (p.answerLine (t.moment taken) text.toList >>= fun (reply, p) =>
        serveLines t outlet (taken + 1) (flushed + if answerable text then 1 else 0) p rest >>=
          fun served => pure { served with out := (reply.map written).toList ++ served.out }) := by
  have answered := reply?_isSome (t.moment taken) p text
  rw [serveLines, decoded]
  apply Logged.bind_congr
  rw [answerLine_value]
  cases reply : p.reply? (t.moment taken) text with
  | none =>
    rw [reply] at answered
    apply Logged.ext
    · rw [← answered]
      rfl
    · rw [← answered]
      exact (List.append_nil _).symm
  | some j =>
    rw [reply] at answered
    have out := delivered answered.symm
    rw [Outlet.fails, Bool.or_eq_false_iff] at out
    simp only [out.1, out.2, ← answered, Option.isSome_some, Bool.false_eq_true, if_false, if_true]
    rfl

theorem serveLines_unwritten {line : List UInt8} {text : String}
    (decoded : Text.decodeLine? line = some text) (answered : answerable text = true)
    {outlet : Outlet} {flushed : Nat} (unwritten : outlet.writeFails flushed = true) (t : Timing)
    (taken : Nat) (p : Page) (rest : List (List UInt8)) :
    serveLines t outlet taken flushed p (line :: rest) =
      (p.answerLine (t.moment taken) text.toList >>= fun (_, p) => pure ⟨[], some .write, p⟩) := by
  have some := reply?_isSome (t.moment taken) p text
  rw [serveLines, decoded]
  apply Logged.bind_congr
  rw [answerLine_value]
  obtain ⟨reply, given⟩ := Option.isSome_iff_exists.mp (some.trans answered)
  simp only [given, unwritten, if_true]

theorem serveLines_unflushed {line : List UInt8} {text : String}
    (decoded : Text.decodeLine? line = some text) (answered : answerable text = true)
    {outlet : Outlet} {flushed : Nat} (out : outlet.writeFails flushed = false)
    (unflushed : outlet.flushFails flushed = true) (t : Timing) (taken : Nat) (p : Page)
    (rest : List (List UInt8)) :
    serveLines t outlet taken flushed p (line :: rest) =
      (p.answerLine (t.moment taken) text.toList >>= fun (reply, p) =>
        pure ⟨(reply.map written).toList, some .flush, p⟩) := by
  have some := reply?_isSome (t.moment taken) p text
  rw [serveLines, decoded]
  apply Logged.bind_congr
  rw [answerLine_value]
  obtain ⟨reply, given⟩ := Option.isSome_iff_exists.mp (some.trans answered)
  simp only [given, out, unflushed, if_true, Bool.false_eq_true, if_false]
  rfl

theorem serveLines_singleton {line : List UInt8} {text : String}
    (decoded : Text.decodeLine? line = some text) (t : Timing) (p : Page) :
    serveLines t .sound 0 0 p [line] =
      (p.answerLine (t.moment 0) text.toList >>= fun (reply, p) =>
        pure ⟨(reply.map written).toList, none, p⟩) := by
  rw [serveLines_cons decoded]
  simp only [serveLines, pure_bind, List.append_nil]

/-! ### Lines served undisturbed -/

theorem serveLines_undisturbed {first : List (List UInt8)} {texts : List String}
    (decoded : first.map Text.decodeLine? = texts.map some) (t : Timing) {outlet : Outlet}
    (taken : Nat) {flushed : Nat}
    (delivered : ∀ n < texts.countP answerable, outlet.fails (flushed + n) = false) (p : Page)
    (rest : List (List UInt8)) :
    serveLines t outlet taken flushed p (first ++ rest) =
      (serveLines (t.later taken) .sound 0 0 p first >>= fun served =>
        served.andThen <$>
          serveLines t outlet (taken + first.length) (flushed + texts.countP answerable)
            served.page rest) := by
  -- a line may use up one of the replies that get out, so `flushed` varies with the texts
  induction first generalizing taken flushed p texts with
  | nil =>
    cases List.map_eq_nil_iff.mp decoded.symm
    simp only [List.nil_append, List.length_nil, List.countP_nil, Nat.add_zero, serveLines,
      pure_bind]
    exact (id_map _).symm
  | cons line first ih =>
    obtain ⟨text, texts, rfl, read, decoded⟩ := List.map_eq_cons_iff.mp decoded.symm
    rw [List.countP_cons] at delivered
    have here : answerable text = true → outlet.fails flushed = false := by
      intro answered
      rw [if_pos answered] at delivered
      exact delivered 0 (Nat.succ_pos _)
    have later : ∀ n < texts.countP answerable,
        outlet.fails (flushed + (if answerable text then 1 else 0) + n) = false := by
      intro n near
      rw [Nat.add_assoc]
      exact delivered _ (by omega)
    rw [List.cons_append, serveLines_delivered read.symm t outlet taken flushed p _ here,
      serveLines_cons read.symm, bind_assoc, Timing.later_moment, Nat.add_zero]
    have lines : taken + 1 + first.length = taken + (first.length + 1) := by omega
    have sent : flushed + (if answerable text then 1 else 0) + texts.countP answerable =
        flushed + (texts.countP answerable + if answerable text then 1 else 0) := by omega
    congr 1
    funext replied
    obtain ⟨reply, p⟩ := replied
    dsimp only
    rw [ih decoded.symm (taken + 1) later, lines, sent]
    simp only [bind_assoc, pure_bind, map_eq_pure_bind, Timing.later_later, List.length_cons,
      Served.andThen, List.append_assoc, List.countP_cons]

/-! ### Stopping -/

namespace Undisturbed

variable {outlet : Outlet} {lines : List (List UInt8)} {texts : List String}

theorem nothing (outlet : Outlet) (lines : List (List UInt8)) : Undisturbed outlet lines [] where
  readable := rfl
  delivered := fun n none => absurd none (Nat.not_lt_zero n)

theorem length_take (h : Undisturbed outlet lines texts) :
    (lines.take texts.length).length = texts.length := by
  have same := congrArg List.length h.readable
  rwa [List.length_map, List.length_map] at same

theorem length_le (h : Undisturbed outlet lines texts) : texts.length ≤ lines.length := by
  have taken := h.length_take
  rw [List.length_take] at taken
  omega

theorem snoc_or_stops (h : Undisturbed outlet lines texts) :
    texts.length = lines.length ∨ (∃ e, StopsAfter outlet lines texts e) ∨
      ∃ text, Undisturbed outlet lines (texts ++ [text]) := by
  rcases Nat.lt_or_eq_of_le h.length_le with more | all
  swap
  · exact .inl all
  right
  obtain ⟨line, reached⟩ : ∃ line, lines[texts.length]? = some line :=
    ⟨_, List.getElem?_eq_getElem more⟩
  cases decoded : Text.decodeLine? line with
  | none => exact .inl ⟨_, .read reached decoded⟩
  | some text =>
    by_cases lost : answerable text = true ∧ outlet.fails (texts.countP answerable) = true
    · left
      cases write : outlet.writeFails (texts.countP answerable) with
      | true => exact ⟨_, .write reached decoded lost.1 write⟩
      | false =>
        have flush := lost.2
        rw [Outlet.fails, write, Bool.false_or] at flush
        exact ⟨_, .flush reached decoded lost.1 write flush⟩
    · right
      refine ⟨text, ?_, ?_⟩
      · have next : lines.take (texts ++ [text]).length = lines.take texts.length ++ [line] := by
          rw [List.length_append, List.length_singleton, List.take_add_one, reached]
          rfl
        rw [next, List.map_append, h.readable, List.map_append, List.map_singleton, decoded]
        rfl
      · intro n near
        rw [List.countP_append, List.countP_singleton] at near
        by_cases before : n < texts.countP answerable
        · exact h.delivered n before
        · have answered : answerable text = true := by
            by_contra unanswered
            rw [if_neg unanswered] at near
            exact before near
          rw [if_pos answered] at near
          obtain rfl : n = texts.countP answerable := by omega
          exact Bool.eq_false_iff.mpr fun fails => lost ⟨answered, fails⟩

/-- Every input is served undisturbed to its end, or up to something that stops it. -/
theorem exists_stop (outlet : Outlet) (lines : List (List UInt8)) :
    ∃ texts, Undisturbed outlet lines texts ∧
      (texts.length = lines.length ∨ ∃ e, StopsAfter outlet lines texts e) := by
  have onwards (left : Nat) : ∀ texts, Undisturbed outlet lines texts →
      texts.length + left = lines.length → ∃ texts, Undisturbed outlet lines texts ∧
        (texts.length = lines.length ∨ ∃ e, StopsAfter outlet lines texts e) := by
    induction left with
    | zero => exact fun texts h all => ⟨texts, h, .inl all⟩
    | succ left ih =>
      intro texts h more
      rcases h.snoc_or_stops with all | stops | ⟨text, longer⟩
      · exact ⟨texts, h, .inl all⟩
      · exact ⟨texts, h, .inr stops⟩
      · refine ih _ longer ?_
        rw [List.length_append, List.length_singleton]
        omega
  exact onwards lines.length [] (nothing outlet lines) (Nat.zero_add _)

variable (h : Undisturbed outlet lines texts) (t : Timing) (p : Page)
include h

theorem serveLines_eq :
    serveLines t outlet 0 0 p lines =
      (serveLines t .sound 0 0 p (lines.take texts.length) >>= fun served =>
        served.andThen <$>
          serveLines t outlet texts.length (texts.countP answerable) served.page
            (lines.drop texts.length)) := by
  have delivered : ∀ n < texts.countP answerable, outlet.fails (0 + n) = false := by
    intro n near
    rw [Nat.zero_add]
    exact h.delivered n near
  have cut := serveLines_undisturbed h.readable t 0 delivered p (lines.drop texts.length)
  rw [List.take_append_drop, Timing.later_zero, h.length_take, Nat.zero_add, Nat.zero_add] at cut
  exact cut

theorem serveLines_through {line : List UInt8} {text : String}
    (reached : lines[texts.length]? = some line) (readable : Text.decodeLine? line = some text) :
    serveLines t .sound 0 0 p (lines.take (texts.length + 1)) =
      (serveLines t .sound 0 0 p (lines.take texts.length) >>= fun served =>
        served.page.answerLine (t.moment texts.length) text.toList >>= fun (reply, p) =>
          pure ⟨served.out ++ (reply.map written).toList, none, p⟩) := by
  have next : lines.take (texts.length + 1) = lines.take texts.length ++ [line] := by
    rw [List.take_add_one, reached]
    rfl
  rw [next, serveLines_append h.readable, h.length_take]
  congr 1
  funext served
  rw [serveLines_singleton readable, map_eq_pure_bind, bind_assoc]
  simp only [pure_bind, Served.andThen, Timing.later_moment, Nat.add_zero]

theorem serveLines_ended (all : texts.length = lines.length) :
    serveLines t outlet 0 0 p lines = serveLines t .sound 0 0 p lines := by
  have readable := h.readable
  rw [all, List.take_length] at readable
  have unstopped := congrArg Served.error (serveLines_value readable t p)
  rw [h.serveLines_eq, all, List.take_length, List.drop_length]
  simp only [serveLines, map_pure, Served.andThen, List.append_nil]
  apply Logged.ext
  · rw [Logged.bind_value, Logged.pure_value]
    congr 1
    exact unstopped.symm
  · exact List.append_nil _

theorem serveLines_read (stops : StopsAfter outlet lines texts .read) :
    serveLines t outlet 0 0 p lines =
      (fun s => ⟨s.out, some .read, s.page⟩) <$>
        serveLines t .sound 0 0 p (lines.take texts.length) := by
  cases stops with
  | read reached unreadable =>
    obtain ⟨short, rfl⟩ := List.getElem?_eq_some_iff.mp reached
    rw [h.serveLines_eq, List.drop_eq_getElem_cons short, map_eq_pure_bind]
    congr 1
    funext served
    simp only [serveLines, unreadable, map_pure, Served.andThen, List.append_nil]

theorem serveLines_write (stops : StopsAfter outlet lines texts .write) :
    serveLines t outlet 0 0 p lines =
      (fun s => ⟨(serveLines t .sound 0 0 p (lines.take texts.length)).value.out, some .write,
        s.page⟩) <$> serveLines t .sound 0 0 p (lines.take (texts.length + 1)) := by
  cases stops with
  | write reached readable answered unwritten =>
    rw [h.serveLines_eq, h.serveLines_through t p reached readable, map_eq_pure_bind, bind_assoc]
    apply Logged.bind_congr
    obtain ⟨short, rfl⟩ := List.getElem?_eq_some_iff.mp reached
    rw [List.drop_eq_getElem_cons short, serveLines_unwritten readable answered unwritten]
    simp only [map_eq_pure_bind, bind_assoc, pure_bind, Served.andThen, List.append_nil]

theorem serveLines_flush (stops : StopsAfter outlet lines texts .flush) :
    serveLines t outlet 0 0 p lines =
      (fun s => ⟨s.out, some .flush, s.page⟩) <$>
        serveLines t .sound 0 0 p (lines.take (texts.length + 1)) := by
  cases stops with
  | flush reached readable answered out unflushed =>
    rw [h.serveLines_eq, h.serveLines_through t p reached readable, map_eq_pure_bind, bind_assoc]
    congr 1
    funext served
    obtain ⟨short, rfl⟩ := List.getElem?_eq_some_iff.mp reached
    rw [List.drop_eq_getElem_cons short, serveLines_unflushed readable answered out unflushed]
    simp only [map_eq_pure_bind, bind_assoc, pure_bind, Served.andThen]

theorem out_through {e : ServeError} (stops : StopsAfter outlet lines texts e)
    (answered : e ≠ .read) :
    ∃ reply, (serveLines t .sound 0 0 p (lines.take (texts.length + 1))).value.out =
      (serveLines t .sound 0 0 p (lines.take texts.length)).value.out ++ [written reply] := by
  obtain ⟨line, text, reached, readable, answer⟩ : ∃ line text, lines[texts.length]? = some line ∧
      Text.decodeLine? line = some text ∧ answerable text = true := by
    cases stops with
    | read _ _ => exact absurd rfl answered
    | write reached readable answer _ => exact ⟨_, _, reached, readable, answer⟩
    | flush reached readable answer _ _ => exact ⟨_, _, reached, readable, answer⟩
  rw [h.serveLines_through t p reached readable]
  simp only [Logged.bind_value, answerLine_value, Logged.pure_value]
  generalize (serveLines t .sound 0 0 p (lines.take texts.length)).value = served
  have given := (reply?_isSome (t.moment texts.length) served.page text).trans answer
  obtain ⟨reply, given⟩ := Option.isSome_iff_exists.mp given
  exact ⟨reply, by rw [given]; rfl⟩

end Undisturbed

/-- Serving stops at the first line that cannot be read, or whose reply cannot be written or
flushed, and nowhere else. It leaves the page and the journal that serving the lines up to there
leaves, the last one included when it is the reply to it that fails, and its output is their
replies, without the one that could not be written. -/
theorem serve_stops_at_failure (t : Timing) (outlet : Outlet) (p : Page) (input : List UInt8) :
    (∀ n, Text.firstLines n input <+: input ∧
      Text.lines (Text.firstLines n input) = (Text.lines input).take n) ∧
    (∃ texts, Undisturbed outlet (Text.lines input) texts ∧
      (texts.length = (Text.lines input).length ∨
        ∃ e, StopsAfter outlet (Text.lines input) texts e)) ∧
    ∀ texts, Undisturbed outlet (Text.lines input) texts →
      let before := p.serve t .sound (Text.firstLines texts.length input)
      let through := p.serve t .sound (Text.firstLines (texts.length + 1) input)
      before.value = ⟨(replies t p texts).map written, none, p.acceptAll (requests t texts)⟩ ∧
      (replies t p texts).length = texts.countP answerable ∧
      (texts.length = (Text.lines input).length →
        p.serve t outlet input = p.serve t .sound input) ∧
      (StopsAfter outlet (Text.lines input) texts .read →
        p.serve t outlet input = (fun s => ⟨s.out, some .read, s.page⟩) <$> before) ∧
      (StopsAfter outlet (Text.lines input) texts .write →
        p.serve t outlet input =
          (fun s => ⟨before.value.out, some .write, s.page⟩) <$> through) ∧
      (StopsAfter outlet (Text.lines input) texts .flush →
        p.serve t outlet input = (fun s => ⟨s.out, some .flush, s.page⟩) <$> through) ∧
      ∀ e ≠ .read, StopsAfter outlet (Text.lines input) texts e →
        ∃ reply, through.value.out = before.value.out ++ [written reply] := by
  refine ⟨fun n => ⟨Text.firstLines_prefix n input, Text.lines_firstLines n input⟩,
    Undisturbed.exists_stop outlet _, ?_⟩
  intro texts h
  simp only [serve, Text.lines_firstLines]
  exact ⟨serveLines_value h.readable t p, replies_length t p texts, h.serveLines_ended t p,
    h.serveLines_read t p, h.serveLines_write t p, h.serveLines_flush t p,
    fun e answered stops => h.out_through t p stops answered⟩

theorem serve_stops_at_second_reply :
    let p : Page := ⟨.ofString "Row(a) Text(b)", {}, none⟩
    let now : Moment := ⟨0, ⟨2024, 1, 1, 0, 0, 0, 0, 0, rfl, rfl, rfl⟩⟩
    let outlet : Outlet := { writeFails := fun n => n = 1 }
    let input := "[\"CATCH\",\"Row\"]\n\n[\"CATCH\",\"Text\"]\n[\"CATCH\",\"Row\"]\n"
    let served := (p.serve now outlet input.toUTF8.data.toList).value
    served.out = [written (PageResponse.toJson ⟨true, "Widget copied successfully"⟩)] ∧
      served.error = some .write ∧ served.page.document.selection = ⟨7, 14⟩ := by
  intro p now outlet input served
  let row := "[\"CATCH\",\"Row\"]"
  let text := "[\"CATCH\",\"Text\"]"
  have lines : Text.lines input.toUTF8.data.toList =
      [row, "", text, row].map fun line => line.toUTF8.data.toList := by decide
  have row_shown : Text.isBlankText row.toList = false := by cbv
  have text_shown : Text.isBlankText text.toList = false := by cbv
  have row_read : Message.read? row.toList = some (.page ⟨.capture, some "Row"⟩) := by cbv
  have text_read : Message.read? text.toList = some (.page ⟨.capture, some "Text"⟩) := by cbv
  have blank (p : Page) : p.reply? now "" = none := rfl
  have quiet : request? "" = none := rfl
  have once : [row, ""].countP answerable = 1 := by cbv
  have undisturbed : Undisturbed outlet (Text.lines input.toUTF8.data.toList) [row, ""] := by
    refine ⟨by decide, ?_⟩
    rw [once]
    decide
  have stops : StopsAfter outlet (Text.lines input.toUTF8.data.toList) [row, ""] .write := by
    have reached : (Text.lines input.toUTF8.data.toList)[[row, ""].length]? =
        some text.toUTF8.data.toList := by
      rw [lines]
      rfl
    have readable : Text.decodeLine? text.toUTF8.data.toList = some text := by decide
    refine .write reached readable (by cbv) ?_
    rw [once]
    decide
  obtain ⟨cut, _, always⟩ := serve_stops_at_failure now outlet p input.toUTF8.data.toList
  obtain ⟨before, _, _, _, write, _⟩ := always _ undisturbed
  have stopped : served = _ := congrArg Logged.value (write stops)
  have through : ((Text.lines input.toUTF8.data.toList).take 3).map Text.decodeLine? =
      [row, "", text].map some := by decide
  rw [← (cut 3).2] at through
  have reached := serveLines_value through now p
  have taken : (p.accept now ⟨.capture, some "Row"⟩).1 =
      ⟨true, "Widget copied successfully"⟩ := by cbv
  have selected : ((p.accept now ⟨.capture, some "Row"⟩).2.accept now
      ⟨.capture, some "Text"⟩).2.document.selection = ⟨7, 14⟩ := by cbv
  rw [stopped]
  refine ⟨(congrArg Served.out before).trans ?_, rfl,
    (congrArg (fun s => s.page.document.selection) reached).trans ?_⟩
  · simp only [replies_cons, reply?_page row_shown row_read, Timing.steady_moment,
      Timing.steady_later, blank, taken]
    rfl
  · simp only [acceptAll_requests_cons, after, request?_page row_shown row_read,
      request?_page text_shown text_read, quiet, Timing.steady_moment, Timing.steady_later,
      Option.map_some, Option.map_none, Option.getD_some, Option.getD_none, requests_nil,
      acceptAll_nil, selected]

end Page

end CallCapture

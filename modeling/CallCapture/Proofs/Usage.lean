import CallCapture.Proofs.Counting

/-! Captures, pages and runs share the file of a tally one after another, and it tells how many of
them were successes. -/

namespace CallCapture

inductive Use
  | capture (c : Capturer) (now : Moment) (d : Document) (hint : Option String)
  | shortcut (c : Capturer) (now : Moment) (d : Document)
  | act (p : Page) (a : Page.Action)
  | launch (l : Launch)

namespace Use

def found : Use → Disk
  | .capture c _ _ _ => c.disk
  | .shortcut c _ _ => c.disk
  | .act p _ => p.capturer.disk
  | .launch l => l.surroundings.disk

def left : Use → Disk
  | .capture c now d hint => (c.capture now d hint).value.2.2.disk
  | .shortcut c now d => (c.captureShortcut now d).value.2.2.disk
  | .act p a => (p.act a).capturer.disk
  | .launch l => l.outcome.disk

def reports : Use → List Report
  | .capture c now d hint => [(c.capture now d hint).value.1]
  | .shortcut c now d => (c.captureShortcut now d).value.1.toList
  | .act p a => p.reports a.steps
  | .launch l => l.reports

def CountsIn (store : TallyStore) : Use → Prop
  | .capture c _ _ _ => c.store = some store
  | .shortcut c _ _ => c.store = some store
  | .act p _ => p.capturer.store = some store
  | .launch l => l.CountsIn store

theorem counts {store : TallyStore} {u : Use} (counting : u.CountsIn store) :
    store.Counts u.found u.left u.reports := by
  cases u with
  | capture c now d hint => exact (Capturer.capture_counts counting now d hint).1
  | shortcut c now d => exact (Capturer.captureShortcut_counts counting now d).1
  | act p a => exact Page.act_counts counting a
  | launch l => exact Launch.counts counting

end Use

namespace TallyStore

/-- The disk may have changed, but not for the tally. -/
structure Undisturbed (store : TallyStore) (d d' : Disk) : Prop where
  load : store.load d' = store.load d
  writable : store.Writable d → store.Writable d'

/-- Uses that follow one another, each finding the tally as the one before left it. -/
def InTurn (store : TallyStore) : Disk → List Use → Prop
  | _, [] => True
  | d, u :: later => store.Undisturbed d u.found ∧ u.CountsIn store ∧ store.InTurn u.left later

def leftBy (d : Disk) (uses : List Use) : Disk := uses.foldl (fun _ u => u.left) d

def caught (uses : List Use) : Nat := successes (uses.flatMap Use.reports)

variable {store : TallyStore} {d : Disk} {t : Tally} {u : Use} {uses earlier later : List Use}

theorem caught_cons : caught (u :: uses) = successes u.reports + caught uses := by
  simp only [caught, successes, List.flatMap_cons, List.countP_append]

theorem InTurn.split (inTurn : store.InTurn d (earlier ++ later)) :
    store.InTurn d earlier ∧ store.InTurn (leftBy d earlier) later := by
  induction earlier generalizing d with
  | nil => exact ⟨trivial, inTurn⟩
  | cons u earlier ih =>
    obtain ⟨undisturbed, counting, rest⟩ := inTurn
    obtain ⟨first, second⟩ := ih rest
    exact ⟨⟨undisturbed, counting, first⟩, second⟩

theorem increments_of_use {n : Nat} (counting : u.CountsIn store)
    (writable : store.Writable u.found) (loaded : store.load u.found = .ok t)
    (count : t.count = Tally.saturated n) :
    ∃ nows, nows.length = successes u.reports ∧
      store.increments nows u.found =
        ((List.range nows.length).map fun i => .ok (Tally.saturated (n + i + 1)), u.left) ∧
      store.load u.left =
        .ok ⟨Tally.saturated (n + successes u.reports), nows.getLast?.or t.lastAt⟩ ∧
      store.Writable u.left := by
  obtain ⟨nows, length, left⟩ := Use.counts counting
  obtain ⟨results, last, still⟩ := increments_writable writable loaded count nows
  rw [← left] at last still
  rw [length] at last
  exact ⟨nows, length, Prod.ext results left.symm, last, still⟩

theorem InTurn.leaves {n : Nat} (inTurn : store.InTurn d uses) (writable : store.Writable d)
    (loaded : store.load d = .ok t) (count : t.count = Tally.saturated n) :
    store.Writable (leftBy d uses) ∧ ∃ t', store.load (leftBy d uses) = .ok t' ∧
      t'.count = Tally.saturated (n + caught uses) ∧
      (0 < caught uses ∨ t.lastAt.isSome → t'.lastAt.isSome) := by
  induction uses generalizing d t n with
  | nil =>
    refine ⟨writable, t, loaded, count, ?_⟩
    rintro (none | dated)
    · cases none
    · exact dated
  | cons u uses ih =>
    obtain ⟨undisturbed, counting, rest⟩ := inTurn
    obtain ⟨nows, length, _, last, still⟩ := increments_of_use counting
      (undisturbed.writable writable) (undisturbed.load.trans loaded) count
    obtain ⟨writable', t', loaded', count', dated⟩ := ih rest still last rfl
    refine ⟨writable', t', loaded', ?_, ?_⟩
    · rw [count', caught_cons, Nat.add_assoc]
    · intro some
      apply dated
      rw [caught_cons] at some
      cases nows with
      | nil =>
        rw [← length] at some
        simpa using some
      | cons now nows => simp [List.getLast?_cons]

/-- After uses in turn the file holds the number of successes, on top of what it held before, and
the moment of the last of them. Each count on the way gives the number so far, and so does each
run that asks for it; and what one count writes, the next load reads. -/
theorem uses_counted {start : Tally} (loaded : store.load d = .ok start)
    (writable : store.Writable d) (inTurn : store.InTurn d uses) :
    (∃ t, store.load (leftBy d uses) = .ok t ∧
      t.count.toNat = min (start.count.toNat + caught uses) (2 ^ 64 - 1) ∧
      (0 < caught uses → t.lastAt.isSome)) ∧
    (∀ earlier u later, uses = earlier ++ u :: later →
      (∃ nows, nows.length = successes u.reports ∧
        store.increments nows u.found =
          ((List.range nows.length).map fun i =>
            .ok (Tally.saturated (start.count.toNat + caught earlier + i + 1)), u.left)) ∧
      ∀ l config, u = .launch l → Invocation.read l.arguments = .ok ⟨config, .stats⟩ →
        l.surroundings.environment.journalFilter?.isSome →
        l.outcome.output = s!"{min (start.count.toNat + caught earlier) (2 ^ 64 - 1)}\n" ∧
          l.outcome.failure = none) ∧
    ∀ now d n d', store.increment now d = (.ok n, d') → store.load d' = .ok ⟨n, some now⟩ := by
  have count := (Tally.saturated_toNat start.count).symm
  refine ⟨?_, ?_, fun now d n d' counted => load_increment counted⟩
  · obtain ⟨_, t, last, total, dated⟩ := inTurn.leaves writable loaded count
    exact ⟨t, last, by rw [total, Tally.toNat_saturated]; rfl, fun some => dated (.inl some)⟩
  · rintro earlier u later rfl
    obtain ⟨first, undisturbed, counting, _⟩ := inTurn.split
    obtain ⟨writable', t, last, total, _⟩ := first.leaves writable loaded count
    have found := undisturbed.load.trans last
    obtain ⟨nows, length, counts, _⟩ :=
      increments_of_use counting (undisturbed.writable writable') found total
    refine ⟨⟨nows, length, counts⟩, ?_⟩
    rintro l config rfl asks readable
    obtain ⟨output, fine⟩ := Launch.stats_output counting asks readable found
    rw [total, Tally.toNat_saturated] at output
    exact ⟨output, fine⟩

def tallyAtRoot : TallyStore := ⟨⟨"/u"⟩⟩

def diskWithCall : Disk := { entries := [(["a"], .file "A()".toUTF8)] }

theorem newYear_date : isDate 2024 1 1 = true := rfl

theorem newYear_time : isTime 0 0 0 0 = true := rfl

theorem newYear_offset : isOffset 0 = true := rfl

def newYear : Moment :=
  ⟨0, ⟨2024, 1, 1, 0, 0, 0, 0, 0, newYear_date, newYear_time, newYear_offset⟩⟩

def launched (arguments : List String) (disk : Disk) : Launch where
  arguments := arguments
  surroundings :=
    { environment := { values := [("WIDGET_CATCHER_USAGE_FILE", "/u")] }
      disk := disk
      now := newYear }

def capturing : Launch :=
  launched ["catch", "--file=/a", "--select=A", "--no-copy"] diskWithCall

def asking : Launch := launched ["stats"] capturing.outcome.disk

theorem settings_loaded :
    Settings.load capturing.surroundings.environment diskWithCall none =
        .ok { Settings.builtin with tallyPath := some "/u" } ∧
      Settings.load asking.surroundings.environment capturing.outcome.disk none =
        .ok { Settings.builtin with tallyPath := some "/u" } :=
  ⟨rfl, rfl⟩

theorem capturing_asks : Invocation.read capturing.arguments =
    .ok ⟨none, .capture ⟨⟨"/a"⟩, .text "A" 0, true, false⟩⟩ := by
  cbv

theorem capturing_counts : capturing.CountsIn tallyAtRoot := by
  intro i made
  cases made.symm.trans capturing_asks
  exact ⟨_, settings_loaded.1, rfl, rfl⟩

theorem asking_counts : asking.CountsIn tallyAtRoot := by
  have read : Invocation.read asking.arguments = .ok ⟨none, .stats⟩ := rfl
  intro i made
  cases made.symm.trans read
  exact ⟨_, settings_loaded.2, rfl, rfl⟩

theorem uses_counted_capture_then_stats :
    (∃ t, tallyAtRoot.load asking.outcome.disk = .ok t ∧ t.count.toNat = 1 ∧ t.lastAt.isSome) ∧
      asking.outcome.output = "1\n" ∧ asking.outcome.failure = none := by
  have loaded : tallyAtRoot.load diskWithCall = .ok {} := rfl
  have writable : tallyAtRoot.Writable diskWithCall := by decide
  have inTurn : tallyAtRoot.InTurn diskWithCall [.launch capturing, .launch asking] :=
    ⟨⟨rfl, id⟩, capturing_counts, ⟨rfl, id⟩, asking_counts, trivial⟩
  obtain ⟨⟨t, last, total, dated⟩, along, _⟩ := uses_counted loaded writable inTurn
  obtain ⟨_, stats⟩ := along [.launch capturing] (.launch asking) [] rfl
  obtain ⟨output, fine⟩ := stats asking none rfl rfl rfl
  have once : caught [.launch capturing] = 1 := rfl
  have never : caught [.launch capturing, .launch asking] = 1 := rfl
  rw [never] at total dated
  rw [once] at output
  exact ⟨⟨t, last, total, dated Nat.one_pos⟩, output, fine⟩

end TallyStore

end CallCapture

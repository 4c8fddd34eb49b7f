import CallCapture.CommandLine.Run
import CallCapture.Proofs.Handling
import CallCapture.Proofs.Session
import CallCapture.Proofs.Storing

namespace CallCapture

/-- Reports of a success, also of those whose text the clipboard did not take. -/
def successes (reports : List Report) : Nat := reports.countP (·.success)

namespace TallyStore

variable {store : TallyStore} {d d' d'' : Disk} {rs rs' : List Report}

/-- The disk is left by as many counts as there are successes among reports. -/
def Counts (store : TallyStore) (d d' : Disk) (reports : List Report) : Prop :=
  ∃ nows, nows.length = successes reports ∧ d' = (store.increments nows d).2

theorem Counts.nothing (store : TallyStore) (d : Disk) : store.Counts d d [] := ⟨[], rfl, rfl⟩

theorem Counts.failure (store : TallyStore) (d : Disk) {r : Report} (failed : r.success = false) :
    store.Counts d d [r] := ⟨[], by simp [successes, failed], rfl⟩

theorem Counts.success (store : TallyStore) (d : Disk) (now : Timestamp) {r : Report}
    (fine : r.success = true) : store.Counts d (settled (store.increment now d)) [r] :=
  ⟨[now], by simp [successes, fine], rfl⟩

theorem Counts.append (first : store.Counts d d' rs) (later : store.Counts d' d'' rs') :
    store.Counts d d'' (rs ++ rs') := by
  obtain ⟨nows, length, rfl⟩ := first
  obtain ⟨nows', length', rfl⟩ := later
  refine ⟨nows ++ nows', ?_, ?_⟩
  · simp only [List.length_append, length, length', successes, List.countP_append]
  · rw [increments_append]

end TallyStore

/-! ### Captures -/

namespace Capturer

variable {c : Capturer} {store : TallyStore}

theorem deliver_keeps (now : Moment) (c : Capturer) (text name : String) :
    (c.deliver now text name).value.2.2.store = c.store ∧
      (c.deliver now text name).value.2.2.disk = c.disk := by
  simp only [deliver, Logged.bind_value]
  generalize (c.clipboard.copy text).value = r
  obtain ⟨result, clipboard⟩ := r
  cases result with
  | ok method => exact ⟨rfl, rfl⟩
  | error e => exact ⟨rfl, rfl⟩

theorem count_keeps (counting : c.store = some store) (now : Moment) :
    (c.count now).value.store = some store ∧
      (c.count now).value.disk = TallyStore.settled (store.increment now.timestamp c.disk) := by
  simp only [count, counting]
  split
  · exact ⟨rfl, rfl⟩
  · exact ⟨rfl, rfl⟩

theorem capture_counts (counting : c.store = some store) (now : Moment) (d : Document)
    (hint : Option String) :
    store.Counts c.disk (c.capture now d hint).value.2.2.disk [(c.capture now d hint).value.1] ∧
      (c.capture now d hint).value.2.2.store = some store := by
  cases blank : d.selectsBlank with
  | true =>
    rw [capture_blank blank]
    exact ⟨.failure store c.disk rfl, counting⟩
  | false =>
    obtain ⟨e, d', grown, _, _⟩ := Document.expand_shown c.budgets blank
    obtain ⟨sameStore, sameDisk⟩ := c.deliver_keeps now e.text (displayName hint e.text)
    obtain ⟨still, counted⟩ := count_keeps (sameStore.trans counting) now
    rw [capture_expanded grown]
    dsimp only
    rw [counted, sameDisk]
    exact ⟨.success store c.disk now.timestamp rfl, still⟩

theorem captureShortcut_counts (counting : c.store = some store) (now : Moment) (d : Document) :
    store.Counts c.disk (c.captureShortcut now d).value.2.2.disk
        (c.captureShortcut now d).value.1.toList ∧
      (c.captureShortcut now d).value.2.2.store = some store := by
  cases blank : d.selectsBlank with
  | true =>
    rw [captureShortcut_blank blank]
    exact ⟨.nothing store c.disk, counting⟩
  | false =>
    rw [captureShortcut_shown blank]
    exact capture_counts counting now d (some d.selectedText)

end Capturer

/-! ### Pages -/

namespace Page

variable {p : Page} {store : TallyStore}

theorem request_counts (counting : p.capturer.store = some store) (now : Moment)
    (r : PageRequest) :
    store.Counts p.capturer.disk (p.step (.request now r)).capturer.disk
        (p.step (.request now r)).lastReport.toList ∧
      (p.step (.request now r)).capturer.store = some store := by
  obtain ⟨command, widget⟩ := r
  cases command with
  | capture => exact Capturer.capture_counts counting now p.document (some (widget.getD ""))
  | captureShortcut => exact Capturer.captureShortcut_counts counting now p.document

theorem steps_counts (counting : p.capturer.store = some store) (ss : List Step) :
    store.Counts p.capturer.disk (p.steps ss).capturer.disk (p.reports ss) := by
  induction ss generalizing p with
  | nil => exact .nothing store p.capturer.disk
  | cons s ss ih =>
    cases s with
    | edit e => exact ih (p := p.step (.edit e)) counting
    | request now r =>
      obtain ⟨once, still⟩ := request_counts counting now r
      exact once.append (ih still)

theorem act_counts (counting : p.capturer.store = some store) (a : Action) :
    store.Counts p.capturer.disk (p.act a).capturer.disk (p.reports a.steps) := by
  rw [act_eq_steps]
  exact steps_counts counting a.steps

end Page

/-! ### Runs of the command line -/

namespace Surroundings

def captured (s : Surroundings) (settings : Settings) (a : CaptureArguments) : Option Report :=
  match s.document a.file >>= fun d => a.choice.select d with
  | .error _ => none
  | .ok d =>
    some ((s.capturer settings a.noCopy).value.capture s.now d (some d.selectedText)).value.1

def served (s : Surroundings) (settings : Settings) (file : Path) (noCopy : Bool) : List Report :=
  match (s.page settings file noCopy).value with
  | .error _ => []
  | .ok page => page.reports (Page.Action.serve s.now .sound s.input).steps

/-- Captures are counted, and in this file. -/
def CountsIn (s : Surroundings) (settings : Settings) (store : TallyStore) : Prop :=
  settings.countsUsage = true ∧ settings.tallyFile? s.environment = some store.path

variable {s : Surroundings} {settings : Settings} {store : TallyStore}

theorem capturer_counts (counting : s.CountsIn settings store) (noCopy : Bool) :
    (s.capturer settings noCopy).value.store = some store ∧
      (s.capturer settings noCopy).value.disk = s.disk := by
  obtain ⟨enabled, file⟩ := counting
  have kept : (if settings.countsUsage then (settings.tallyFile? s.environment).map TallyStore.mk
      else none) = some store := by
    rw [if_pos enabled, file]
    rfl
  cases noCopy with
  | true => exact ⟨kept, rfl⟩
  | false => exact ⟨kept, rfl⟩

theorem capture_counts (counting : s.CountsIn settings store) (a : CaptureArguments) :
    store.Counts s.disk (s.capture settings a).value.disk (s.captured settings a).toList := by
  obtain ⟨counts, disk⟩ := capturer_counts counting a.noCopy
  unfold capture captured
  cases s.document a.file >>= fun d => a.choice.select d with
  | error e => exact .nothing store s.disk
  | ok d =>
    rw [← disk]
    exact (Capturer.capture_counts counts s.now d (some d.selectedText)).1

theorem capture_shows (s : Surroundings) (settings : Settings) (a : CaptureArguments) :
    (s.capture settings a).value.output =
        (s.captured settings a).elim "" (fun r => r.printed a.json) ∧
      (s.capture settings a).value.failure.isNone =
        (s.captured settings a).any (fun r => r.success) := by
  unfold capture captured
  cases s.document a.file >>= fun d => a.choice.select d with
  | error e => exact ⟨rfl, rfl⟩
  | ok d =>
    simp only [Logged.bind_value, Logged.pure_value, Option.elim_some, Option.any_some, true_and]
    generalize ((s.capturer settings a.noCopy).value.capture s.now d _).value = captured
    cases captured.1.success with
    | true => rfl
    | false => rfl

theorem page_counts (counting : s.CountsIn settings store) {file : Path} {noCopy : Bool}
    {page : Page} (opened : (s.page settings file noCopy).value = .ok page) :
    page.capturer.store = some store ∧ page.capturer.disk = s.disk := by
  unfold Surroundings.page at opened
  split at opened
  · cases opened
  · cases opened
    exact capturer_counts counting noCopy

end Surroundings

/-! ### Whole runs -/

def Invocation.reports (i : Invocation) (s : Surroundings) (settings : Settings) : List Report :=
  match i.task with
  | .capture a => (s.captured settings a).toList
  | .serve file noCopy => s.served settings file noCopy
  | .stats | .info | .completions _ => []

theorem Invocation.start_counts {s : Surroundings} {settings : Settings} {store : TallyStore}
    (i : Invocation) (loaded : Settings.load s.environment s.disk i.config = .ok settings)
    (counting : s.CountsIn settings store) :
    store.Counts s.disk ((i.start s).value.finish s.now s.input).value.disk
      (i.reports s settings) := by
  obtain ⟨config, task⟩ := i
  cases task with
  | capture a =>
    simp only [start, withSettings, loaded, reports]
    exact Surroundings.capture_counts counting a
  | serve file noCopy =>
    simp only [start, withSettings, loaded, reports, Surroundings.served, Logged.bind_value]
    cases opened : (s.page settings file noCopy).value with
    | error e => exact .nothing store s.disk
    | ok page =>
      obtain ⟨counts, disk⟩ := Surroundings.page_counts counting opened
      rw [← disk]
      exact Page.act_counts counts (.serve s.now .sound s.input)
  | stats =>
    simp only [start, withSettings, loaded, reports, Surroundings.stats]
    split
    · exact .nothing store s.disk
    · split
      · exact .nothing store s.disk
      · exact .nothing store s.disk
  | info => exact .nothing store s.disk
  | completions shell => exact .nothing store s.disk

structure Launch where
  arguments : List String
  surroundings : Surroundings

namespace Launch

def outcome (l : Launch) : Outcome := (runCommandLine l.arguments l.surroundings).value

def CountsIn (l : Launch) (store : TallyStore) : Prop :=
  ∀ i, Invocation.read l.arguments = .ok i → ∃ settings,
    Settings.load l.surroundings.environment l.surroundings.disk i.config = .ok settings ∧
      l.surroundings.CountsIn settings store

def reports (l : Launch) : List Report :=
  match l.surroundings.environment.journalFilter?, Invocation.read l.arguments with
  | some _, .ok i =>
    match Settings.load l.surroundings.environment l.surroundings.disk i.config with
    | .ok settings => i.reports l.surroundings settings
    | .error _ => []
  | _, _ => []

variable {l : Launch} {store : TallyStore}

theorem outcome_of_filter {f : Filter}
    (filter : l.surroundings.environment.journalFilter? = some f) :
    l.outcome = ((beginCommandLine l.arguments l.surroundings).value.finish l.surroundings.now
      l.surroundings.input).value := by
  rw [outcome, runCommandLine, filter]
  rfl

theorem outcome_of_capture {config : Option Path} {a : CaptureArguments} {settings : Settings}
    (readable : l.surroundings.environment.journalFilter?.isSome)
    (asks : Invocation.read l.arguments = .ok ⟨config, .capture a⟩)
    (loaded : Settings.load l.surroundings.environment l.surroundings.disk config =
      .ok settings) : l.outcome = (l.surroundings.capture settings a).value := by
  obtain ⟨f, filter⟩ := Option.isSome_iff_exists.mp readable
  rw [outcome_of_filter filter, beginCommandLine, asks]
  simp only [Invocation.start, Invocation.withSettings, loaded]
  rfl

theorem counts (counting : l.CountsIn store) :
    store.Counts l.surroundings.disk l.outcome.disk l.reports := by
  cases filter : l.surroundings.environment.journalFilter? with
  | none =>
    rw [outcome, runCommandLine, reports, filter]
    exact .nothing store l.surroundings.disk
  | some f =>
    rw [outcome_of_filter filter, beginCommandLine, reports, filter]
    cases read : Invocation.read l.arguments with
    | error stop => cases stop <;> exact .nothing store l.surroundings.disk
    | ok i =>
      obtain ⟨settings, loaded, countsIn⟩ := counting i read
      simp only [loaded]
      exact i.start_counts loaded countsIn

theorem stats_output {config : Option Path} {t : Tally} (counting : l.CountsIn store)
    (asks : Invocation.read l.arguments = .ok ⟨config, .stats⟩)
    (readable : l.surroundings.environment.journalFilter?.isSome)
    (found : store.load l.surroundings.disk = .ok t) :
    l.outcome.output = s!"{t.count.toNat}\n" ∧ l.outcome.failure = none := by
  obtain ⟨f, filter⟩ := Option.isSome_iff_exists.mp readable
  obtain ⟨settings, loaded, _, file⟩ := counting _ asks
  rw [outcome_of_filter filter, beginCommandLine, asks]
  simp only [Invocation.start, Invocation.withSettings, loaded, Surroundings.stats, file, found]
  exact ⟨rfl, rfl⟩

end Launch

end CallCapture

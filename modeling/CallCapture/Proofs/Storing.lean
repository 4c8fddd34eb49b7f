import CallCapture.Proofs.Renaming
import CallCapture.Proofs.Wire
import CallCapture.Tally
import CallCapture.Text.Basic

namespace CallCapture

namespace Tally

def saturated (n : Nat) : UInt64 := .ofNat (min n (UInt64.size - 1))

theorem toNat_saturated (n : Nat) : (saturated n).toNat = min n (UInt64.size - 1) := by
  apply UInt64.toNat_ofNat_of_lt'
  have largest : UInt64.size - 1 < UInt64.size := by decide
  omega

theorem saturated_toNat (n : UInt64) : saturated n.toNat = n := by
  apply UInt64.toNat_inj.mp
  have fits := n.toNat_lt_size
  rw [toNat_saturated]
  omega

theorem successor_saturated (n : Nat) : successor (saturated n) = saturated (n + 1) := by
  apply UInt64.toNat_inj.mp
  have size : UInt64.size = 18446744073709551616 := rfl
  have value := toNat_saturated n
  rw [toNat_saturated]
  unfold successor
  split
  · rw [UInt64.toNat_add, UInt64.toNat_one]
    omega
  · omega

end Tally

namespace TallyStore

variable {s : TallyStore} {d d' made : Disk} {t : Tally} {c : Conditions} {place l : Location}
  {above : List Path.Step} {name : String}

def Writable (s : TallyStore) (d : Disk) : Prop := (s.save d {}).1 = .ok ()

instance (s : TallyStore) (d : Disk) : Decidable (s.Writable d) :=
  inferInstanceAs (Decidable ((s.save d {}).1 = .ok ()))

theorem stagedName_injective : Function.Injective stagedName := by
  intro i j same
  have numbers : Nat.repr (100000 + i) = Nat.repr (100000 + j) := by
    simpa [stagedName] using same
  have read := congrArg String.toNat? numbers
  rw [Nat.toNat?_repr, Nat.toNat?_repr] at read
  exact Nat.add_left_cancel (Option.some.inj read)

theorem stagedAt?_free (staged : s.stagedAt? d c = some place) : d.Free place := by
  obtain ⟨_, found⟩ := Option.ite_none_right_eq_some.mp staged
  obtain ⟨l, _, free⟩ := Option.bind_eq_some_iff.mp found
  exact Disk.freeIn?_free free

theorem stagedAt?_isSome (stages : s.canStage d = true) (located : d.locate? s.folder = some l) :
    ∃ place, s.stagedAt? d = some place := by
  obtain ⟨place, free⟩ := Disk.exists_freeIn? d l stagedName_injective
  exact ⟨place, by rw [stagedAt?, if_pos stages, located, Option.bind_some, free]⟩

theorem canStage_of_stagedAt? (staged : s.stagedAt? d c = some place) : s.canStage d c = true :=
  (Option.ite_none_right_eq_some.mp staged).1

theorem canStage_of_here (same : d'.here = d.here) : s.canStage d' c = s.canStage d c := by
  rw [canStage, canStage, Disk.absolute, Disk.absolute, same]

theorem makeFolders_gains {b : Bool} (folders : s.makeFolders d c = (b, made)) :
    d.Gains made s.folder ∧ (b = true → d.makeFolders s.folder = (true, made)) := by
  unfold makeFolders at folders
  split at folders
  next n _ =>
    obtain ⟨rfl, rfl⟩ := Prod.mk.inj folders
    refine ⟨?_, nofun⟩
    split
    · exact d.gains_makeAlong s.folder n
    · exact .refl d s.folder
  · exact ⟨Disk.gains_of_makeFolders folders, fun all => all ▸ folders⟩

/-- How saving can go: the file of the tally is replaced, or saving stops before anything is staged,
or what was staged cannot be written or renamed. -/
inductive Saves (s : TallyStore) (d : Disk) (t : Tally) (c : Conditions) (made : Disk) : Prop
  | replaced (place l : Location) (above : List Path.Step) (name : String)
      (folders : d.makeFolders s.folder = (true, made)) (staged : s.stagedAt? made c = some place)
      (target : made.Target s.path above l name)
      (saved : s.save d t c = (.ok (), made.put (l ++ [name]) (.file t.toJson.indented.toUTF8)))
  | unstaged (e : TallyError) (saved : s.save d t c = (.error ⟨e, none⟩, made))
  | unwritten (place : Location) (n : Nat) (free : made.Free place)
      (saved : s.save d t c = (.error ⟨.notWritten, none⟩,
        c.discard (made.put place (.file (t.toJson.indented.toUTF8.extract 0 n))) place))
  | unmoved (place : Location) (free : made.Free place)
      (saved : s.save d t c = (.error ⟨.unwritable s.path, some place⟩,
        made.put place (.file t.toJson.indented.toUTF8)))

theorem exists_saves (s : TallyStore) (d : Disk) (t : Tally) (c : Conditions) :
    ∃ made, d.Gains made s.folder ∧ s.Saves d t c made := by
  cases folders : s.makeFolders d c with
  | mk b made =>
    obtain ⟨gains, whole⟩ := makeFolders_gains folders
    refine ⟨made, gains, ?_⟩
    cases b with
    | false => exact .unstaged (.noFolder s.folder) (by simp only [save, folders])
    | true =>
      cases staged : s.stagedAt? made c with
      | none => exact .unstaged (.notStaged s.folder) (by simp only [save, folders, staged])
      | some place =>
        have free := stagedAt?_free staged
        cases writing : c.writingRefusedAfter with
        | some n => exact .unwritten place n free (by simp only [save, folders, staged, writing])
        | none =>
          cases moved : if c.renamingRefused then none else
              made.replaceFile s.path t.toJson.indented.toUTF8 with
          | none =>
            exact .unmoved place free
              (by simp only [save, folders, staged, writing, free.rename?_put, moved])
          | some renamed =>
            have replaced := (Option.ite_none_left_eq_some.mp moved).2
            obtain ⟨above, l, name, target, rfl⟩ := Disk.target_of_replaceFile replaced
            exact .replaced place l above name (whole rfl) staged target
              (by simp only [save, folders, staged, writing, free.rename?_put, moved])

theorem save_of_target (folders : d.makeFolders s.folder = (true, made))
    (stages : s.canStage made = true) (target : made.Target s.path above l name) (t : Tally) :
    s.save d t = (.ok (), made.put (l ++ [name]) (.file t.toJson.indented.toUTF8)) := by
  obtain ⟨l', located⟩ := Disk.locate?_of_makeFolders folders
  obtain ⟨place, staged⟩ := stagedAt?_isSome stages located
  have all : s.makeFolders d = (true, made) := folders
  simp [save, all, staged, (stagedAt?_free staged).rename?_put, target.replaceFile]

theorem target_of_save (saved : (s.save d t c).1 = .ok ()) : ∃ made above l name,
    d.makeFolders s.folder = (true, made) ∧ s.canStage made c = true ∧
      made.Target s.path above l name ∧
      (s.save d t c).2 = made.put (l ++ [name]) (.file t.toJson.indented.toUTF8) := by
  obtain ⟨made, _, way⟩ := s.exists_saves d t c
  cases way with
  | replaced place l above name folders staged target whole =>
    exact ⟨made, above, l, name, folders, canStage_of_stagedAt? staged, target, by rw [whole]⟩
  | unstaged e whole | unwritten place n free whole | unmoved place free whole =>
    rw [whole] at saved
    cases saved

theorem load_of_file (found : d.get? s.path = some (.file t.toJson.indented.toUTF8)) :
    s.load d = .ok t := by
  have there : d.pathExists s.path = true := by
    rw [Disk.get?, Option.bind_eq_some_iff] at found
    obtain ⟨l, located, _⟩ := found
    rw [Disk.pathExists, located]
    rfl
  have text : d.readText? s.path = some t.toJson.indented := by
    simp only [Disk.readText?, found, Text.fromUTF8?_toUTF8]
  have read : Tally.read? t.toJson.indented.toList = some t := by
    rw [Tally.read?, Json.indented, String.toList_ofList, t.toJson_plain.read?_indented,
      Option.bind_some, t.ofJson?_toJson]
  simp [load, there, text, read]

/-- Where a tally can be kept, every tally is kept: it is loaded as it was saved, and the next one
can be kept as well. -/
theorem save_writable (writable : s.Writable d) (t : Tally) :
    ∃ d', s.save d t = (.ok (), d') ∧ s.load d' = .ok t ∧ s.Writable d' := by
  obtain ⟨made, above, l, name, folders, stages, target, _⟩ := target_of_save writable
  obtain ⟨found, again⟩ := target.put t.toJson.indented.toUTF8
  have larger := target.extends t.toJson.indented.toUTF8
  have still := (Disk.makeFolders_hasFolder folders).2 _ larger
  have stagesStill := (canStage_of_here larger.here).trans stages
  refine ⟨_, save_of_target folders stages target t, load_of_file found, ?_⟩
  rw [Writable, save_of_target still stagesStill again]

theorem load_save (saved : s.save d t = (.ok (), d')) : s.load d' = .ok t := by
  have fine : (s.save d t).1 = .ok () := by rw [saved]
  obtain ⟨made, above, l, name, _, _, target, left⟩ := target_of_save fine
  simp only [saved] at left
  subst left
  exact load_of_file (target.put _).1

theorem increment_unloaded {e : TallyError} (refused : s.load d c = .error e) (now : Timestamp) :
    s.increment now d c = (.error ⟨e, none⟩, d) := by
  rw [increment, refused]

theorem increment_loaded (loaded : s.load d c = .ok t) (now : Timestamp) :
    s.increment now d c = ((s.save d (t.countOne now) c).1.map fun _ => (t.countOne now).count,
      (s.save d (t.countOne now) c).2) := by
  simp only [increment, loaded]
  cases s.save d (t.countOne now) c with
  | mk result left => cases result <;> rfl

theorem increment_writable (writable : s.Writable d) (found : s.load d = .ok t)
    (now : Timestamp) : ∃ d', s.increment now d = (.ok (Tally.successor t.count), d') ∧
      s.load d' = .ok (t.countOne now) ∧ s.Writable d' := by
  obtain ⟨d', saved, loaded, again⟩ := save_writable writable (t.countOne now)
  refine ⟨d', ?_, loaded, again⟩
  rw [increment_loaded found, saved]
  rfl

theorem load_increment {now : Timestamp} {n : UInt64}
    (counted : s.increment now d = (.ok n, d')) : s.load d' = .ok ⟨n, some now⟩ := by
  unfold increment at counted
  split at counted
  · cases counted
  next t found =>
    split at counted
    next saved =>
      cases counted
      exact load_save saved
    · cases counted

def increments (s : TallyStore) :
    List Timestamp → Disk → List (Except TallyFailure UInt64) × Disk
  | [], d => ([], d)
  | now :: nows, d =>
    let update := s.increment now d
    let (results, d) := s.increments nows (settled update)
    (update.1 :: results, d)

theorem increments_append (nows nows' : List Timestamp) (d : Disk) :
    s.increments (nows ++ nows') d =
      ((s.increments nows d).1 ++ (s.increments nows' (s.increments nows d).2).1,
        (s.increments nows' (s.increments nows d).2).2) := by
  induction nows generalizing d with
  | nil => rfl
  | cons now nows ih => simp only [List.cons_append, increments, ih]

theorem increments_writable {n : Nat} (writable : s.Writable d) (found : s.load d = .ok t)
    (count : t.count = Tally.saturated n) (nows : List Timestamp) :
    (s.increments nows d).1 =
        (List.range nows.length).map (fun i => .ok (Tally.saturated (n + i + 1))) ∧
      s.load (s.increments nows d).2 =
        .ok ⟨Tally.saturated (n + nows.length), nows.getLast?.or t.lastAt⟩ ∧
      s.Writable (s.increments nows d).2 := by
  induction nows generalizing d t n with
  | nil =>
    refine ⟨rfl, ?_, writable⟩
    simp [increments, found, ← count]
  | cons now nows ih =>
    obtain ⟨d', counted, loaded, again⟩ := increment_writable writable found now
    have next : (t.countOne now).count = Tally.saturated (n + 1) := by
      rw [Tally.countOne, count, Tally.successor_saturated]
    obtain ⟨results, last, writableStill⟩ := ih again loaded next
    simp only [increments, counted, settled]
    refine ⟨?_, ?_, writableStill⟩
    · have shifted (i : Nat) : n + 1 + i + 1 = n + (i + 1) + 1 := by omega
      simp only [results, shifted, count, Tally.successor_saturated, List.length_cons,
        List.range_succ_eq_map, List.map_cons, List.map_map, Function.comp_def, Nat.add_zero,
        Nat.succ_eq_add_one]
    · have total : n + 1 + nows.length = n + (nows.length + 1) := by omega
      simp only [last, List.length_cons, total, List.getLast?_cons, Tally.countOne, Option.or_some,
        Option.some_or]

end TallyStore

end CallCapture

import CallCapture.CommandLine.Run
import CallCapture.Proofs.Storing

namespace CallCapture

/-- A path leads to a location, also one that is too long to be looked up. -/
def Disk.LeadsTo (d : Disk) (p : Path) (l : Location) : Prop :=
  p.text ≠ "" ∧ '\x00' ∉ p.text.toList ∧ d.follow (d.start p) p.steps = some l

theorem Disk.locate?_eq_some_iff {d : Disk} {p : Path} (short : p.text.utf8ByteSize < pathSize)
    (l : Location) : d.locate? p = some l ↔ d.LeadsTo p l := by
  simp [locate?, canName, LeadsTo, short, and_assoc]

namespace TallyStore

variable {s : TallyStore} {d d' made : Disk} {t : Tally} {c : Conditions} {f : TallyFailure}

/-- What a failure may leave beside the folders that were made: a staged file, which the failure
holds or which could not be taken away. -/
inductive Leftover (s : TallyStore) (c : Conditions) (made : Disk) : TallyFailure → Disk → Prop
  | nothing (e : TallyError) : s.Leftover c made ⟨e, none⟩ made
  | held (place : Location) (bytes : ByteArray) (free : made.Free place) :
      s.Leftover c made ⟨.unwritable s.path, some place⟩ (made.put place (.file bytes))
  | stuck (place : Location) (bytes : ByteArray) (free : made.Free place)
      (refused : c.removalRefused = true) :
      s.Leftover c made ⟨.notWritten, none⟩ (made.put place (.file bytes))

namespace Leftover

theorem release (left : s.Leftover c made f d') (removes : c.removalRefused = false) :
    f.release d' c = made := by
  cases left with
  | nothing e => rfl
  | held place bytes free =>
    simp [TallyFailure.release, Conditions.discard, removes, free.remove_put]
  | stuck place bytes free refused =>
    rw [removes] at refused
    cases refused

theorem keeps (left : s.Leftover c made f d') {l : Location} {bytes : ByteArray}
    (stands : made.at? l = some (.file bytes)) : d'.at? l = some (.file bytes) := by
  cases left with
  | nothing e => exact stands
  | held place _ free | stuck place _ free _ =>
    have other : l ≠ place := by
      rintro rfl
      rw [free.missing] at stands
      cases stands
    rw [Disk.at?_put_of_ne made free.below _ other]
    exact stands

end Leftover

theorem leftover_discarded {place : Location} (free : made.Free place) (bytes : ByteArray) :
    s.Leftover c made ⟨.notWritten, none⟩ (c.discard (made.put place (.file bytes)) place) := by
  unfold Conditions.discard
  split
  next refused => exact .stuck place bytes free refused
  · rw [free.remove_put]
    exact .nothing _

theorem save_error (failed : s.save d t c = (.error f, d')) :
    ∃ made, d.Gains made s.folder ∧ s.Leftover c made f d' := by
  obtain ⟨made, gains, way⟩ := s.exists_saves d t c
  refine ⟨made, gains, ?_⟩
  cases way with
  | replaced place l above name folders staged target saved =>
    rw [saved] at failed
    cases failed
  | unstaged e saved =>
    rw [saved] at failed
    cases failed
    exact .nothing e
  | unwritten place n free saved =>
    rw [saved] at failed
    cases failed
    exact leftover_discarded free _
  | unmoved place free saved =>
    rw [saved] at failed
    cases failed
    exact .held place _ free

/-- What one update may leave of a disk. When it fails, every file is as it was, and nothing is new
but folders on the way to the tally and what the failure left over, which goes away with it; when it
counts, the file of the tally is new as well as the folders, and nothing else. -/
def Leaves (s : TallyStore) (now : Timestamp) (c : Conditions) (d : Disk) :
    Except TallyFailure UInt64 × Disk → Prop
  | (.error f, d') =>
    (∀ l bytes, d.at? l = some (.file bytes) → d'.at? l = some (.file bytes)) ∧
      ∃ made, d.Gains made s.folder ∧
        (∀ l bytes, made.at? l = some (.file bytes) ↔ d.at? l = some (.file bytes)) ∧
        s.Leftover c made f d' ∧ (c.removalRefused = false → f.release d' c = made)
  | (.ok n, d') => ∃ t l, s.load d c = .ok t ∧ n = (t.countOne now).count ∧
      d'.locate? s.path = some l ∧ d.isFolder l = false ∧
      d'.at? l = some (.file (t.countOne now).toJson.indented.toUTF8) ∧
      d'.here = d.here ∧ ∀ x, x ≠ l → d.SameOrMade d' (d'.start s.folder) s.folder.steps x

theorem leaves_of_leftover (gains : d.Gains made s.folder) (left : s.Leftover c made f d')
    (now : Timestamp) : s.Leaves now c d (.error f, d') :=
  ⟨fun _ _ stands => left.keeps (gains.file_iff.mpr stands), made, gains,
    fun _ _ => gains.file_iff, left, left.release⟩

theorem save_ok (saved : s.save d t c = (.ok (), d')) : ∃ l,
    d'.locate? s.path = some l ∧ d.isFolder l = false ∧
      d'.at? l = some (.file t.toJson.indented.toUTF8) ∧ d'.here = d.here ∧
      ∀ x, x ≠ l → d.SameOrMade d' (d'.start s.folder) s.folder.steps x := by
  have fine : (s.save d t c).1 = .ok () := by rw [saved]
  obtain ⟨made, above, l, name, folders, _, target, left⟩ := target_of_save fine
  simp only [saved] at left
  subst left
  have gains := Disk.gains_of_makeFolders folders
  have larger := target.extends t.toJson.indented.toUTF8
  refine ⟨l ++ [name], target.locate? _, ?_, ?_, larger.here.trans gains.here, fun x other => ?_⟩
  · rw [Bool.eq_false_iff]
    intro folder
    have still := (Disk.makeFolders_hasFolder folders).1.folders _ folder
    rw [target.free] at still
    cases still
  · exact made.at?_put_self (by simp) _
  · rw [Disk.SameOrMade, made.at?_put_of_ne (by simp) _ other, Disk.start_congr larger.here]
    rcases gains.locations x with same | ⟨missing, new, n, found⟩
    · exact .inl same
    · exact .inr ⟨missing, new, n, larger.follow found⟩

theorem increment_leaves (s : TallyStore) (now : Timestamp) (d : Disk) (c : Conditions) :
    s.Leaves now c d (s.increment now d c) := by
  cases loaded : s.load d c with
  | error e =>
    rw [increment_unloaded loaded]
    exact leaves_of_leftover (.refl d s.folder) (.nothing e) now
  | ok t =>
    rw [increment_loaded loaded]
    cases saved : s.save d (t.countOne now) c with
    | mk result left =>
      cases result with
      | error f =>
        obtain ⟨made, gains, leftover⟩ := save_error saved
        exact leaves_of_leftover gains leftover now
      | ok _ =>
        obtain ⟨l, new⟩ := save_ok saved
        exact ⟨t, l, loaded, rfl, new⟩

theorem load_eq_nothing_iff (s : TallyStore) (d : Disk) (c : Conditions) :
    s.load d c = .ok {} ↔ c.lookupRefused = true ∨ d.locate? s.path = none ∨
      c.readingRefused = false ∧ ∃ bytes text, d.get? s.path = some (.file bytes) ∧
        String.fromUTF8? bytes = some text ∧ Tally.read? text.toList = some {} := by
  unfold load Disk.pathExists Disk.readText?
  cases c.lookupRefused with
  | true => simp
  | false =>
    cases located : d.locate? s.path with
    | none => simp
    | some l =>
      have found : d.get? s.path = d.at? l := by rw [Disk.get?, located, Option.bind_some]
      rw [found]
      cases c.readingRefused with
      | true => simp
      | false =>
        cases d.at? l with
        | none => simp
        | some node =>
          cases node with
          | folder => simp
          | file bytes =>
            cases text : String.fromUTF8? bytes with
            | none => simp [text]
            | some text' =>
              simp only [Option.isSome_some, text]
              cases read : Tally.read? text'.toList with
              | none => simp [text, read]
              | some t => simp [text, read]

theorem load_eq_nothing_iff_of_short (answered : c.lookupRefused = false)
    (short : s.path.text.utf8ByteSize < Disk.pathSize) :
    s.load d c = .ok {} ↔ (∀ l, ¬ d.LeadsTo s.path l) ∨ c.readingRefused = false ∧
      ∃ l bytes text, d.LeadsTo s.path l ∧ d.at? l = some (.file bytes) ∧
        String.fromUTF8? bytes = some text ∧ Tally.read? text.toList = some {} := by
  have leads := Disk.locate?_eq_some_iff (d := d) short
  rw [load_eq_nothing_iff, answered]
  cases located : d.locate? s.path with
  | none =>
    have nowhere (l : Location) : ¬ d.LeadsTo s.path l := by simp [← leads, located]
    simp [nowhere]
  | some l =>
    have there : d.LeadsTo s.path l := (leads l).mp located
    have only (l' : Location) : d.LeadsTo s.path l' ↔ l' = l := by
      rw [← leads, located, Option.some.injEq, eq_comm]
    simp [only, Disk.get?, located]

theorem stats_disk (x : Surroundings) (settings : Settings) : (x.stats settings).disk = x.disk := by
  unfold Surroundings.stats
  split
  · rfl
  · split
    · rfl
    · rfl

/-- Whatever the system refuses, an update changes the file of the tally and makes the folders that
are missing on the way to it, or it fails and changes no file. What a failure left over goes away
when the failure is let go of. A tally that cannot be loaded leaves the disk exactly as it was, and
so does a run that only asks for the count. A look-up that is not refused, of a path that is not too
long, gives the tally of nothing just where the path leads nowhere or the file says so. -/
theorem increment_allOrNothing (s : TallyStore) (now : Timestamp) (d : Disk) (c : Conditions) :
    s.Leaves now c d (s.increment now d c) ∧
    (∀ e, s.load d c = .error e → s.increment now d c = (.error ⟨e, none⟩, d)) ∧
    (c.lookupRefused = false → s.path.text.utf8ByteSize < Disk.pathSize →
      (s.load d c = .ok {} ↔ (∀ l, ¬ d.LeadsTo s.path l) ∨ c.readingRefused = false ∧
        ∃ l bytes text, d.LeadsTo s.path l ∧ d.at? l = some (.file bytes) ∧
          String.fromUTF8? bytes = some text ∧ Tally.read? text.toList = some {})) ∧
    ∀ (x : Surroundings) (settings : Settings), (x.stats settings).disk = x.disk :=
  ⟨s.increment_leaves now d c, fun _ refused => increment_unloaded refused now,
    fun answered short => load_eq_nothing_iff_of_short answered short, stats_disk⟩

def tallyAtU : TallyStore := ⟨⟨"/u"⟩⟩

def epoch : Timestamp := ⟨1970, 1, 1, 0, 0, 0, 0, 0, by decide, by decide, by decide⟩

def diskWithStaged : Disk :=
  { entries := [([".tmp100000"], .file "y".toUTF8), (["u"], .file "x".toUTF8)] }

theorem increment_allOrNothing_unreadable :
    tallyAtU.increment epoch diskWithStaged = (.error ⟨.invalid ⟨"/u"⟩, none⟩, diskWithStaged) ∧
      tallyAtU.load {} = .ok {} := by
  obtain ⟨_, unloaded, _, _⟩ := increment_allOrNothing tallyAtU epoch diskWithStaged {}
  obtain ⟨_, _, nothing, _⟩ := increment_allOrNothing tallyAtU epoch {} {}
  have nowhere (l : Location) : ¬ Disk.LeadsTo {} tallyAtU.path l := by
    rintro ⟨_, _, found⟩
    cases found
  exact ⟨unloaded _ (by cbv), (nothing rfl (by decide)).mpr (.inl nowhere)⟩

theorem load_tooLong (long : Disk.pathSize ≤ s.path.text.utf8ByteSize) : s.load d c = .ok {} := by
  have unnamed : Disk.canName s.path = false := by simp [Disk.canName, long]
  rw [load_eq_nothing_iff, Disk.locate?, unnamed]
  exact .inr (.inl rfl)

def slashed (n : Nat) : Path := ⟨String.ofList (List.replicate n '/' ++ ['u'])⟩

theorem utf8ByteSize_slashed (n : Nat) : (slashed n).text.utf8ByteSize = n + 1 := by
  induction n with
  | zero => rfl
  | succ n ih =>
    have one : (String.singleton '/').utf8ByteSize = 1 := rfl
    simp only [slashed] at ih ⊢
    rw [List.replicate_succ, List.cons_append, String.ofList_cons, String.utf8ByteSize_append, ih,
      one]
    omega

theorem steps_slashed (n : Nat) : (slashed n).steps = List.replicate n .stay ++ [.into "u"] := by
  have parts : (slashed n).parts = List.replicate n [] ++ [['u']] := by
    induction n with
    | zero => rfl
    | succ n ih =>
      simp only [Path.parts, slashed, String.toList_ofList, List.splitOn_eq_splitOnP] at ih ⊢
      rw [List.replicate_succ, List.cons_append, List.splitOnP_cons_eq_if_modifyHead, ih]
      rfl
  simp [Path.steps, parts, Path.Step.ofPart]

theorem follow_slashed (d : Disk) (n : Nat) :
    d.follow [] (slashed n).steps = d.follow [] [.into "u"] := by
  rw [steps_slashed]
  induction n with
  | zero => rfl
  | succ n ih => exact ih

theorem leadsTo_slashed {d : Disk} {l : Location} (found : d.follow [] [.into "u"] = some l)
    (n : Nat) : d.LeadsTo (slashed (n + 1)) l := by
  have absolute : (slashed (n + 1)).isAbsolute = true := by
    simp [slashed, Path.isAbsolute, List.replicate_succ]
  refine ⟨fun empty => ?_, by simp [slashed, List.mem_replicate], ?_⟩
  · have size := utf8ByteSize_slashed (n + 1)
    rw [empty] at size
    cases size
  · rw [Disk.start, absolute, if_pos rfl, follow_slashed, found]

def diskWithSeven : Disk := { entries := [(["u"], .file "\x7b\"usageCount\":7\x7d".toUTF8)] }

/-- A file cannot be renamed to a path that ends like a folder, so it stays staged with the failure;
and a count of seven is not found by a path that leads to it but is too long, nor by a look-up that
is refused. -/
theorem increment_not_allOrNothing :
    (∃ bytes, (TallyStore.mk ⟨"/u/"⟩).increment epoch {} =
      (.error ⟨.unwritable ⟨"/u/"⟩, some [".tmp100000"]⟩,
        Disk.put {} [".tmp100000"] (.file bytes))) ∧
    tallyAtU.load diskWithSeven = .ok ⟨7, none⟩ ∧
    diskWithSeven.LeadsTo tallyAtU.path ["u"] ∧ diskWithSeven.LeadsTo (slashed 4096) ["u"] ∧
    (TallyStore.mk (slashed 4096)).load diskWithSeven = .ok {} ∧
    tallyAtU.load diskWithSeven { lookupRefused := true } = .ok {} := by
  refine ⟨⟨_, rfl⟩, by cbv, ⟨by decide, by decide, rfl⟩, leadsTo_slashed rfl 4095, ?_, rfl⟩
  apply load_tooLong
  rw [utf8ByteSize_slashed]
  decide

end TallyStore

end CallCapture

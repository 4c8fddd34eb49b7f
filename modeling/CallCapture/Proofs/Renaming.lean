import CallCapture.Proofs.Folders
import Mathlib.Data.List.Nodup
import Mathlib.Data.List.Perm.Subperm

namespace CallCapture

namespace Disk

variable {d d' : Disk} {p : Path} {l r place : Location} {name : String} {m n : Node}
  {above steps : List Path.Step} {bytes : ByteArray}

/-- A finished file can be put at a location for a path. -/
structure Target (d : Disk) (p : Path) (above : List Path.Step) (l : Location) (name : String) :
    Prop where
  steps : p.steps = above ++ [.into name]
  named : canName p = true
  found : d.follow (d.start p) above = some l
  folder : d.isFolder l = true
  creatable : canCreate name = true
  free : d.isFolder (l ++ [name]) = false

theorem Target.replaceFile (target : d.Target p above l name) (bytes : ByteArray) :
    d.replaceFile p bytes = some (d.put (l ++ [name]) (.file bytes)) := by
  obtain ⟨steps, named, found, folder, creatable, free⟩ := target
  simp [Disk.replaceFile, steps, named, found, folder, creatable, free]

theorem target_of_replaceFile {bytes : ByteArray} (replaced : d.replaceFile p bytes = some d') :
    ∃ above l name, d.Target p above l name ∧ d' = d.put (l ++ [name]) (.file bytes) := by
  unfold replaceFile at replaced
  split at replaced
  next name above last =>
    have steps : p.steps = above.reverse ++ [.into name] := by
      rw [← List.reverse_reverse p.steps, last, List.reverse_cons]
    split at replaced
    next l reached =>
      split at replaced
      next ready =>
        simp only [Bool.and_eq_true, Bool.not_eq_true'] at ready
        obtain ⟨named, found⟩ := Option.ite_none_right_eq_some.mp reached
        exact ⟨above.reverse, l, name, ⟨steps, named, found, ready.1.1, ready.1.2, ready.2⟩,
          (Option.some.inj replaced).symm⟩
      · cases replaced
    · cases replaced
  · cases replaced

theorem Target.extends (target : d.Target p above l name) (bytes : ByteArray) :
    d.Extends (d.put (l ++ [name]) (.file bytes)) := .put d (by simp) target.free (.file bytes)

theorem Target.put (target : d.Target p above l name) (bytes : ByteArray) :
    (d.put (l ++ [name]) (.file bytes)).get? p = some (.file bytes) ∧
      (d.put (l ++ [name]) (.file bytes)).Target p above l name := by
  have larger := target.extends bytes
  have stands := at?_put_self d (l := l ++ [name]) (by simp) (.file bytes)
  have start := start_congr larger.here p
  have found : (d.put (l ++ [name]) (.file bytes)).follow (d.start p) above = some l :=
    larger.follow target.found
  have folder := larger.folders l target.folder
  constructor
  · simp [get?, locate?, target.named, start, target.steps, follow_append, found, follow, folder,
      stands]
  · exact ⟨target.steps, target.named, by rw [start]; exact found, folder, target.creatable,
      by simp [isFolder, stands]⟩

structure Free (d : Disk) (l : Location) : Prop where
  below : l ≠ []
  missing : d.at? l = none

namespace Free

theorem lookup (free : d.Free l) : d.entries.lookup l = none := by
  have missing := free.missing
  rw [at?, if_neg free.below] at missing
  exact missing

theorem ne_of_mem (free : d.Free l) {e : Location × Node} (member : e ∈ d.entries) : e.1 ≠ l := by
  intro same
  have other := List.lookup_eq_none_iff.mp free.lookup e member
  rw [same] at other
  simp at other

theorem not_isFolder (free : d.Free l) : d.isFolder l = false := by
  rw [isFolder, free.missing]
  rfl

theorem put (free : d.Free l) (n : Node) :
    d.put l n = { d with entries := d.entries ++ [(l, n)] } := by
  rw [Disk.put, free.lookup]
  rfl

theorem replaced (free : d.Free l) (n : Node) :
    (d.entries.map fun e => if e.1 = l then (l, n) else e) = d.entries := by
  have same : ∀ e ∈ d.entries, (if e.1 = l then (l, n) else e) = e := fun e member =>
    if_neg (free.ne_of_mem member)
  simpa using List.map_congr_left same

theorem kept (free : d.Free l) : (d.entries.filter fun e => e.1 ≠ l) = d.entries := by
  rw [List.filter_eq_self]
  intro e member
  exact decide_eq_true (free.ne_of_mem member)

theorem remove_put (free : d.Free l) (n : Node) : (d.put l n).remove l = d := by
  rw [free.put, remove]
  simp only [List.filter_append, free.kept]
  simp

theorem put_put (free : d.Free l) (m n : Node) : (d.put l m).put l n = d.put l n := by
  rw [free.put, free.put]
  simp [Disk.put, List.lookup_append, free.lookup, free.replaced]

end Free

theorem lookup_removed (entries : List (Location × Node)) (other : l ≠ place) :
    (entries.filter fun e => e.1 ≠ place).lookup l = entries.lookup l := by
  induction entries with
  | nil => rfl
  | cons e entries ih =>
    rw [List.filter_cons]
    split
    · rw [List.lookup_cons, List.lookup_cons, ih]
    next gone =>
      have same : e.1 = place := by simpa using gone
      have apart : (l == e.1) = false := beq_false_of_ne (same ▸ other)
      rw [ih, List.lookup_cons, apart]

theorem remove_put_of_ne (d : Disk) (other : l ≠ place) (n : Node) :
    (d.put l n).remove place = (d.remove place).put l n := by
  have named (e : Location × Node) : (if e.1 = l then (l, n) else e).1 = e.1 := by
    split
    next same => exact same.symm
    · rfl
  rw [put, put, remove, remove, lookup_removed _ other]
  split
  · simp only [List.filter_map, Function.comp_def, named]
  · simp [List.filter_append, other]

theorem Free.isFolder_put (free : d.Free place) (bytes : ByteArray) (x : Location) :
    (d.put place (.file bytes)).isFolder x = d.isFolder x := by
  by_cases same : x = place
  · subst same
    rw [isFolder, at?_put_self d free.below, free.not_isFolder]
    rfl
  · rw [isFolder, at?_put_of_ne d free.below _ same, isFolder]

theorem Free.follow_of_put (free : d.Free place)
    (found : (d.put place (.file bytes)).follow l steps = some r) (folder : d.isFolder r = true) :
    d.follow l steps = some r := by
  induction steps generalizing l with
  | nil => exact found
  | cons step steps ih =>
    simp only [follow, free.isFolder_put] at found ⊢
    split at found
    next inside =>
      rw [if_pos inside]
      cases step with
      | stay => exact ih found
      | up => exact ih found
      | into name =>
        simp only [at?_put d free.below] at found ⊢
        by_cases same : l ++ [name] = place
        · -- the way ends at the file, or it cannot go on from there
          rw [if_pos same, Option.isSome_some, if_pos rfl, same] at found
          cases steps with
          | nil =>
            cases found
            rw [free.not_isFolder] at folder
            cases folder
          | cons step steps =>
            simp only [follow, free.isFolder_put, free.not_isFolder, Bool.false_eq_true, if_false]
              at found
            cases found
        · rw [if_neg same] at found
          split at found
          next there =>
            rw [if_pos there]
            exact ih found
          · cases found
    · cases found

theorem Free.target_put_iff (free : d.Free place) (bytes : ByteArray) :
    (d.put place (.file bytes)).Target p above l name ↔ d.Target p above l name := by
  have start := start_congr (here_put d place (.file bytes)) p
  constructor
  · rintro ⟨steps, named, found, folder, creatable, vacant⟩
    rw [free.isFolder_put] at folder vacant
    rw [start] at found
    exact ⟨steps, named, free.follow_of_put found folder, folder, creatable, vacant⟩
  · rintro ⟨steps, named, found, folder, creatable, vacant⟩
    rw [← free.isFolder_put bytes] at folder vacant
    have larger := Extends.put d free.below free.not_isFolder (.file bytes)
    exact ⟨steps, named, by rw [start]; exact larger.follow found, folder, creatable, vacant⟩

theorem Target.locate? (target : d.Target p above l name) (bytes : ByteArray) :
    (d.put (l ++ [name]) (.file bytes)).locate? p = some (l ++ [name]) := by
  obtain ⟨_, again⟩ := target.put bytes
  have stands := at?_put_self d (l := l ++ [name]) (by simp) (.file bytes)
  simp [Disk.locate?, again.named, again.steps, follow_append, again.found, follow, again.folder,
    stands]

/-- A new file that is renamed does what replacing the file at once does. -/
theorem Free.rename?_put (free : d.Free place) (bytes : ByteArray) (p : Path) :
    (d.put place (.file bytes)).rename? place p = d.replaceFile p bytes := by
  rw [rename?, at?_put_self d free.below]
  simp only
  cases replaced : (d.put place (.file bytes)).replaceFile p bytes with
  | some moved =>
    obtain ⟨above, l, name, target, rfl⟩ := target_of_replaceFile replaced
    rw [((free.target_put_iff bytes).mp target).replaceFile, Option.map_some, target.locate?]
    split
    next same => rw [Option.some.inj same, free.put_put]
    next other =>
      have apart : l ++ [name] ≠ place := fun same => other (congrArg some same)
      rw [remove_put_of_ne _ apart, free.remove_put]
  | none =>
    cases direct : d.replaceFile p bytes with
    | none => rfl
    | some moved =>
      obtain ⟨above, l, name, target, rfl⟩ := target_of_replaceFile direct
      rw [((free.target_put_iff bytes).mpr target).replaceFile] at replaced
      cases replaced

theorem freeIn?_free {names : Nat → String} (found : d.freeIn? l names = some place) :
    d.Free place := by
  have missing := List.find?_some found
  obtain ⟨i, _, rfl⟩ := List.mem_map.mp (List.mem_of_find?_eq_some found)
  exact ⟨by simp, Option.isNone_iff_eq_none.mp missing⟩

theorem exists_freeIn? (d : Disk) (l : Location) {names : Nat → String}
    (apart : Function.Injective names) : ∃ place, d.freeIn? l names = some place := by
  rw [← Option.ne_none_iff_exists']
  intro nowhere
  have taken := List.find?_eq_none.mp nowhere
  have keys : (List.range (d.entries.length + 1)).map (fun i => l ++ [names i]) ⊆
      d.entries.map (·.1) := by
    intro place member
    by_contra absent
    apply taken place member
    obtain ⟨i, _, rfl⟩ := List.mem_map.mp member
    have missing : d.entries.lookup (l ++ [names i]) = none := by
      rw [List.lookup_eq_none_iff]
      intro e there
      exact bne_iff_ne.mpr fun same => absent (List.mem_map.mpr ⟨e, there, same.symm⟩)
    simp [at?, missing]
  have different : ((List.range (d.entries.length + 1)).map fun i => l ++ [names i]).Nodup :=
    List.Nodup.map (fun i j same => apart (by simpa using same)) List.nodup_range
  have fits := (different.subperm keys).length_le
  rw [List.length_map, List.length_range, List.length_map] at fits
  exact Nat.not_succ_le_self _ fits

end Disk

end CallCapture

import CallCapture.Disk

namespace CallCapture

namespace Disk

/-! ### What stands at a location -/

theorem lookup_replaced (entries : List (Location × Node)) (l : Location) (n : Node)
    (x : Location) : (entries.map fun e => if e.1 = l then (l, n) else e).lookup x =
      if x = l then (entries.lookup l).map fun _ => n else entries.lookup x := by
  induction entries with
  | nil => simp
  | cons e entries ih =>
    obtain ⟨k, m⟩ := e
    by_cases replaced : k = l
    · subst replaced
      by_cases same : x = k
      · simp [same]
      · have apart : (x == k) = false := beq_false_of_ne same
        simp [List.lookup_cons, same, apart, ih]
    · by_cases same : x = l
      · subst same
        have apart : (x == k) = false := beq_false_of_ne (Ne.symm replaced)
        simp [List.lookup_cons, replaced, apart, ih]
      · simp [List.lookup_cons, replaced, same, ih]

theorem at?_put (d : Disk) {l : Location} (below : l ≠ []) (n : Node) (x : Location) :
    (d.put l n).at? x = if x = l then some n else d.at? x := by
  unfold at?
  by_cases root : x = []
  · simp [root, below.symm]
  · rw [if_neg root, if_neg root]
    unfold put
    cases present : d.entries.lookup l with
    | some m => simp [lookup_replaced, present]
    | none =>
      by_cases same : x = l
      · simp [same, List.lookup_append, present]
      · have apart : (x == l) = false := beq_false_of_ne same
        simp [same, List.lookup_append, List.lookup_cons, apart]

theorem at?_put_self (d : Disk) {l : Location} (below : l ≠ []) (n : Node) :
    (d.put l n).at? l = some n := by
  rw [at?_put d below, if_pos rfl]

theorem at?_put_of_ne (d : Disk) {l x : Location} (below : l ≠ []) (n : Node) (other : x ≠ l) :
    (d.put l n).at? x = d.at? x := by
  rw [at?_put d below, if_neg other]

@[simp] theorem here_put (d : Disk) (l : Location) (n : Node) : (d.put l n).here = d.here := by
  unfold put
  split <;> rfl

theorem start_congr {d d' : Disk} (same : d'.here = d.here) (p : Path) : d'.start p = d.start p := by
  rw [start, start, same]

/-! ### Disks that gain entries -/

/-- Folders stay folders, and nothing goes away. -/
structure Extends (d d' : Disk) : Prop where
  folders : ∀ l, d.isFolder l = true → d'.isFolder l = true
  present : ∀ l, (d.at? l).isSome → (d'.at? l).isSome
  here : d'.here = d.here

namespace Extends

theorem refl (d : Disk) : d.Extends d := ⟨fun _ h => h, fun _ h => h, rfl⟩

theorem trans {a b c : Disk} (first : a.Extends b) (second : b.Extends c) : a.Extends c :=
  ⟨fun l h => second.folders l (first.folders l h), fun l h => second.present l (first.present l h),
    second.here.trans first.here⟩

theorem put (d : Disk) {l : Location} (below : l ≠ []) (free : d.isFolder l = false) (n : Node) :
    d.Extends (d.put l n) where
  folders := by
    intro x folder
    have apart : x ≠ l := by
      rintro rfl
      rw [free] at folder
      cases folder
    rw [isFolder, at?_put_of_ne d below n apart]
    exact folder
  present := by
    intro x there
    rw [at?_put d below]
    split
    · rfl
    · exact there
  here := here_put d l n

end Extends

/-! ### Paths -/

variable {d d' : Disk} {l r : Location} {steps : List Path.Step}

theorem follow_append (xs ys : List Path.Step) :
    d.follow l (xs ++ ys) = (d.follow l xs).bind fun m => d.follow m ys := by
  induction xs generalizing l with
  | nil => rfl
  | cons step xs ih =>
    simp only [List.cons_append, follow]
    split
    · cases step with
      | stay => exact ih
      | up => exact ih
      | into name =>
        simp only
        split
        · exact ih
        · rfl
    · rfl

theorem Extends.follow (larger : d.Extends d') (found : d.follow l steps = some r) :
    d'.follow l steps = some r := by
  induction steps generalizing l with
  | nil => exact found
  | cons step steps ih =>
    simp only [Disk.follow] at found ⊢
    split at found
    next folder =>
      rw [if_pos (larger.folders l folder)]
      cases step with
      | stay => exact ih found
      | up => exact ih found
      | into name =>
        simp only at found ⊢
        split at found
        next there =>
          rw [if_pos (larger.present _ there)]
          exact ih found
        · cases found
    · cases found

theorem makeAlong_extends (d : Disk) (l : Location) (steps : List Path.Step) :
    d.Extends (d.makeAlong l steps).2 := by
  induction steps generalizing d l with
  | nil => exact .refl d
  | cons step steps ih =>
    simp only [makeAlong]
    split
    · cases step with
      | stay => exact ih d l
      | up => exact ih d l.dropLast
      | into name =>
        simp only
        split
        · exact ih d (l ++ [name])
        next missing =>
          split
          · have free : d.isFolder (l ++ [name]) = false := by simp [isFolder, missing]
            exact (Extends.put d (by simp) free .folder).trans (ih _ _)
          · exact .refl d
    · exact .refl d

theorem extends_of_makeAlong {reached : Option Location}
    (made : d.makeAlong l steps = (reached, d')) : d.Extends d' := by
  have larger := d.makeAlong_extends l steps
  rw [made] at larger
  exact larger

theorem follow_of_makeAlong (made : d.makeAlong l steps = (some r, d')) :
    d'.follow l steps = some r := by
  induction steps generalizing d l with
  | nil =>
    cases made
    rfl
  | cons step steps ih =>
    have larger := extends_of_makeAlong made
    simp only [makeAlong] at made
    simp only [follow]
    split at made
    next folder =>
      rw [if_pos (larger.folders l folder)]
      cases step with
      | stay => exact ih made
      | up => exact ih made
      | into name =>
        simp only at made ⊢
        split at made
        next node there =>
          rw [if_pos (larger.present _ (by rw [there]; rfl))]
          exact ih made
        next missing =>
          split at made
          · have there := (extends_of_makeAlong made).present (l ++ [name])
              (by rw [at?_put_self d (by simp)]; rfl)
            rw [if_pos there]
            exact ih made
          · cases made
    · cases made

theorem makeAlong_of_follow (found : d.follow l steps = some r) :
    d.makeAlong l steps = (some r, d) := by
  induction steps generalizing l with
  | nil =>
    cases found
    rfl
  | cons step steps ih =>
    simp only [follow] at found
    simp only [makeAlong]
    split at found
    next folder =>
      rw [if_pos folder]
      cases step with
      | stay => exact ih found
      | up => exact ih found
      | into name =>
        simp only at found ⊢
        split at found
        next there =>
          obtain ⟨node, stands⟩ := Option.isSome_iff_exists.mp there
          rw [stands]
          exact ih found
        · cases found
    · cases found

def HasFolder (d : Disk) (p : Path) : Prop := d.makeFolders p = (true, d)

theorem makeFolders_of_follow {p : Path} (named : canName p = true)
    (found : d.follow (d.start p) p.steps = some r) (folder : d.isFolder r = true) :
    d.HasFolder p := by
  simp only [HasFolder, makeFolders, named, if_true, makeAlong_of_follow found, folder]

theorem makeFolders_hasFolder {p : Path} (made : d.makeFolders p = (true, d')) :
    d.Extends d' ∧ ∀ d'', d'.Extends d'' → d''.HasFolder p := by
  unfold makeFolders at made
  split at made
  next named =>
    split at made
    next l grown reached =>
      obtain ⟨folder, rfl⟩ := Prod.mk.inj made
      have larger := extends_of_makeAlong reached
      refine ⟨larger, fun d'' later => ?_⟩
      have found := later.follow (follow_of_makeAlong reached)
      rw [← start_congr (later.here.trans larger.here) p] at found
      exact makeFolders_of_follow named found (later.folders l folder)
    · cases made
  · cases made

/-! ### What is gained -/

variable {p : Path} {name : String} {bytes : ByteArray}

/-- A location is as it was, or a folder that was missing on the way along a path. -/
def SameOrMade (d d' : Disk) (l : Location) (steps : List Path.Step) (x : Location) : Prop :=
  d'.at? x = d.at? x ∨
    d.at? x = none ∧ d'.at? x = some .folder ∧ ∃ n, d'.follow l (steps.take n) = some x

theorem SameOrMade.after {step : Path.Step} {x : Location} (h : d.SameOrMade d' r steps x)
    (leads : ∀ later, d'.follow l (step :: later) = d'.follow r later) :
    d.SameOrMade d' l (step :: steps) x := by
  rcases h with same | ⟨missing, made, n, found⟩
  · exact .inl same
  · exact .inr ⟨missing, made, n + 1, by rw [List.take_succ_cons, leads, found]⟩

theorem sameOrMade_of_makeAlong {reached : Option Location}
    (made : d.makeAlong l steps = (reached, d')) (x : Location) :
    d.SameOrMade d' l steps x := by
  induction steps generalizing d l with
  | nil =>
    cases made
    exact .inl rfl
  | cons step steps ih =>
    have larger := extends_of_makeAlong made
    simp only [makeAlong] at made
    split at made
    next inside =>
      have still := larger.folders l inside
      cases step with
      | stay => exact (ih made).after fun later => by simp only [follow, still, if_true]
      | up => exact (ih made).after fun later => by simp only [follow, still, if_true]
      | into name =>
        simp only at made
        split at made
        next node there =>
          have present := larger.present (l ++ [name]) (by rw [there]; rfl)
          exact (ih made).after fun later => by simp only [follow, still, present, if_true]
        next missing =>
          split at made
          · have folder := (extends_of_makeAlong made).folders (l ++ [name])
              (by rw [isFolder, at?_put_self d (by simp)]; rfl)
            have stands : d'.at? (l ++ [name]) = some .folder := of_decide_eq_true folder
            have leads (later : List Path.Step) : d'.follow l (.into name :: later) =
                d'.follow (l ++ [name]) later := by
              simp only [follow, still, stands, Option.isSome_some, if_true]
            by_cases same : x = l ++ [name]
            · subst same
              exact .inr ⟨missing, stands, 1, leads []⟩
            · have other := (ih made).after leads
              rw [SameOrMade, at?_put_of_ne d (by simp) .folder same] at other
              exact other
          · cases made
            exact .inl rfl
    · cases made
      exact .inl rfl

theorem SameOrMade.of_take {k : Nat} {x : Location} (h : d.SameOrMade d' l (steps.take k) x) :
    d.SameOrMade d' l steps x := by
  rcases h with same | ⟨missing, made, n, found⟩
  · exact .inl same
  · exact .inr ⟨missing, made, min n k, by rw [← List.take_take, found]⟩

/-- Disks that differ in nothing but folders that were missing along a path. -/
structure Gains (d d' : Disk) (p : Path) : Prop where
  here : d'.here = d.here
  locations : ∀ x, d.SameOrMade d' (d'.start p) p.steps x

namespace Gains

theorem refl (d : Disk) (p : Path) : d.Gains d p := ⟨rfl, fun _ => .inl rfl⟩

theorem file_iff (gains : d.Gains d' p) :
    d'.at? l = some (.file bytes) ↔ d.at? l = some (.file bytes) := by
  rcases gains.locations l with same | ⟨missing, made, _⟩
  · rw [same]
  · simp [missing, made]

end Gains

theorem gains_makeAlong (d : Disk) (p : Path) (k : Nat) :
    d.Gains (d.makeAlong (d.start p) (p.steps.take k)).2 p := by
  have larger := d.makeAlong_extends (d.start p) (p.steps.take k)
  refine ⟨larger.here, fun x => ?_⟩
  rw [start_congr larger.here p]
  exact (sameOrMade_of_makeAlong rfl x).of_take

theorem locate?_of_makeFolders (made : d.makeFolders p = (true, d')) :
    ∃ l, d'.locate? p = some l := by
  have there : d'.HasFolder p := (makeFolders_hasFolder made).2 d' (.refl d')
  unfold HasFolder makeFolders at there
  split at there
  next named =>
    split at there
    next l grown reached =>
      obtain ⟨_, rfl⟩ := Prod.mk.inj there
      exact ⟨l, by rw [locate?, if_pos named, follow_of_makeAlong reached]⟩
    · cases there
  · cases there

theorem gains_of_makeFolders {b : Bool} (made : d.makeFolders p = (b, d')) : d.Gains d' p := by
  have gains := d.gains_makeAlong p p.steps.length
  rw [List.take_length] at gains
  unfold makeFolders at made
  split at made
  · split at made
    next along =>
      rw [along] at gains
      cases made
      exact gains
    next along =>
      rw [along] at gains
      cases made
      exact gains
  · cases made
    exact .refl d p

end Disk

end CallCapture

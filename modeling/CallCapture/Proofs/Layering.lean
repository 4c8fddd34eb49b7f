import CallCapture.Settings
import CallCapture.Text.Basic
import Mathlib

/-! Merging is looked at through single settings: there it prefers the value of the upper layer, so
it is associative and a layer without values is neutral. -/

namespace CallCapture

/-- The settings one by one, each with values of a type of its own. -/
inductive Setting
  | backward
  | forward
  | balance
  | snackbarMillis
  | fallbackCommands
  | tallyEnabled
  | tallyPath
deriving DecidableEq, Repr

namespace Setting

def Value : Setting → Type
  | .backward | .forward | .balance | .snackbarMillis => UInt64
  | .fallbackCommands | .tallyEnabled => Bool
  | .tallyPath => String

def sectionName : Setting → String
  | .backward | .forward | .balance => "budgets"
  | .snackbarMillis => "feedback"
  | .fallbackCommands => "clipboard"
  | .tallyEnabled | .tallyPath => "usage"

/-- The keys of that section, in the order in which an array gives their values. -/
def sectionKeys : Setting → List String
  | .backward | .forward | .balance => ["backward_anchor", "forward_anchor", "balance"]
  | .snackbarMillis => ["snackbar_duration_ms"]
  | .fallbackCommands => ["fallback_commands"]
  | .tallyEnabled | .tallyPath => ["enabled", "path"]

def key : Setting → String
  | .backward => "backward_anchor"
  | .forward => "forward_anchor"
  | .balance => "balance"
  | .snackbarMillis => "snackbar_duration_ms"
  | .fallbackCommands => "fallback_commands"
  | .tallyEnabled => "enabled"
  | .tallyPath => "path"

def decode : (k : Setting) → Toml → Option k.Value
  | .backward | .forward | .balance | .snackbarMillis => Toml.word?
  | .fallbackCommands | .tallyEnabled => Toml.bool?
  | .tallyPath => Toml.string?

end Setting

/-! ### Numbers in a text -/

/-- A text denotes a number: decimal digits, and one plus sign allowed before them. -/
def Text.Denotes (s : List Char) (n : UInt64) : Prop :=
  ∃ ds, (s = ds ∨ s = '+' :: ds) ∧ ds ≠ [] ∧ (∀ c ∈ ds, isDigit c = true) ∧ decimal ds = n.toNat

theorem Text.word_of_digits_iff {ds : List Char} {n : UInt64} :
    (if ds.isEmpty || !ds.all isDigit then none
      else if decimal ds < UInt64.size then some (UInt64.ofNat (decimal ds)) else none) = some n ↔
      ds ≠ [] ∧ (∀ c ∈ ds, isDigit c = true) ∧ decimal ds = n.toNat := by
  have bad : (ds.isEmpty || !ds.all isDigit) = true ↔
      ¬ (ds ≠ [] ∧ ∀ c ∈ ds, isDigit c = true) := by
    rw [← List.all_eq_true, ← List.isEmpty_eq_false_iff]
    cases ds.isEmpty <;> simp
  rw [← and_assoc]
  split
  next h => simp [bad.mp h]
  next h =>
    have digits := not_not.mp (h ∘ bad.mpr)
    split
    next small =>
      rw [Option.some.injEq, ← UInt64.toNat_inj, UInt64.toNat_ofNat_of_lt' small]
      exact (and_iff_right digits).symm
    next large =>
      have below : n.toNat < UInt64.size := n.toNat_lt
      simp only [reduceCtorEq, false_iff, not_and]
      omega

theorem Text.word?_eq_some_iff {s : List Char} {n : UInt64} :
    word? s = some n ↔ Denotes s n := by
  unfold word?
  split
  next rest =>
    rw [word_of_digits_iff]
    constructor
    · exact fun digits => ⟨rest, .inr rfl, digits⟩
    · rintro ⟨ds, rfl | same, digits⟩
      · have plus : isDigit '+' = true := digits.2.1 '+' List.mem_cons_self
        contradiction
      · cases same
        exact digits
  next unsigned =>
    rw [word_of_digits_iff]
    constructor
    · exact fun digits => ⟨s, .inl rfl, digits⟩
    · rintro ⟨ds, rfl | same, digits⟩
      · exact digits
      · exact absurd same (unsigned ds)

namespace Settings

def get (s : Settings) : (k : Setting) → Option k.Value
  | .backward => s.backward
  | .forward => s.forward
  | .balance => s.balance
  | .snackbarMillis => s.snackbarMillis
  | .fallbackCommands => s.fallbackCommands
  | .tallyEnabled => s.tallyEnabled
  | .tallyPath => s.tallyPath

theorem ext_get {a b : Settings} (same : ∀ k, a.get k = b.get k) : a = b := by
  cases a
  cases b
  rw [mk.injEq]
  exact ⟨same .backward, same .forward, same .balance, same .snackbarMillis,
    same .fallbackCommands, same .tallyEnabled, same .tallyPath⟩

/-! ### Merging -/

theorem merge_get (base layer : Settings) (k : Setting) :
    (merge base layer).get k = (layer.get k).or (base.get k) := by
  cases k <;> rfl

theorem empty_get (k : Setting) : ({} : Settings).get k = none := by
  cases k <;> rfl

theorem merge_assoc (a b c : Settings) : merge (merge a b) c = merge a (merge b c) :=
  ext_get fun k => by simp only [merge_get, Option.or_assoc]

theorem empty_merge (s : Settings) : merge {} s = s :=
  ext_get fun k => by rw [merge_get, empty_get, Option.or_none]

theorem merge_empty (s : Settings) : merge s {} = s :=
  ext_get fun k => by rw [merge_get, empty_get, Option.none_or]

theorem foldl_merge (base : Settings) (layers : List Settings) :
    layers.foldl merge base = merge base (layered layers) := by
  induction layers generalizing base with
  | nil => exact (merge_empty base).symm
  | cons s layers ih =>
    rw [layered, List.foldl_cons, List.foldl_cons, ih, ih, merge_assoc, empty_merge]

theorem layered_cons (s : Settings) (layers : List Settings) :
    layered (s :: layers) = merge s (layered layers) := by
  rw [layered, List.foldl_cons, empty_merge, foldl_merge]

/-! ### What a layer sets -/

inductive Layer
  | builtin
  | file (es : Toml.Entries)
  | environment (e : Environment)

/-- A layer sets a setting to a value. -/
inductive Layer.Sets : Layer → (k : Setting) → k.Value → Prop
  | builtin {k : Setting} {v : k.Value} (default : Settings.builtin.get k = some v) :
      Sets .builtin k v
  | file {es entries : Toml.Entries} {k : Setting} {group item : Toml} {v : k.Value}
      (found : es.lookup k.sectionName = some group)
      (opened : Toml.section? k.sectionKeys group = some entries)
      (stands : entries.lookup k.key = some item) (decoded : k.decode item = some v) :
      Sets (.file es) k v
  | tallyPath {e : Environment} {text : String}
      (given : e.lookup "WIDGET_CATCHER_USAGE_FILE" = some text) :
      Sets (.environment e) .tallyPath text
  | balance {e : Environment} {text : String} {n : UInt64}
      (given : e.lookup "WIDGET_CATCHER_BALANCE_BUDGET" = some text)
      (number : Text.Denotes (Text.trim text.toList) n) :
      Sets (.environment e) .balance n

def Layer.Unset (l : Layer) (k : Setting) : Prop := ∀ v, ¬ l.Sets k v

/-- The last of the layers that sets a setting sets it to this value. -/
def LastSet (layers : List Layer) (k : Setting) (v : k.Value) : Prop :=
  ∃ before l after, layers = before ++ l :: after ∧ l.Sets k v ∧ ∀ later ∈ after, later.Unset k

def Holds (l : Layer) (s : Settings) : Prop := ∀ k v, l.Sets k v ↔ s.get k = some v

theorem Holds.unset_iff {l : Layer} {s : Settings} (holds : Holds l s) {k : Setting} :
    l.Unset k ↔ s.get k = none := by
  simp only [Layer.Unset, holds k, Option.eq_none_iff_forall_ne_some, ne_eq]

theorem lastSet_cons {l : Layer} {layers : List Layer} {k : Setting} {v : k.Value} :
    LastSet (l :: layers) k v ↔
      LastSet layers k v ∨ (∀ later ∈ layers, later.Unset k) ∧ l.Sets k v := by
  constructor
  · rintro ⟨before, last, after, whole, sets, unset⟩
    cases before with
    | nil =>
      cases whole
      exact .inr ⟨unset, sets⟩
    | cons first before =>
      cases whole
      exact .inl ⟨before, last, after, rfl, sets, unset⟩
  · rintro (⟨before, last, after, whole, sets, unset⟩ | ⟨unset, sets⟩)
    · exact ⟨l :: before, last, after, congrArg (l :: ·) whole, sets, unset⟩
    · exact ⟨[], l, layers, rfl, sets, unset⟩

theorem layered_eq_none_iff {layers : List Layer} {ss : List Settings}
    (holds : List.Forall₂ Holds layers ss) {k : Setting} :
    (layered ss).get k = none ↔ ∀ l ∈ layers, l.Unset k := by
  induction holds with
  | nil => simp [layered, empty_get]
  | cons first _ ih =>
    rw [layered_cons, merge_get, Option.or_eq_none_iff, ih, List.forall_mem_cons,
      first.unset_iff, and_comm]

theorem layered_eq_some_iff {layers : List Layer} {ss : List Settings}
    (holds : List.Forall₂ Holds layers ss) {k : Setting} {v : k.Value} :
    (layered ss).get k = some v ↔ LastSet layers k v := by
  induction holds with
  | nil => simp [layered, empty_get, LastSet]
  | cons first rest ih =>
    rw [layered_cons, merge_get, Option.or_eq_some_iff, ih, layered_eq_none_iff rest,
      lastSet_cons, first k]

/-! ### The three kinds of layers -/

theorem builtin_holds : Holds .builtin builtin := fun _ _ =>
  ⟨fun | .builtin default => default, .builtin⟩

theorem sets_file_iff {es entries : Toml.Entries} {k : Setting} {held : Option k.Value}
    (found : es.sectionAt? k.sectionName k.sectionKeys = some entries)
    (read : entries.optional k.key k.decode = some held) {v : k.Value} :
    (Layer.file es).Sets k v ↔ held = some v := by
  unfold Toml.Entries.sectionAt? at found
  unfold Toml.Entries.optional at read
  constructor
  · rintro (_ | ⟨group, opened, stands, decoded⟩)
    rw [group] at found
    cases Option.some.inj (opened.symm.trans found)
    rw [stands] at read
    simpa [decoded] using read.symm
  · rintro rfl
    cases stands : entries.lookup k.key with
    | none => simp [stands] at read
    | some item =>
      cases group : es.lookup k.sectionName with
      | none =>
        simp only [group, Option.some.injEq] at found
        simp [← found] at stands
      | some table =>
        simp only [group] at found
        simp only [stands, Option.map_eq_some_iff, Option.some.injEq, exists_eq_right] at read
        exact .file group found stands read

theorem file_holds {es : Toml.Entries} {s : Settings} (read : ofEntries? es = some s) :
    Holds (.file es) s := by
  simp only [ofEntries?, Option.bind_eq_bind, Option.bind_eq_some_iff] at read
  obtain ⟨_, budgets, _, feedback, _, clipboard, _, usage, read⟩ := read
  obtain ⟨_, backward, _, forward, _, balance, _, snackbar, read⟩ := read
  obtain ⟨_, fallback, _, enabled, _, path, made⟩ := read
  cases made
  intro k v
  cases k with
  | backward => exact sets_file_iff budgets backward
  | forward => exact sets_file_iff budgets forward
  | balance => exact sets_file_iff budgets balance
  | snackbarMillis => exact sets_file_iff feedback snackbar
  | fallbackCommands => exact sets_file_iff clipboard fallback
  | tallyEnabled => exact sets_file_iff usage enabled
  | tallyPath => exact sets_file_iff usage path

theorem merge_get_of_absent {es entries : Toml.Entries} {layer : Settings} {k : Setting}
    (read : ofEntries? es = some layer)
    (found : es.sectionAt? k.sectionName k.sectionKeys = some entries)
    (absent : entries.lookup k.key = none) (base : Settings) :
    (merge base layer).get k = base.get k := by
  have nothing : entries.optional k.key k.decode = some none := by
    rw [Toml.Entries.optional, absent]
  have unset : (Layer.file es).Unset k := fun v sets =>
    nomatch (sets_file_iff found nothing).mp sets
  rw [merge_get, (file_holds read).unset_iff.mp unset, Option.none_or]

theorem environment_holds (e : Environment) : Holds (.environment e) (ofEnvironment e) := by
  intro k v
  constructor
  · intro sets
    cases sets with
    | tallyPath given => exact given
    | balance given number =>
      exact Option.bind_eq_some_iff.mpr ⟨_, given, Text.word?_eq_some_iff.mpr number⟩
  · intro held
    cases k with
    | tallyPath => exact .tallyPath held
    | balance =>
      obtain ⟨text, given, number⟩ := Option.bind_eq_some_iff.mp held
      exact .balance given (Text.word?_eq_some_iff.mp number)
    | backward => cases held
    | forward => cases held
    | snackbarMillis => cases held
    | fallbackCommands => cases held
    | tallyEnabled => cases held

/-! ### Files -/

/-- What a path supplies to a layer: the entries of the file there, which can be read as settings,
or no entries where there is no path or no file. -/
inductive Supplies (d : Disk) : Option Path → Toml.Entries → Prop
  | unnamed : Supplies d none []
  | missing {p : Path} (gone : d.pathExists p = false) : Supplies d (some p) []
  | file {p : Path} {text : String} {es : Toml.Entries} {s : Settings}
      (read : d.readText? p = some text) (parsed : Toml.read? text.toList = some es)
      (valid : ofEntries? es = some s) : Supplies d (some p) es

theorem pathExists_of_readText? {d : Disk} {p : Path} {text : String}
    (read : d.readText? p = some text) : d.pathExists p = true := by
  rw [Disk.pathExists]
  cases found : d.locate? p with
  | none => simp [Disk.readText?, Disk.get?, found] at read
  | some l => rfl

theorem readLayer_of_read {d : Disk} {p : Path} {text : String} {es : Toml.Entries} {s : Settings}
    (read : d.readText? p = some text) (parsed : Toml.read? text.toList = some es)
    (valid : ofEntries? es = some s) : readLayer d p = .ok s := by
  simp only [readLayer, read, ofTomlText?, parsed, Option.bind_some, valid]

theorem supplies_written {d : Disk} {p : Path} {text : String} {es : Toml.Entries} {s : Settings}
    (found : d.get? p = some (.file text.toUTF8)) (parsed : Toml.read? text.toList = some es)
    (valid : ofEntries? es = some s) : Supplies d (some p) es := by
  have read : d.readText? p = some text := by
    rw [Disk.readText?, found]
    exact Text.fromUTF8?_toUTF8 text
  exact .file read parsed valid

theorem Supplies.holds {d : Disk} {p : Option Path} {es : Toml.Entries}
    (supplies : Supplies d p es) :
    ∃ s, readLayerIfPresent d p = .ok s ∧ Holds (.file es) s := by
  cases supplies with
  | unnamed => exact ⟨{}, rfl, file_holds rfl⟩
  | missing gone =>
    refine ⟨{}, ?_, file_holds rfl⟩
    simp only [readLayerIfPresent, gone, Bool.false_eq_true, if_false]
  | file read parsed valid =>
    refine ⟨_, ?_, file_holds valid⟩
    simp only [readLayerIfPresent, pathExists_of_readText? read, if_true]
    exact readLayer_of_read read parsed valid

/-! ### The workspace -/

def HoldsRepository (d : Disk) (l : Location) : Prop := (d.at? (l ++ [".git"])).isSome

/-- The nearest folder from the current one upwards that holds `.git`, or the current folder if
none does. -/
def IsWorkspace (d : Disk) (root : Location) : Prop :=
  (root <+: d.here ∧ HoldsRepository d root ∧
      ∀ l, l <+: d.here → HoldsRepository d l → l <+: root) ∨
    (root = d.here ∧ ∀ l, l <+: d.here → ¬ HoldsRepository d l)

theorem mem_upwards {l above : Location} : above ∈ l.upwards ↔ above <+: l := by
  simp only [Location.upwards, List.mem_map, List.mem_range]
  constructor
  · rintro ⟨k, _, rfl⟩
    exact List.take_prefix _ _
  · intro part
    have shorter := part.length_le
    refine ⟨l.length - above.length, by omega, ?_⟩
    rw [Nat.sub_sub_self shorter]
    exact (List.prefix_iff_eq_take.mp part).symm

theorem upwards_descending (l : Location) : l.upwards.Pairwise fun a b => b <+: a := by
  rw [Location.upwards, List.pairwise_map]
  refine List.pairwise_lt_range.imp fun below => ?_
  exact List.take_prefix_take_left (by omega)

theorem IsWorkspace.unique {d : Disk} {root root' : Location} (first : IsWorkspace d root)
    (second : IsWorkspace d root') : root = root' := by
  rcases first with ⟨above, holds, nearest⟩ | ⟨here, none⟩
  · rcases second with ⟨above', holds', nearest'⟩ | ⟨_, none'⟩
    · have shorter := nearest' root above holds
      exact shorter.eq_of_length_le (nearest root' above' holds').length_le
    · exact absurd holds (none' root above)
  · rcases second with ⟨above', holds', _⟩ | ⟨here', _⟩
    · exact absurd holds' (none root' above')
    · rw [here, here']

theorem isWorkspace_workspace (d : Disk) : IsWorkspace d (workspace d) := by
  rw [workspace]
  cases found : d.here.upwards.find? fun l => (d.at? (l ++ [".git"])).isSome with
  | none =>
    refine .inr ⟨rfl, fun l part holds => ?_⟩
    exact List.find?_eq_none.mp found l (mem_upwards.mpr part) holds
  | some root =>
    obtain ⟨holds, before, after, whole, bare⟩ := List.find?_eq_some_iff_append.mp found
    have descending := upwards_descending d.here
    rw [whole] at descending
    have below := (List.pairwise_cons.mp (List.pairwise_append.mp descending).2.1).1
    refine .inl ⟨mem_upwards.mp (whole ▸ by simp), holds, fun l part repository => ?_⟩
    have member := mem_upwards.mpr part
    rw [whole, List.mem_append, List.mem_cons] at member
    rcases member with early | rfl | late
    · have absent : ¬ HoldsRepository d l := by simpa [HoldsRepository] using bare l early
      exact absurd repository absent
    · exact List.prefix_rfl
    · exact below l late

def builtinText : String :=
  "# Built-in defaults. User (~/.config/widget-catcher/config.toml), workspace\n"
    ++ "# (.widget-catcher/config.toml), and explicit --config layers override these.\n"
    ++ "\n"
    ++ "[budgets]\n"
    ++ "backward_anchor = 50\n"
    ++ "forward_anchor = 100\n"
    ++ "balance = 10000\n"
    ++ "\n"
    ++ "[feedback]\n"
    ++ "snackbar_duration_ms = 1500\n"
    ++ "\n"
    ++ "[clipboard]\n"
    ++ "fallback_commands = true\n"
    ++ "\n"
    ++ "[usage]\n"
    ++ "enabled = true\n"

theorem builtinText_parsed : ofTomlText? builtinText.toList = some builtin := by decide +kernel

/-! ### All layers -/

theorem load_of_present {e : Environment} {d : Disk} {explicit : Option Path}
    (present : ∀ p ∈ explicit, d.pathExists p = true) :
    load e d explicit = (do
      let user ← readLayerIfPresent d (userFile? e)
      let shared ← readLayerIfPresent d (some (workspaceFile d))
      let named ← readLayerIfPresent d explicit
      pure (layered [builtin, user, shared, named, ofEnvironment e])) := by
  cases explicit with
  | none => rfl
  | some p =>
    have there := present p rfl
    simp only [load, readLayerIfPresent, there, if_true]

theorem load_missing {e : Environment} {d : Disk} {user shared : Settings}
    (ofUser : readLayerIfPresent d (userFile? e) = .ok user)
    (ofWorkspace : readLayerIfPresent d (some (workspaceFile d)) = .ok shared) {p : Path}
    (missing : d.pathExists p = false) : load e d (some p) = .error (.unreadable p) := by
  have unread : d.readText? p = none := by
    rw [Option.eq_none_iff_forall_ne_some]
    intro text read
    rw [pathExists_of_readText? read] at missing
    cases missing
  simp only [load, ofUser, ofWorkspace, readLayer, unread]
  rfl

/-- With the files of the user and the workspace there or not, settings are loaded, and each of them
is what the last layer says that sets it; a file that is named has to be there. A key that does not
stand in its section leaves the setting as it was, whatever else stands there; merging is
associative, and a layer without values is neutral on either side. -/
theorem load_lastSet {e : Environment} {d : Disk} {explicit : Option Path} {root : Location}
    {user shared named : Toml.Entries} (nearest : IsWorkspace d root)
    (ofUser : Supplies d (userFile? e) user)
    (ofWorkspace : Supplies d (some (root.path.join ⟨".widget-catcher/config.toml"⟩)) shared)
    (ofNamed : Supplies d explicit named) (present : ∀ p ∈ explicit, d.pathExists p = true) :
    let layers := [.builtin, .file user, .file shared, .file named, .environment e]
    (∃ s, load e d explicit = .ok s ∧
      (∀ k v, s.get k = some v ↔ LastSet layers k v) ∧
      ∀ k, s.get k = none ↔ ∀ l ∈ layers, l.Unset k) ∧
    (∀ es layer, ofEntries? es = some layer →
      ∀ k entries, es.sectionAt? k.sectionName k.sectionKeys = some entries →
        entries.lookup k.key = none → ∀ base, (merge base layer).get k = base.get k) ∧
    (∀ p, d.pathExists p = false → load e d (some p) = .error (.unreadable p)) ∧
    (∀ a b c, merge (merge a b) c = merge a (merge b c)) ∧
    ∀ s, merge {} s = s ∧ merge s {} = s := by
  intro layers
  obtain ⟨own, readOwn, ownHolds⟩ := ofUser.holds
  obtain ⟨common, readCommon, commonHolds⟩ := ofWorkspace.holds
  obtain ⟨last, readLast, lastHolds⟩ := ofNamed.holds
  have holds : List.Forall₂ Holds layers [builtin, own, common, last, ofEnvironment e] :=
    .cons builtin_holds (.cons ownHolds (.cons commonHolds (.cons lastHolds
      (.cons (environment_holds e) .nil))))
  rw [nearest.unique (isWorkspace_workspace d), ← workspaceFile] at readCommon
  have loaded : load e d explicit =
      .ok (layered [builtin, own, common, last, ofEnvironment e]) := by
    rw [load_of_present present, readOwn, readCommon, readLast]
    rfl
  exact ⟨⟨_, loaded, fun _ _ => layered_eq_some_iff holds, fun _ => layered_eq_none_iff holds⟩,
    fun _ _ read _ _ found absent base => merge_get_of_absent read found absent base,
    fun _ missing => load_missing readOwn readCommon missing, merge_assoc,
    fun s => ⟨empty_merge s, merge_empty s⟩⟩

/-! ### Files of two layers under the environment -/

def userText : String := "[budgets]\nforward_anchor = 20\nbalance = 500"

def workspaceText : String := "[budgets]\nbalance = 10\n[usage]\nenabled = false"

def layeredDisk : Disk where
  entries := [
    (["c"], .folder), (["c", "widget-catcher"], .folder),
    (["c", "widget-catcher", "config.toml"], .file userText.toUTF8),
    (["w"], .folder), (["w", ".git"], .folder), (["w", "src"], .folder),
    (["w", ".widget-catcher"], .folder),
    (["w", ".widget-catcher", "config.toml"], .file workspaceText.toUTF8)]
  here := ["w", "src"]

def layeredEnvironment : Environment where
  values := [("XDG_CONFIG_HOME", "/c"), ("WIDGET_CATCHER_USAGE_FILE", "/u")]

def userEntries : Toml.Entries :=
  [("budgets", .table .header [("forward_anchor", .integer 20), ("balance", .integer 500)])]

def workspaceEntries : Toml.Entries :=
  [("budgets", .table .header [("balance", .integer 10)]),
    ("usage", .table .header [("enabled", .bool false)])]

theorem userText_parsed : Toml.read? userText.toList = some userEntries := by cbv

theorem workspaceText_parsed : Toml.read? workspaceText.toList = some workspaceEntries := by cbv

theorem load_lastSet_two_files :
    ∃ s, load layeredEnvironment layeredDisk none = .ok s ∧ s.get .backward = some (50 : UInt64) ∧
      s.get .forward = some (20 : UInt64) ∧ s.get .balance = some (10 : UInt64) ∧
      s.get .tallyEnabled = some false ∧ s.get .tallyPath = some "/u" := by
  have root : workspace layeredDisk = ["w"] := by decide
  have nearest : IsWorkspace layeredDisk ["w"] := root ▸ isWorkspace_workspace layeredDisk
  have ofUser : Supplies layeredDisk (userFile? layeredEnvironment) userEntries :=
    supplies_written rfl userText_parsed rfl
  have ofWorkspace : Supplies layeredDisk (some (workspaceFile layeredDisk)) workspaceEntries :=
    supplies_written rfl workspaceText_parsed rfl
  rw [workspaceFile, root] at ofWorkspace
  obtain ⟨⟨s, loaded, set, _⟩, _⟩ :=
    load_lastSet nearest ofUser ofWorkspace .unnamed (fun _ named => nomatch named)
  have user : Holds (.file userEntries) { forward := some 20, balance := some 500 } :=
    file_holds rfl
  have shared : Holds (.file workspaceEntries)
      { balance := some 10, tallyEnabled := some false } := file_holds rfl
  have named : Holds (.file []) {} := file_holds rfl
  have environment := environment_holds layeredEnvironment
  refine ⟨s, loaded, (set _ _).mpr ⟨[], _, _, rfl, (builtin_holds _ _).mpr rfl, ?_⟩,
    (set _ _).mpr ⟨[_], _, _, rfl, (user _ _).mpr rfl, ?_⟩,
    (set _ _).mpr ⟨[_, _], _, _, rfl, (shared _ _).mpr rfl, ?_⟩,
    (set _ _).mpr ⟨[_, _], _, _, rfl, (shared _ _).mpr rfl, ?_⟩,
    (set _ _).mpr ⟨[_, _, _, _], _, _, rfl, (environment _ _).mpr rfl, ?_⟩⟩
  all_goals
    simp only [List.forall_mem_cons, List.not_mem_nil, false_implies, implies_true, and_true,
      user.unset_iff, shared.unset_iff, named.unset_iff, environment.unset_iff]
  · exact ⟨rfl, rfl, rfl, rfl⟩
  · exact ⟨rfl, rfl, rfl⟩
  · exact ⟨rfl, rfl⟩
  · exact ⟨rfl, rfl⟩

end Settings

end CallCapture

import CallCapture.Json.Value
import CallCapture.Proofs.Building

namespace CallCapture.Json

theorem add_new {fields : List Field} {r : Record} {name : String} {j : Json}
    (known : name ∈ fields.map (·.name)) (new : r.get? name = none) :
    Record.add fields r (some name, j) = some ⟨r.given ++ [(name, j)]⟩ := by
  have listed : fields.all (·.name != name) = false := by
    obtain ⟨f, member, rfl⟩ := List.mem_map.mp known
    exact List.all_eq_false.mpr ⟨f, member, by simp⟩
  simp only [Record.add, Option.bind_some, listed, new]
  rfl

theorem get?_concat (r : Record) (name other : String) (j : Json) :
    Record.get? ⟨r.given ++ [(name, j)]⟩ other =
      (r.get? other).or (if other = name then some j else none) := by
  by_cases same : other = name
  · simp [Record.get?, List.lookup_append, same]
  · have apart : (other == name) = false := beq_false_of_ne same
    simp [Record.get?, List.lookup_append, List.lookup_cons, same, apart]

theorem foldlM_add {fields : List Field} {members : List (Words × Json)} (r : Record)
    (known : ∀ m ∈ members, ∃ name ∈ fields.map (·.name), m.1 = some name)
    (distinct : (members.map Prod.fst).Nodup)
    (new : ∀ name, some name ∈ members.map Prod.fst → r.get? name = none) :
    ∃ r', members.foldlM (Record.add fields) r = some r' ∧
      ∀ name, r'.get? name = (r.get? name).or (members.lookup (some name)) := by
  induction members generalizing r with
  | nil => exact ⟨r, rfl, by simp⟩
  | cons m members ih =>
    obtain ⟨key, j⟩ := m
    obtain ⟨name, listed, same⟩ := known _ List.mem_cons_self
    have isKey : key = some name := same
    subst isKey
    rw [List.map_cons, List.nodup_cons] at distinct
    have added := add_new (j := j) listed (new name (by simp))
    have stillNew : ∀ other, some other ∈ members.map Prod.fst →
        Record.get? ⟨r.given ++ [(name, j)]⟩ other = none := by
      intro other later
      have apart : other ≠ name := by
        rintro rfl
        exact distinct.1 later
      rw [get?_concat, if_neg apart, new other (List.mem_cons_of_mem _ later)]
      rfl
    obtain ⟨r', folded, found⟩ := ih _ (fun m member => known m (List.mem_cons_of_mem _ member))
      distinct.2 stillNew
    refine ⟨r', by rw [List.foldlM_cons, added]; exact folded, fun other => ?_⟩
    rw [found, get?_concat, Option.or_assoc]
    by_cases isName : other = name
    · simp [isName]
    · have apart : (some other == some name) = false := by simpa using isName
      simp [isName, apart, List.lookup_cons]

/-- An object made of fields in their order, some of them left out, is a record with its members. -/
theorem record?_object (fields : List Field) {members : List (Words × Json)}
    (distinct : (fields.map (·.name)).Nodup)
    (inOrder : (members.map Prod.fst).Sublist (fields.map fun f => some f.name)) :
    ∃ r, record? fields (.object members) = some r ∧
      ∀ name, r.get? name = members.lookup (some name) := by
  have names : (fields.map fun f => some f.name) = (fields.map (·.name)).map some := by simp
  rw [names] at inOrder
  have known : ∀ m ∈ members, ∃ name ∈ fields.map (·.name), m.1 = some name := by
    intro m member
    obtain ⟨name, listed, same⟩ :=
      List.mem_map.mp (inOrder.subset (List.mem_map_of_mem (f := Prod.fst) member))
    exact ⟨name, listed, same.symm⟩
  have once : (members.map Prod.fst).Nodup :=
    inOrder.nodup
      (List.Pairwise.map some (fun _ _ apart same => apart (Option.some.inj same)) distinct)
  obtain ⟨r, folded, found⟩ := foldlM_add ⟨[]⟩ known once fun _ _ => rfl
  exact ⟨r, folded, fun name => by rw [found]; rfl⟩

theorem bind_record? {fields : List Field} {members : List (Words × Json)} {α : Type}
    {decode : Record → Option α} {a : α} (distinct : (fields.map (·.name)).Nodup)
    (inOrder : (members.map Prod.fst).Sublist (fields.map fun f => some f.name))
    (decodes : ∀ r, (∀ name, r.get? name = members.lookup (some name)) → decode r = some a) :
    (record? fields (.object members) >>= decode) = some a := by
  obtain ⟨r, taken, found⟩ := record?_object fields distinct inOrder
  rw [taken]
  exact decodes r found

@[simp] theorem map_fst_member? {α : Type} (name : String) (encode : α → Json) (a : Option α) :
    (member? name encode a).map Prod.fst = (a.map fun _ => some name).toList := by
  cases a <;> rfl

theorem member?_sublist {α : Type} (name : String) (a : Option α) :
    (a.map fun _ => some name).toList.Sublist [some name] := by
  cases a with
  | none => exact List.nil_sublist _
  | some => exact .refl _

@[simp] theorem lookup_member? {α : Type} (name other : String) (encode : α → Json)
    (a : Option α) : (member? name encode a).lookup (some other) =
      if other = name then a.map encode else none := by
  by_cases same : other = name
  · cases a <;> simp [member?, same]
  · have apart : (some other == some name) = false := by simpa using same
    cases a <;> simp [member?, same, apart, List.lookup_cons]

theorem word?_ofNat (n : UInt64) : word? (ofNat n.toNat) = some n := by
  have fits : n.toNat < UInt64.size := n.toNat_lt_size
  simp [word?, ofNat, Number.ofNat, Text.decimal_digits, fits]

theorem string?_ofString (s : String) : string? (ofString s) = some s := rfl

theorem choice?_ofString {α : Type} (names : List (String × α)) (s : String) :
    choice? names (ofString s) = names.lookup s := rfl

/-- An encoding that a decoder takes back, and that never is null. -/
structure Reads {α : Type} (encode : α → Json) (decode : Json → Option α) : Prop where
  back : ∀ a, decode (encode a) = some a
  ne_null : ∀ a, encode a ≠ .null

theorem reads_string : Reads ofString string? := ⟨string?_ofString, by simp [ofString]⟩

theorem reads_bool : Reads .bool bool? := ⟨fun _ => rfl, by simp⟩

theorem reads_word : Reads (fun n : UInt64 => ofNat n.toNat) word? :=
  ⟨word?_ofNat, by simp [ofNat]⟩

theorem reads_choice {α : Type} {name : α → String} {names : List (String × α)}
    (listed : ∀ a, names.lookup (name a) = some a) :
    Reads (fun a => ofString (name a)) (choice? names) :=
  ⟨fun a => by rw [choice?_ofString, listed], by simp [ofString]⟩

section Fields

variable {α : Type} {encode : α → Json} {decode : Json → Option α} {r : Record} {name : String}

theorem Reads.required (reads : Reads encode decode) {a : α}
    (found : r.get? name = some (encode a)) : r.required name decode = some a := by
  rw [Record.required, found, Option.bind_some, reads.back]

theorem Reads.optional (reads : Reads encode decode) {a : Option α}
    (found : r.get? name = a.map encode) : r.optional name decode = some a := by
  rw [Record.optional, found]
  cases a with
  | none => rfl
  | some a =>
    have back := reads.back a
    have given := reads.ne_null a
    cases written : encode a with
    | null => exact absurd written given
    | _ =>
      rw [written] at back
      simp [written, back]

theorem Reads.orNull (reads : Reads encode decode) {a : Option α}
    (found : r.get? name = some (orNull encode a)) : r.optional name decode = some a := by
  cases a with
  | none => rw [Record.optional, found]; rfl
  | some a => exact reads.optional found

theorem Reads.orDefault (reads : Reads encode decode) {a : α} (default : α)
    (found : r.get? name = some (encode a)) : r.orDefault name decode default = some a := by
  rw [Record.orDefault, found]
  exact reads.back a

end Fields

theorem plain_null : Plain .null := by simp [Plain, tokens, Token.Plain]

theorem plain_bool (b : Bool) : Plain (.bool b) := by simp [Plain, tokens, Token.Plain]

theorem plain_ofString (s : String) : Plain (ofString s) := by
  simp [Plain, ofString, tokens, Token.Plain]

theorem plain_ofNat (n : Nat) : Plain (ofNat n) := by
  simp [Plain, ofNat, tokens, Token.Plain]

theorem plain_orNull {α : Type} {encode : α → Json} (plain : ∀ a, (encode a).Plain)
    (a : Option α) : (orNull encode a).Plain := by
  cases a with
  | none => exact plain_null
  | some a => exact plain a

theorem plain_member? {α : Type} {name : String} {encode : α → Json}
    (plain : ∀ a, (encode a).Plain) {a : Option α} :
    ∀ m ∈ member? name encode a, m.1.isSome ∧ m.2.Plain := by
  cases a with
  | none => simp [member?]
  | some a => simp [member?, plain]

theorem plain_members : ∀ {members : List (Words × Json)},
    (∀ m ∈ members, m.1.isSome ∧ m.2.Plain) → ∀ t ∈ memberTokens members, t.Plain
  | [], _ => by simp [memberTokens]
  | [(key, j)], plain => by
    obtain ⟨named, value⟩ := plain (key, j) (by simp)
    intro t member
    simp only [memberTokens, List.mem_cons] at member
    rcases member with rfl | rfl | inner
    · exact named
    · trivial
    · exact value t inner
  | (key, j) :: m :: rest, plain => by
    obtain ⟨named, value⟩ := plain (key, j) (by simp)
    have others := plain_members fun m member => plain m (List.mem_cons_of_mem _ member)
    intro t member
    simp only [memberTokens, List.mem_cons, List.mem_append] at member
    rcases member with rfl | rfl | inner | rfl | later
    · exact named
    · trivial
    · exact value t inner
    · trivial
    · exact others t later

theorem plain_object {members : List (Words × Json)}
    (plain : ∀ m ∈ members, m.1.isSome ∧ m.2.Plain) : Plain (.object members) := by
  intro t member
  simp only [tokens, List.mem_cons, List.mem_append, List.not_mem_nil, or_false] at member
  rcases member with rfl | inner | rfl
  · trivial
  · exact plain_members plain t inner
  · trivial

end CallCapture.Json

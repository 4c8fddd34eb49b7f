import CallCapture.Call
import Mathlib.Data.List.TakeWhile

/-! A name stands at a place of a text when the identifier that starts there is a capitalized one
and an opening parenthesis follows, blanks between them allowed. -/

namespace CallCapture

/-! ### Characters of names -/

theorem isNamePart_of_isNameStart {c : Char} (starts : isNameStart c = true) :
    isNamePart c = true := by
  rw [isNamePart, starts]
  rfl

theorem isNameStart_iff_toNat {c : Char} :
    isNameStart c = true ↔ 65 ≤ c.toNat ∧ c.toNat ≤ 90 := by
  simp only [isNameStart, Bool.and_eq_true, decide_eq_true_eq, Char.le_def, UInt32.le_iff_toNat_le]
  rfl

theorem isNamePart_iff_toNat {c : Char} : isNamePart c = true ↔
    (65 ≤ c.toNat ∧ c.toNat ≤ 90) ∨ (97 ≤ c.toNat ∧ c.toNat ≤ 122) ∨
      (48 ≤ c.toNat ∧ c.toNat ≤ 57) ∨ c.toNat = 95 := by
  have under : c = '_' ↔ c.toNat = 95 := Char.toNat_inj.symm
  simp only [isNamePart, isNameStart, Bool.or_eq_true, Bool.and_eq_true, decide_eq_true_eq,
    Char.le_def, UInt32.le_iff_toNat_le, under, or_assoc]
  rfl

theorem isBlank_iff_toNat {c : Char} : Text.isBlank c = true ↔
    c.toNat ∈ [0x09, 0x0A, 0x0B, 0x0C, 0x0D, 0x20, 0x85, 0xA0, 0x1680, 0x2000, 0x2001, 0x2002,
      0x2003, 0x2004, 0x2005, 0x2006, 0x2007, 0x2008, 0x2009, 0x200A, 0x2028, 0x2029, 0x202F,
      0x205F, 0x3000] := by
  simp only [Text.isBlank, Text.inRanges, Text.blankRanges, List.any_cons, List.any_nil,
    Bool.or_eq_true, Bool.and_eq_true, decide_eq_true_eq, Bool.or_false, List.mem_cons,
    List.not_mem_nil, or_false]
  omega

theorem not_isNamePart_of_isBlank {c : Char} (blank : Text.isBlank c = true) :
    isNamePart c = false := by
  rw [Bool.eq_false_iff, Ne, isNamePart_iff_toNat]
  simp only [isBlank_iff_toNat, List.mem_cons, List.not_mem_nil, or_false] at blank
  omega

theorem not_isNameStart {c : Char} (other : isNamePart c = false) : isNameStart c = false := by
  rw [Bool.eq_false_iff]
  intro starts
  rw [isNamePart_of_isNameStart starts] at other
  cases other

structure IsName (name : List Char) : Prop where
  starts : ∃ c rest, name = c :: rest ∧ isNameStart c = true
  parts : ∀ c ∈ name, isNamePart c = true

/-! ### A name at the start of a text -/

def opensNext (text : List Char) : Bool := (text.dropWhile Text.isBlank).head? == some '('

def EndsName (text : List Char) : Prop := text.dropWhile isNamePart = text

def nameHere? (text : List Char) : Option (List Char) :=
  if text.head?.any isNameStart && opensNext (text.dropWhile isNamePart) then
    some (text.takeWhile isNamePart)
  else none

theorem opensNext_iff {text : List Char} :
    opensNext text = true ↔
      ∃ blanks after, text = blanks ++ '(' :: after ∧ Text.AllBlank blanks := by
  rw [opensNext, beq_iff_eq]
  constructor
  · intro next
    obtain ⟨after, opens⟩ := List.head?_eq_some_iff.mp next
    refine ⟨text.takeWhile Text.isBlank, after, ?_, fun c blank => List.mem_takeWhile_imp blank⟩
    rw [← opens, List.takeWhile_append_dropWhile]
  · rintro ⟨blanks, after, rfl, blank⟩
    rw [List.dropWhile_append_of_pos blank]
    rfl

theorem endsName_nil : EndsName [] := rfl

theorem endsName_cons {c : Char} (other : isNamePart c = false) (rest : List Char) :
    EndsName (c :: rest) :=
  List.dropWhile_cons_of_neg (by rw [other]; exact Bool.false_ne_true)

theorem endsName_of_blanks {blanks : List Char} (blank : Text.AllBlank blanks) (some : blanks ≠ [])
    (rest : List Char) : EndsName (blanks ++ rest) := by
  cases blanks with
  | nil => exact absurd rfl some
  | cons c blanks => exact endsName_cons (not_isNamePart_of_isBlank (blank c List.mem_cons_self)) _

theorem endsName_blanks {blanks : List Char} (blank : Text.AllBlank blanks) {rest : List Char}
    (ends : EndsName rest) : EndsName (blanks ++ rest) := by
  cases blanks with
  | nil => exact ends
  | cons c blanks => exact endsName_of_blanks blank (List.cons_ne_nil c blanks) rest

theorem dropWhile_name {name rest : List Char} (parts : ∀ c ∈ name, isNamePart c = true)
    (ends : EndsName rest) : (name ++ rest).dropWhile isNamePart = rest := by
  rw [List.dropWhile_append_of_pos parts, ends]

theorem takeWhile_name {name rest : List Char} (parts : ∀ c ∈ name, isNamePart c = true)
    (ends : EndsName rest) : (name ++ rest).takeWhile isNamePart = name := by
  have whole := List.takeWhile_append_dropWhile (p := isNamePart) (l := name ++ rest)
  rw [dropWhile_name parts ends] at whole
  exact List.append_cancel_right whole

theorem nameHere?_name {name rest : List Char} (named : IsName name) (ends : EndsName rest)
    (opens : opensNext rest = true) : nameHere? (name ++ rest) = some name := by
  obtain ⟨c, tail, rfl, starts⟩ := named.starts
  rw [nameHere?, dropWhile_name named.parts ends, takeWhile_name named.parts ends, opens,
    List.cons_append, List.head?_cons, Option.any_some, starts]
  rfl

theorem nameHere?_eq_some_iff {text name : List Char} :
    nameHere? text = some name ↔ ∃ blanks after, NameSplit text [] name blanks after := by
  constructor
  · intro here
    obtain ⟨found, same⟩ := Option.ite_none_right_eq_some.mp here
    obtain ⟨starts, opens⟩ := Bool.and_eq_true_iff.mp found
    obtain ⟨blanks, after, behind, blank⟩ := opensNext_iff.mp opens
    obtain rfl := Option.some.inj same
    cases text with
    | nil => cases starts
    | cons c rest =>
      have part : isNamePart c = true := isNamePart_of_isNameStart starts
      refine ⟨blanks, after, ?_, ⟨c, rest.takeWhile isNamePart, ?_, starts⟩, ?_, blank⟩
      · rw [List.nil_append, List.append_assoc, ← behind, List.takeWhile_append_dropWhile]
      · rw [List.takeWhile_cons_of_pos part]
      · exact fun x taken => List.mem_takeWhile_imp taken
  · rintro ⟨blanks, after, whole, starts, parts, blank⟩
    rw [whole, List.nil_append, List.append_assoc]
    apply nameHere?_name ⟨starts, parts⟩
    · exact endsName_blanks blank (endsName_cons (by decide) after)
    · exact opensNext_iff.mpr ⟨blanks, after, rfl, blank⟩

theorem nameHere?_other {c : Char} (other : isNameStart c = false) (rest : List Char) :
    nameHere? (c :: rest) = none := by
  rw [nameHere?, List.head?_cons, Option.any_some, other]
  rfl

/-! ### The first place -/

def firstName? : List Char → Option (List Char)
  | [] => none
  | c :: rest => (nameHere? (c :: rest)).or (firstName? rest)

theorem firstName?_other {c : Char} (other : isNameStart c = false) (rest : List Char) :
    firstName? (c :: rest) = firstName? rest := by
  rw [firstName?, nameHere?_other other, Option.none_or]

theorem firstName?_blanks {blanks : List Char} (blank : Text.AllBlank blanks) (rest : List Char) :
    firstName? (blanks ++ rest) = firstName? rest := by
  induction blanks with
  | nil => rfl
  | cons c blanks ih =>
    have other := not_isNameStart (not_isNamePart_of_isBlank (blank c List.mem_cons_self))
    rw [List.cons_append, firstName?_other other, ih]
    exact fun x member => blank x (List.mem_cons_of_mem _ member)

theorem firstName?_unopened {name rest : List Char} (parts : ∀ c ∈ name, isNamePart c = true)
    (ends : EndsName rest) (unopened : opensNext rest = false) :
    firstName? (name ++ rest) = firstName? rest := by
  induction name with
  | nil => rfl
  | cons c name ih =>
    have nothing : nameHere? (c :: name ++ rest) = none := by
      rw [nameHere?, dropWhile_name parts ends, unopened, Bool.and_false]
      rfl
    rw [List.cons_append] at nothing ⊢
    rw [firstName?, nothing, Option.none_or]
    exact ih fun x member => parts x (List.mem_cons_of_mem _ member)

theorem firstName?_name {name rest : List Char} (named : IsName name) (ends : EndsName rest)
    (opens : opensNext rest = true) : firstName? (name ++ rest) = some name := by
  have here := nameHere?_name named ends opens
  obtain ⟨c, tail, rfl, _⟩ := named.starts
  rw [List.cons_append] at here ⊢
  rw [firstName?, here, Option.some_or]

/-- The leftmost name of a text: no split of the text has less before the name. -/
def FirstName (text name : List Char) : Prop :=
  ∃ before blanks after, NameSplit text before name blanks after ∧
    ∀ before' name' blanks' after', NameSplit text before' name' blanks' after' →
      before.length ≤ before'.length

theorem nameSplit_cons {c x : Char} {rest before name blanks after : List Char} :
    NameSplit (c :: rest) (x :: before) name blanks after ↔
      c = x ∧ NameSplit rest before name blanks after := by
  constructor
  · rintro ⟨whole, starts, parts, blank⟩
    obtain ⟨same, rest⟩ := List.cons.inj whole
    exact ⟨same, rest, starts, parts, blank⟩
  · rintro ⟨rfl, whole, starts, parts, blank⟩
    exact ⟨congrArg (c :: ·) whole, starts, parts, blank⟩

theorem firstName_of_here {text name : List Char} (here : nameHere? text = some name)
    (other : List Char) : FirstName text other ↔ name = other := by
  obtain ⟨blanks, after, split⟩ := nameHere?_eq_some_iff.mp here
  constructor
  · rintro ⟨before, blanks', after', found, least⟩
    have front : before = [] := List.length_eq_zero_iff.mp
      (Nat.le_zero.mp (least [] name blanks after split))
    rw [front] at found
    have same := nameHere?_eq_some_iff.mpr ⟨blanks', after', found⟩
    exact Option.some.inj (here.symm.trans same)
  · rintro rfl
    exact ⟨[], blanks, after, split, fun _ _ _ _ _ => Nat.zero_le _⟩

theorem firstName_cons_of_not_here {c : Char} {rest : List Char}
    (nothing : nameHere? (c :: rest) = none) (name : List Char) :
    FirstName (c :: rest) name ↔ FirstName rest name := by
  have later {before n blanks after} (split : NameSplit (c :: rest) before n blanks after) :
      ∃ front, before = c :: front ∧ NameSplit rest front n blanks after := by
    cases before with
    | nil =>
      rw [nameHere?_eq_some_iff.mpr ⟨blanks, after, split⟩] at nothing
      cases nothing
    | cons x front =>
      obtain ⟨rfl, inner⟩ := nameSplit_cons.mp split
      exact ⟨front, rfl, inner⟩
  constructor
  · rintro ⟨before, blanks, after, split, least⟩
    obtain ⟨front, rfl, inner⟩ := later split
    refine ⟨front, blanks, after, inner, fun front' n blanks' after' other => ?_⟩
    exact Nat.le_of_succ_le_succ
      (least (c :: front') n blanks' after' (nameSplit_cons.mpr ⟨rfl, other⟩))
  · rintro ⟨before, blanks, after, split, least⟩
    refine ⟨c :: before, blanks, after, nameSplit_cons.mpr ⟨rfl, split⟩,
      fun before' n blanks' after' other => ?_⟩
    obtain ⟨front, rfl, inner⟩ := later other
    exact Nat.succ_le_succ (least front n blanks' after' inner)

theorem firstName?_eq_some_iff {text name : List Char} :
    firstName? text = some name ↔ FirstName text name := by
  induction text with
  | nil =>
    constructor
    · intro found
      cases found
    · rintro ⟨before, blanks, after, split, _⟩
      exact absurd split.whole.symm (by simp)
  | cons c rest ih =>
    cases here : nameHere? (c :: rest) with
    | some n => rw [firstName?, here, Option.some_or, Option.some.injEq, firstName_of_here here]
    | none => rw [firstName?, here, Option.none_or, ih, firstName_cons_of_not_here here]

theorem firstName?_eq_none_iff {text : List Char} : firstName? text = none ↔
    ∀ before name blanks after, ¬ NameSplit text before name blanks after := by
  constructor
  · intro nothing
    induction text with
    | nil => exact fun before name blanks after split => absurd split.whole.symm (by simp)
    | cons c rest ih =>
      rw [firstName?, Option.or_eq_none_iff] at nothing
      rintro (_ | ⟨x, front⟩) name blanks after split
      · rw [nameHere?_eq_some_iff.mpr ⟨blanks, after, split⟩] at nothing
        cases nothing.1
      · exact ih nothing.2 front name blanks after (nameSplit_cons.mp split).2
  · intro nowhere
    rw [Option.eq_none_iff_forall_ne_some]
    intro name found
    obtain ⟨before, blanks, after, split, _⟩ := firstName?_eq_some_iff.mp found
    exact nowhere before name blanks after split

/-! ### The reader -/

/-- The part of the text that the reader still holds, which may belong to a name. -/
inductive NameReader.Holds : NameReader → List Char → Prop
  | outside : Holds .outside []
  | inName {name : List Char} (named : IsName name.reverse) : Holds (.inName name) name.reverse
  | afterName {name blanks : List Char} (named : IsName name.reverse)
      (blank : Text.AllBlank blanks) (some : blanks ≠ []) :
      Holds (.afterName name) (name.reverse ++ blanks)

theorem isName_singleton {c : Char} (starts : isNameStart c = true) : IsName [c].reverse :=
  ⟨⟨c, [], rfl, starts⟩, fun x member => by
    rw [List.reverse_singleton, List.mem_singleton] at member
    rw [member]
    exact isNamePart_of_isNameStart starts⟩

theorem IsName.snoc {name : List Char} (named : IsName name.reverse) {c : Char}
    (part : isNamePart c = true) : IsName (c :: name).reverse := by
  obtain ⟨x, tail, same, starts⟩ := named.starts
  rw [List.reverse_cons]
  refine ⟨⟨x, tail ++ [c], by rw [same, List.cons_append], starts⟩, fun y member => ?_⟩
  rcases List.mem_append.mp member with inside | last
  · exact named.parts y inside
  · rw [List.mem_singleton.mp last]
    exact part

theorem opensNext_blanks {blanks : List Char} (blank : Text.AllBlank blanks) (rest : List Char) :
    opensNext (blanks ++ rest) = opensNext rest := by
  rw [opensNext, List.dropWhile_append_of_pos blank, opensNext]

theorem opensNext_visible {c : Char} (visible : Text.isBlank c = false) (other : c ≠ '(')
    (rest : List Char) : opensNext (c :: rest) = false := by
  rw [opensNext, List.dropWhile_cons_of_neg (by rw [visible]; exact Bool.false_ne_true)]
  exact beq_eq_false_iff_ne.mpr (fun same => other (Option.some.inj same))

theorem firstName?_passed {name blanks rest : List Char} (named : IsName name)
    (blank : Text.AllBlank blanks) (ends : EndsName (blanks ++ rest))
    (unopened : opensNext rest = false) :
    firstName? (name ++ blanks ++ rest) = firstName? rest := by
  rw [List.append_assoc, firstName?_unopened named.parts ends, firstName?_blanks blank]
  rw [opensNext_blanks blank, unopened]

/-- The reader finds what comes first in the text that it holds and the text ahead of it. -/
theorem NameReader.scan_eq {r : NameReader} {held : List Char} (holds : r.Holds held)
    (text : List Char) : r.scan text = firstName? (held ++ text) := by
  -- each step moves a character to the text held, or lets go of what can start no name
  induction text generalizing r held with
  | nil =>
    cases holds with
    | outside => rfl
    | inName named =>
      rw [firstName?_unopened named.parts endsName_nil rfl]
      rfl
    | afterName named blank some =>
      rw [firstName?_passed named blank (endsName_of_blanks blank some []) rfl]
      rfl
  | cons c rest ih =>
    have anew : scan .outside (c :: rest) = firstName? (c :: rest) := by
      rw [scan]
      split
      case isTrue starts => exact ih (.inName (isName_singleton starts))
      case isFalse other =>
        rw [firstName?_other (Bool.eq_false_iff.mpr other)]
        exact ih .outside
    cases holds with
    | outside => exact anew
    | @inName name named =>
      rw [scan]
      split
      case isTrue part =>
        rw [ih (.inName (named.snoc part)), List.reverse_cons, List.append_assoc,
          List.singleton_append]
      case isFalse other =>
        have ends : EndsName (c :: rest) := endsName_cons (Bool.eq_false_iff.mpr other) rest
        split
        case isTrue opens => rw [firstName?_name named ends (by rw [opens]; rfl)]
        case isFalse closed =>
          split
          case isTrue blank =>
            have one : Text.AllBlank [c] := List.forall_mem_singleton.mpr blank
            rw [ih (.afterName named one (List.cons_ne_nil _ _)), List.append_assoc,
              List.singleton_append]
          case isFalse visible =>
            rw [firstName?_unopened named.parts ends
              (opensNext_visible (Bool.eq_false_iff.mpr visible) closed rest),
              firstName?_other (not_isNameStart (Bool.eq_false_iff.mpr other))]
            exact ih .outside
    | @afterName name blanks named blank some =>
      have ends : EndsName (blanks ++ c :: rest) := endsName_of_blanks blank some _
      rw [scan]
      split
      case isTrue opens =>
        rw [List.append_assoc, firstName?_name named ends]
        rw [opensNext_blanks blank, opens]
        rfl
      case isFalse closed =>
        split
        case isTrue more =>
          have longer : Text.AllBlank (blanks ++ [c]) :=
            List.forall_mem_append.mpr ⟨blank, List.forall_mem_singleton.mpr more⟩
          rw [ih (.afterName named longer (List.append_ne_nil_of_left_ne_nil some _))]
          simp only [List.append_assoc, List.singleton_append]
        case isFalse visible =>
          rw [firstName?_passed named blank ends
            (opensNext_visible (Bool.eq_false_iff.mpr visible) closed rest), ← anew, scan]

/-- The name of a call is the leftmost name of its text. -/
theorem callName?_eq_some_iff {text name : List Char} :
    callName? text = some name ↔ FirstName text name := by
  rw [callName?, NameReader.scan_eq .outside, List.nil_append, firstName?_eq_some_iff]

theorem callName?_eq_none_iff {text : List Char} : callName? text = none ↔
    ∀ before name blanks after, ¬ NameSplit text before name blanks after := by
  rw [callName?, NameReader.scan_eq .outside, List.nil_append, firstName?_eq_none_iff]

/-! ### Splits -/

namespace NameSplit

variable {text before name blanks after before' name' blanks' after' : List Char}

theorem name_eq (split : NameSplit text before name blanks after) :
    name = (text.drop before.length).takeWhile isNamePart := by
  rw [split.whole, List.append_assoc, List.append_assoc, List.drop_left]
  exact (takeWhile_name split.parts
    (endsName_blanks split.blanks (endsName_cons (by decide) after))).symm

theorem blanks_eq (split : NameSplit text before name blanks after) :
    blanks = (text.drop (before ++ name).length).takeWhile Text.isBlank := by
  have ends : ('(' :: after).takeWhile Text.isBlank = [] := List.takeWhile_cons_of_neg (by decide)
  rw [split.whole, List.append_assoc, List.drop_left, List.takeWhile_append_of_pos split.blanks,
    ends, List.append_nil]

theorem unique (split : NameSplit text before name blanks after)
    (split' : NameSplit text before' name' blanks' after')
    (same : before.length = before'.length) :
    before = before' ∧ name = name' ∧ blanks = blanks' ∧ after = after' := by
  have names : name = name' := by rw [split.name_eq, split'.name_eq, same]
  have starts : (before ++ name).length = (before' ++ name').length := by
    rw [List.length_append, List.length_append, same, names]
  have between : blanks = blanks' := by rw [split.blanks_eq, split'.blanks_eq, starts]
  have whole := split.whole.symm.trans split'.whole
  rw [names, between] at whole
  simp only [List.append_assoc] at whole
  obtain ⟨front, rest⟩ := List.append_inj whole same
  have opened := List.append_cancel_left (List.append_cancel_left rest)
  exact ⟨front, names, between, (List.cons.inj opened).2⟩

end NameSplit

theorem callName_eq_iff {text name : String} : callName text = name ↔
    FirstName text.toList name.toList ∨
      name = defaultCallName ∧
        ∀ before n blanks after, ¬ NameSplit text.toList before n blanks after := by
  rw [← callName?_eq_some_iff, ← callName?_eq_none_iff, callName]
  cases found : callName? text.toList with
  | some n =>
    constructor
    · rintro rfl
      exact .inl (congrArg some String.toList_ofList.symm)
    · rintro (same | ⟨_, nothing⟩)
      · cases same
        exact String.ofList_toList
      · cases nothing
  | none =>
    constructor
    · rintro rfl
      exact .inr ⟨rfl, rfl⟩
    · rintro (same | ⟨rfl, _⟩)
      · cases same
      · rfl

/-- The name of a call is the one with the least text before it, among all capitalized identifiers
that an opening parenthesis follows, blanks between the two allowed; it is the default where there
is none. The text before it tells the name, which goes on as long as the identifier does, the
blanks, and all that follows. -/
theorem callName_leftmost (text : String) :
    (∀ c : Char, (isNameStart c = true ↔ 65 ≤ c.toNat ∧ c.toNat ≤ 90) ∧
      (isNamePart c = true ↔ (65 ≤ c.toNat ∧ c.toNat ≤ 90) ∨ (97 ≤ c.toNat ∧ c.toNat ≤ 122) ∨
        (48 ≤ c.toNat ∧ c.toNat ≤ 57) ∨ c.toNat = 95) ∧
      (Text.isBlank c = true ↔ c.toNat ∈ [0x09, 0x0A, 0x0B, 0x0C, 0x0D, 0x20, 0x85, 0xA0, 0x1680,
        0x2000, 0x2001, 0x2002, 0x2003, 0x2004, 0x2005, 0x2006, 0x2007, 0x2008, 0x2009, 0x200A,
        0x2028, 0x2029, 0x202F, 0x205F, 0x3000])) ∧
    (∀ name, callName text = name ↔
      (∃ before blanks after, NameSplit text.toList before name.toList blanks after ∧
        ∀ before' n blanks' after', NameSplit text.toList before' n blanks' after' →
          before.length ≤ before'.length) ∨
      name = "Widget" ∧ ∀ before n blanks after, ¬ NameSplit text.toList before n blanks after) ∧
    ∀ before n blanks after, NameSplit text.toList before n blanks after →
      n = (text.toList.drop before.length).takeWhile isNamePart ∧
      blanks = (text.toList.drop (before ++ n).length).takeWhile Text.isBlank ∧
      ∀ before' n' blanks' after', NameSplit text.toList before' n' blanks' after' →
        before.length = before'.length →
        before = before' ∧ n = n' ∧ blanks = blanks' ∧ after = after' :=
  ⟨fun _ => ⟨isNameStart_iff_toNat, isNamePart_iff_toNat, isBlank_iff_toNat⟩,
    fun _ => callName_eq_iff, fun _ _ _ _ split => ⟨split.name_eq, split.blanks_eq,
    fun _ _ _ _ => split.unique⟩⟩

/-- A capital letter within an identifier, with nothing that opens behind it, and then a name before
blanks of two kinds. -/
theorem callName_leftmost_row :
    callName "aB c Row_1\u00a0 (Text(" = "Row_1" ∧ callName "row(" = "Widget" ∧
      ∀ before n blanks after,
        NameSplit "aB c Row_1\u00a0 (Text(".toList before n blanks after → before.length = 5 →
        n = "Row_1".toList ∧ blanks = ['\u00a0', ' '] := by
  obtain ⟨_, named, splits⟩ := callName_leftmost "aB c Row_1\u00a0 (Text("
  obtain ⟨_, unnamed, _⟩ := callName_leftmost "row("
  have first := callName?_eq_some_iff.mp
    (show callName? "aB c Row_1\u00a0 (Text(".toList = some "Row_1".toList by decide)
  have nowhere := callName?_eq_none_iff.mp (show callName? "row(".toList = none by decide)
  refine ⟨(named _).mpr (.inl first), (unnamed _).mpr (.inr ⟨rfl, nowhere⟩), ?_⟩
  intro before n blanks after split place
  obtain ⟨name, between, _⟩ := splits before n blanks after split
  rw [place] at name
  have found : n = "Row_1".toList := by
    rw [name]
    decide
  rw [List.length_append, place, found] at between
  exact ⟨found, by rw [between]; decide⟩

end CallCapture

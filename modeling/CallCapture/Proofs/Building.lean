import CallCapture.Proofs.Spelling

namespace CallCapture.Json

namespace Builder

def Leads (b : Builder) (ts : List Token) (b' : Builder) : Prop := ts.foldlM step b = some b'

theorem Leads.nil (b : Builder) : Leads b [] b := rfl

theorem Leads.cons {a b c : Builder} {t : Token} {ts : List Token}
    (first : a.step t = some b) (later : Leads b ts c) : Leads a (t :: ts) c := by
  rw [Leads, List.foldlM_cons, first]
  exact later

theorem Leads.append {a b c : Builder} {ts us : List Token} (first : Leads a ts b)
    (later : Leads b us c) : Leads a (ts ++ us) c := by
  rw [Leads, List.foldlM_append, first]
  exact later

end Builder

open Builder

theorem tokens_cons (j : Json) : ∃ t ts, j.tokens = t :: ts ∧ t ≠ .closeBracket := by
  cases j <;> exact ⟨_, _, rfl, by simp⟩

theorem itemTokens_cons (j : Json) (rest : List Json) :
    ∃ t ts, itemTokens (j :: rest) = t :: ts ∧ t ≠ .closeBracket := by
  obtain ⟨t, ts, begins, other⟩ := tokens_cons j
  cases rest with
  | nil => exact ⟨t, ts, by rw [itemTokens, begins], other⟩
  | cons k rest => exact ⟨t, _, by rw [itemTokens, begins, List.cons_append], other⟩

theorem memberTokens_cons (key : Words) (j : Json) (rest : List (Words × Json)) :
    ∃ ts, memberTokens ((key, j) :: rest) = .text key :: .colon :: ts := by
  cases rest with
  | nil => exact ⟨_, rfl⟩
  | cons m rest => exact ⟨_, rfl⟩

theorem Builder.Leads.ofFirstItem {frames : List Frame} {ts : List Token} {b : Builder} {t : Token}
    (other : t ≠ .closeBracket) (leads : Leads ⟨.value, .array [] :: frames⟩ (t :: ts) b) :
    Leads ⟨.firstItem, .array [] :: frames⟩ (t :: ts) b := by
  have same : step ⟨.firstItem, .array [] :: frames⟩ t = step ⟨.value, .array [] :: frames⟩ t := by
    cases t with
    | closeBracket => exact absurd rfl other
    | _ => rfl
  rw [Leads, List.foldlM_cons] at leads ⊢
  rw [same, leads]

theorem Builder.Leads.ofFirstKey {frames : List Frame} {ts : List Token} {b : Builder} {key : Words}
    (leads : Leads ⟨.key, .object [] :: frames⟩ (.text key :: ts) b) :
    Leads ⟨.firstKey, .object [] :: frames⟩ (.text key :: ts) b := leads

mutual

theorem leads_tokens (frames : List Frame) : ∀ j : Json,
    Leads ⟨.value, frames⟩ j.tokens ⟨.nothing j, frames⟩
  | .null => .cons rfl (.nil _)
  | .bool _ => .cons rfl (.nil _)
  | .number _ => .cons rfl (.nil _)
  | .text _ => .cons rfl (.nil _)
  | .array [] => .cons rfl (.cons rfl (.nil _))
  | .array (j :: items) => by
    have leads := leads_items [] frames (j :: items) (List.cons_ne_nil _ _)
    obtain ⟨t, ts, begins, other⟩ := itemTokens_cons j items
    rw [tokens]
    apply Leads.cons (b := ⟨.firstItem, .array [] :: frames⟩) rfl
    rw [begins] at leads ⊢
    exact leads.ofFirstItem other
  | .object [] => .cons rfl (.cons rfl (.nil _))
  | .object ((key, j) :: members) => by
    have leads := leads_members [] frames ((key, j) :: members) (List.cons_ne_nil _ _)
    obtain ⟨ts, begins⟩ := memberTokens_cons key j members
    rw [tokens]
    apply Leads.cons (b := ⟨.firstKey, .object [] :: frames⟩) rfl
    rw [begins] at leads ⊢
    exact leads.ofFirstKey

theorem leads_items (done : List Json) (frames : List Frame) : ∀ items : List Json, items ≠ [] →
    Leads ⟨.value, .array done :: frames⟩ (itemTokens items ++ [.closeBracket])
      ⟨.nothing (.array (done.reverse ++ items)), frames⟩
  | [], filled => absurd rfl filled
  | [j], _ => by
    have item := leads_tokens (.array done :: frames) j
    rw [itemTokens]
    apply item.append
    apply Leads.cons _ (Leads.nil _)
    simp [step, next]
  | j :: k :: rest, _ => by
    have item := leads_tokens (.array done :: frames) j
    have later := leads_items (j :: done) frames (k :: rest) (List.cons_ne_nil _ _)
    rw [itemTokens, List.append_assoc]
    apply item.append
    apply Leads.cons (b := ⟨.value, .array (j :: done) :: frames⟩) rfl
    simpa using later

theorem leads_members (done : List (Words × Json)) (frames : List Frame) :
    ∀ members : List (Words × Json), members ≠ [] →
      Leads ⟨.key, .object done :: frames⟩ (memberTokens members ++ [.closeBrace])
        ⟨.nothing (.object (done.reverse ++ members)), frames⟩
  | [], filled => absurd rfl filled
  | [(key, j)], _ => by
    have value := leads_tokens (.member done key :: frames) j
    rw [memberTokens]
    apply Leads.cons (b := ⟨.colon key, .object done :: frames⟩) rfl
    apply Leads.cons (b := ⟨.value, .member done key :: frames⟩) rfl
    apply value.append
    apply Leads.cons _ (Leads.nil _)
    simp [step, next]
  | (key, j) :: m :: rest, _ => by
    have value := leads_tokens (.member done key :: frames) j
    have later := leads_members ((key, j) :: done) frames (m :: rest) (List.cons_ne_nil _ _)
    rw [memberTokens, List.cons_append, List.cons_append, List.append_assoc]
    apply Leads.cons (b := ⟨.colon key, .object done :: frames⟩) rfl
    apply Leads.cons (b := ⟨.value, .member done key :: frames⟩) rfl
    apply value.append
    apply Leads.cons (b := ⟨.key, .object ((key, j) :: done) :: frames⟩) rfl
    simpa using later

end

theorem ofTokens?_tokens (j : Json) : ofTokens? j.tokens = some j := by
  have leads : j.tokens.foldlM step {} = some ⟨.nothing j, []⟩ := leads_tokens [] j
  rw [ofTokens?, leads]

/-- Values without garbled strings, whose numbers are natural. -/
def Plain (j : Json) : Prop := ∀ t ∈ j.tokens, t.Plain

theorem itemTokens_plain {j k : Json} {rest : List Json}
    (plain : ∀ t ∈ itemTokens (j :: k :: rest), t.Plain) :
    j.Plain ∧ ∀ t ∈ itemTokens (k :: rest), t.Plain := by
  constructor
  · exact fun t member => plain t (by simp [itemTokens, member])
  · exact fun t member => plain t (by simp [itemTokens, member])

theorem memberTokens_plain {key : Words} {j : Json}
    (plain : ∀ t ∈ memberTokens [(key, j)], t.Plain) : (Token.text key).Plain ∧ j.Plain := by
  constructor
  · exact plain _ (by simp [memberTokens])
  · exact fun t member => plain t (by simp [memberTokens, member])

theorem memberTokens_plain_cons {key : Words} {j : Json} {m : Words × Json}
    {rest : List (Words × Json)} (plain : ∀ t ∈ memberTokens ((key, j) :: m :: rest), t.Plain) :
    (Token.text key).Plain ∧ j.Plain ∧ ∀ t ∈ memberTokens (m :: rest), t.Plain := by
  refine ⟨plain _ (by simp [memberTokens]), ?_, ?_⟩
  · exact fun t member => plain t (by simp [memberTokens, member])
  · exact fun t member => plain t (by simp [memberTokens, member])

mutual

theorem laid_compact {ts : List Token} {cs : List Char} : ∀ j : Json, (∀ t ∈ j.tokens, t.Plain) →
    EndsNumber cs → Laid ts cs → Laid (j.tokens ++ ts) (j.tokens.flatMap Token.spell ++ cs)
  | .null, _, _, laid => .token trivial trivial laid
  | .bool b, _, _, laid => by
    have bool : (Token.bool b).Plain := trivial
    simpa [tokens] using Laid.token bool trivial laid
  | .number n, plain, ends, laid => by
    have number : (Token.number n).Plain := plain _ List.mem_cons_self
    simpa [tokens] using Laid.token number ends laid
  | .text s, plain, _, laid => by
    have text : (Token.text s).Plain := plain _ List.mem_cons_self
    simpa [tokens] using Laid.token text trivial laid
  | .array items, plain, _, laid => by
    have inner : ∀ t ∈ itemTokens items, t.Plain :=
      fun t member => plain t (by simp [tokens, member])
    have closed : Laid (.closeBracket :: ts) (']' :: cs) := .token trivial trivial laid
    have items := laid_compact_items items inner (endsNumber_cons rfl cs) closed
    have opened : Laid (.openBracket :: _) ('[' :: _) := .token trivial trivial items
    simpa [tokens, Token.spell] using opened
  | .object members, plain, _, laid => by
    have inner : ∀ t ∈ memberTokens members, t.Plain :=
      fun t member => plain t (by simp [tokens, member])
    have closed : Laid (.closeBrace :: ts) ('\x7d' :: cs) := .token trivial trivial laid
    have members := laid_compact_members members inner (endsNumber_cons rfl cs) closed
    have opened : Laid (.openBrace :: _) ('\x7b' :: _) := .token trivial trivial members
    simpa [tokens, Token.spell] using opened

theorem laid_compact_items {ts : List Token} {cs : List Char} : ∀ items : List Json,
    (∀ t ∈ itemTokens items, t.Plain) → EndsNumber cs → Laid ts cs →
      Laid (itemTokens items ++ ts) ((itemTokens items).flatMap Token.spell ++ cs)
  | [], _, _, laid => laid
  | [j], plain, ends, laid => laid_compact j plain ends laid
  | j :: k :: rest, plain, ends, laid => by
    obtain ⟨first, others⟩ := itemTokens_plain plain
    have later := laid_compact_items (k :: rest) others ends laid
    have apart : Laid (.comma :: _) (',' :: _) := .token trivial trivial later
    simpa [itemTokens, Token.spell] using laid_compact j first (endsNumber_cons rfl _) apart

theorem laid_compact_members {ts : List Token} {cs : List Char} :
    ∀ members : List (Words × Json), (∀ t ∈ memberTokens members, t.Plain) → EndsNumber cs →
      Laid ts cs →
        Laid (memberTokens members ++ ts) ((memberTokens members).flatMap Token.spell ++ cs)
  | [], _, _, laid => laid
  | [(key, j)], plain, ends, laid => by
    obtain ⟨name, value⟩ := memberTokens_plain plain
    have paired : Laid (.colon :: _) (':' :: _) :=
      .token trivial trivial (laid_compact j value ends laid)
    simpa [memberTokens, Token.spell] using Laid.token name trivial paired
  | (key, j) :: m :: rest, plain, ends, laid => by
    obtain ⟨name, value, others⟩ := memberTokens_plain_cons plain
    have later := laid_compact_members (m :: rest) others ends laid
    have apart : Laid (.comma :: _) (',' :: _) := .token trivial trivial later
    have paired : Laid (.colon :: _) (':' :: _) :=
      .token trivial trivial (laid_compact j value (endsNumber_cons rfl _) apart)
    simpa [memberTokens, Token.spell] using Laid.token name trivial paired

end

theorem isSpace_of_mem_newline {level : Nat} {c : Char} (member : c ∈ newline level) :
    isSpace c = true := by
  rcases List.mem_cons.mp member with rfl | blank
  · rfl
  · rw [List.eq_of_mem_replicate blank]
    rfl

theorem Laid.newline {ts : List Token} {cs : List Char} (level : Nat) (laid : Laid ts cs) :
    Laid ts (Json.newline level ++ cs) := laid.spaces fun _ => isSpace_of_mem_newline

theorem endsNumber_newline (level : Nat) (cs : List Char) : EndsNumber (newline level ++ cs) :=
  endsNumber_cons rfl _

mutual

theorem laid_indented (level : Nat) {ts : List Token} {cs : List Char} : ∀ j : Json,
    (∀ t ∈ j.tokens, t.Plain) → EndsNumber cs → Laid ts cs →
      Laid (j.tokens ++ ts) (indentedAt level j ++ cs)
  | .null, plain, ends, laid => laid_compact .null plain ends laid
  | .bool b, plain, ends, laid => laid_compact (.bool b) plain ends laid
  | .number n, plain, ends, laid => laid_compact (.number n) plain ends laid
  | .text s, plain, ends, laid => laid_compact (.text s) plain ends laid
  | .array [], plain, ends, laid => laid_compact (.array []) plain ends laid
  | .array (j :: items), plain, _, laid => by
    have inner : ∀ t ∈ itemTokens (j :: items), t.Plain :=
      fun t member => plain t (by simp [tokens, member])
    have closed : Laid (.closeBracket :: ts) (']' :: cs) := .token trivial trivial laid
    have items := laid_indented_items (level + 1) (j :: items) inner
      (endsNumber_newline level _) (closed.newline level)
    have opened : Laid (.openBracket :: _) ('[' :: _) :=
      .token trivial trivial (items.newline (level + 1))
    simpa [tokens, indentedAt] using opened
  | .object [], plain, ends, laid => laid_compact (.object []) plain ends laid
  | .object (m :: members), plain, _, laid => by
    have inner : ∀ t ∈ memberTokens (m :: members), t.Plain :=
      fun t member => plain t (by simp [tokens, member])
    have closed : Laid (.closeBrace :: ts) ('\x7d' :: cs) := .token trivial trivial laid
    have members := laid_indented_members (level + 1) (m :: members) inner
      (endsNumber_newline level _) (closed.newline level)
    have opened : Laid (.openBrace :: _) ('\x7b' :: _) :=
      .token trivial trivial (members.newline (level + 1))
    simpa [tokens, indentedAt] using opened

theorem laid_indented_items (level : Nat) {ts : List Token} {cs : List Char} :
    ∀ items : List Json, (∀ t ∈ itemTokens items, t.Plain) → EndsNumber cs → Laid ts cs →
      Laid (itemTokens items ++ ts) (indentedItems level items ++ cs)
  | [], _, _, laid => laid
  | [j], plain, ends, laid => laid_indented level j plain ends laid
  | j :: k :: rest, plain, ends, laid => by
    obtain ⟨first, others⟩ := itemTokens_plain plain
    have later := laid_indented_items level (k :: rest) others ends laid
    have apart : Laid (.comma :: _) (',' :: _) := .token trivial trivial (later.newline level)
    simpa [itemTokens, indentedItems] using
      laid_indented level j first (endsNumber_cons rfl _) apart

theorem laid_indented_members (level : Nat) {ts : List Token} {cs : List Char} :
    ∀ members : List (Words × Json), (∀ t ∈ memberTokens members, t.Plain) → EndsNumber cs →
      Laid ts cs → Laid (memberTokens members ++ ts) (indentedMembers level members ++ cs)
  | [], _, _, laid => laid
  | [(key, j)], plain, ends, laid => by
    obtain ⟨name, value⟩ := memberTokens_plain plain
    have spaced : Laid _ (' ' :: _) := .space rfl (laid_indented level j value ends laid)
    have paired : Laid (.colon :: _) (':' :: _) := .token trivial trivial spaced
    simpa [memberTokens, indentedMembers, Token.spell] using Laid.token name trivial paired
  | (key, j) :: m :: rest, plain, ends, laid => by
    obtain ⟨name, value, others⟩ := memberTokens_plain_cons plain
    have later := laid_indented_members level (m :: rest) others ends laid
    have apart : Laid (.comma :: _) (',' :: _) := .token trivial trivial (later.newline level)
    have spaced : Laid _ (' ' :: _) :=
      .space rfl (laid_indented level j value (endsNumber_cons rfl _) apart)
    have paired : Laid (.colon :: _) (':' :: _) := .token trivial trivial spaced
    simpa [memberTokens, indentedMembers, Token.spell] using Laid.token name trivial paired

end

variable {j : Json}

theorem Plain.tokens?_compact (plain : j.Plain) : tokens? j.compactChars = some j.tokens := by
  have laid := laid_compact j plain endsNumber_nil .nil
  rw [List.append_nil, List.append_nil] at laid
  exact tokens?_of_laid laid

theorem Plain.read?_compact (plain : j.Plain) : read? j.compactChars = some j := by
  rw [read?, plain.tokens?_compact]
  exact ofTokens?_tokens j

theorem Plain.readWholly?_compact (plain : j.Plain) (values : j.tokens.all Token.hasValue = true)
    (flat : nesting 0 0 j.tokens ≤ maxNesting) : readWholly? j.compactChars = some j := by
  rw [readWholly?, plain.tokens?_compact, Option.bind_some, values, decide_eq_true flat]
  exact ofTokens?_tokens j

theorem Plain.read?_indented (plain : j.Plain) : read? (indentedAt 0 j) = some j := by
  have laid := laid_indented 0 j plain endsNumber_nil .nil
  rw [List.append_nil, List.append_nil] at laid
  rw [read?, tokens?_of_laid laid]
  exact ofTokens?_tokens j

end CallCapture.Json

import LayeredSchema.Proofs.AttributeType
import LayeredSchema.Proofs.Text.Bytes

/-!
What attribute types are in texts and on the wire: the grammar of each form, and that both give one
meaning to every type that is read from either. Main statement: `text_and_wire_agree`.
-/

namespace LayeredSchema

open Text

namespace AttributeType

variable {t : AttributeType} {cs stem rest inner : List Char} {p : Primitive} {s : String}

def arrayStem : List Char := ['a', 'r', 'r', 'a', 'y', '[']
def saidStem : List Char := ['r', 'e', 'f', 's', ':']
def nameStem : List Char := ['r', 'e', 'f', 'n', ':']

/-- The type that a text stands for. White space may stand around every type, and keywords may be in
any case. -/
inductive Denotes : List Char → AttributeType → Prop
  | primitive {cs : List Char} {p : Primitive}
      (same : sameIgnoringCase p.name.toList (trim cs) = true) : Denotes cs (.primitive p)
  | said {cs stem : List Char} {digits : String} {s : Said}
      (shape : trim cs = stem ++ digits.toList) (same : sameIgnoringCase saidStem stem = true)
      (parsed : Said.parse digits = .ok s) : Denotes cs (.reference (.said s))
  | name {cs stem : List Char} {n : String}
      (shape : trim cs = stem ++ n.toList) (same : sameIgnoringCase nameStem stem = true)
      (filled : n ≠ "") : Denotes cs (.reference (.name n))
  | array {cs stem inner : List Char} {t : AttributeType}
      (shape : trim cs = stem ++ inner ++ [']']) (same : sameIgnoringCase arrayStem stem = true)
      (element : Denotes inner t) : Denotes cs (.array t)

/-! ### No text has two forms -/

lemma dropStem_eq_none {stem' : List Char} (h : dropStemIgnoringCase? stem cs = some rest)
    (hn : ¬lower stem <+: lower stem') (hn' : ¬lower stem' <+: lower stem) :
    dropStemIgnoringCase? stem' cs = none := by
  refine Option.eq_none_iff_forall_ne_some.mpr fun rest' h' => ?_
  rcases lower_prefix_or_prefix h h' with hp | hp
  · exact hn hp
  · exact hn' hp

lemma dropStem_of_primitive (h : sameIgnoringCase p.name.toList cs = true)
    (hs : stem ∈ [arrayStem, saidStem, nameStem]) : dropStemIgnoringCase? stem cs = none := by
  refine Option.eq_none_iff_forall_ne_some.mpr fun rest hr => ?_
  obtain ⟨head, rfl, hh⟩ := dropStemIgnoringCase?_eq_some_iff.mp hr
  have hp : lower stem <+: lower p.name.toList := by
    rw [eq_of_beq h, lower_append, ← (eq_of_beq hh : lower stem = lower head)]
    exact List.prefix_append _ _
  have hd : ∀ stem ∈ [arrayStem, saidStem, nameStem], ¬lower stem <+: lower p.name.toList := by
    cases p <;> decide
  exact hd stem hs hp

lemma same_of_ofName? (h : Primitive.ofName? cs = some p) :
    sameIgnoringCase p.name.toList cs = true :=
  List.find?_some (p := fun p : Primitive => sameIgnoringCase p.name.toList cs) h

lemma primitive_eq_of_lower {q : Primitive} (h : lower p.name.toList = lower q.name.toList) :
    p = q := by
  revert h
  cases p <;> cases q <;> decide

lemma ofName?_eq_some_iff : Primitive.ofName? cs = some p ↔
    sameIgnoringCase p.name.toList cs = true := by
  constructor
  · exact same_of_ofName?
  · intro h
    cases ho : Primitive.ofName? cs with
    | none =>
      have hp : p ∈ Primitive.all := by cases p <;> decide
      exact absurd h (List.find?_eq_none.mp ho p hp)
    | some q =>
      have hq := same_of_ofName? ho
      rw [primitive_eq_of_lower ((eq_of_beq hq).trans (eq_of_beq h).symm)]

/-! ### Reading is what the grammar says -/

lemma denotes_of_parseElement (h : parseElement (trim cs) = .ok t) : Denotes cs t := by
  rcases parseElement_ok_iff.mp h with ⟨rest, s, hs, hp, rfl⟩ | ⟨rest, -, hs, hn, rfl⟩ |
    ⟨p, -, -, hp, rfl⟩
  · obtain ⟨head, hc, hh⟩ := dropStemIgnoringCase?_eq_some_iff.mp hs
    exact .said (by rw [String.toList_ofList]; exact hc) hh hp
  · obtain ⟨head, hc, hh⟩ := dropStemIgnoringCase?_eq_some_iff.mp hs
    refine .name (by rw [String.toList_ofList]; exact hc) hh fun he => hn ?_
    rw [← String.toList_ofList (l := rest), he]
    rfl
  · exact .primitive (ofName?_eq_some_iff.mp hp)

lemma denotes_of_parseChars (h : parseChars cs = .ok t) : Denotes cs t := by
  induction t generalizing cs with
  | array u ih =>
    obtain ⟨inner, hs, hi⟩ := inner_of_parseChars h
    obtain ⟨head, hc, hh⟩ := dropStemIgnoringCase?_eq_some_iff.mp hs
    exact .array (by rw [List.append_assoc]; exact hc) hh (ih hi)
  | primitive | reference =>
    rcases parseChars_ok_iff.mp h with ⟨-, h⟩ | ⟨_, _, -, -, hu⟩
    · exact denotes_of_parseElement h
    · contradiction

lemma parseChars_of_denotes (h : Denotes cs t) : parseChars cs = .ok t := by
  induction h with
  | primitive hp =>
    refine parseChars_ok_iff.mpr (Or.inl ⟨dropStem_of_primitive hp (by decide), ?_⟩)
    exact parseElement_ok_iff.mpr (Or.inr (Or.inr ⟨_, dropStem_of_primitive hp (by decide),
      dropStem_of_primitive hp (by decide), ofName?_eq_some_iff.mpr hp, rfl⟩))
  | @said cs stem digits s hc hs hp =>
    have hd : dropStemIgnoringCase? saidStem (trim cs) = some digits.toList :=
      dropStemIgnoringCase?_eq_some_iff.mpr ⟨stem, hc, hs⟩
    refine parseChars_ok_iff.mpr (Or.inl ⟨dropStem_eq_none hd (by decide) (by decide), ?_⟩)
    exact parseElement_ok_iff.mpr
      (Or.inl ⟨_, s, hd, by rwa [String.ofList_toList], rfl⟩)
  | @name cs stem n hc hs hn =>
    have hd : dropStemIgnoringCase? nameStem (trim cs) = some n.toList :=
      dropStemIgnoringCase?_eq_some_iff.mpr ⟨stem, hc, hs⟩
    refine parseChars_ok_iff.mpr (Or.inl ⟨dropStem_eq_none hd (by decide) (by decide), ?_⟩)
    refine parseElement_ok_iff.mpr (Or.inr (Or.inl ⟨_, dropStem_eq_none hd (by decide) (by decide),
      hd, ?_, by rw [String.ofList_toList]⟩))
    exact fun he => hn (String.toList_eq_nil_iff.mp he)
  | @array cs stem inner t hc hs _ ih =>
    refine parseChars_ok_iff.mpr (Or.inr ⟨inner, t, ?_, ih, rfl⟩)
    exact dropStemIgnoringCase?_eq_some_iff.mpr ⟨stem, by rw [hc, List.append_assoc], hs⟩

lemma parse_ok_iff_denotes : parse s = .ok t ↔ Denotes s.toList t :=
  ⟨denotes_of_parseChars, parseChars_of_denotes⟩

/-! ### The wire form -/

lemma ofJson_string_ok_iff : ofJson (.string s) = .ok t ↔ parse s = .ok t := by
  rw [ofJson, Outcome.mapError_ok_iff]

lemma ofJson_array_ok_iff {vs : List Json} : ofJson (.array vs) = .ok t ↔
    ∃ v u, vs = [v] ∧ ofJson v = .ok u ∧ t = .array u := by
  cases vs with
  | nil => simp [ofJson]
  | cons v vs =>
    simp only [ofJson, Outcome.bind_ok_iff]
    constructor
    · rintro ⟨u, hu, h⟩
      split at h
      · rename_i he
        obtain rfl := List.isEmpty_iff.mp he
        exact ⟨v, u, rfl, hu, (Outcome.pure_ok_iff.mp h).symm⟩
      · contradiction
    · rintro ⟨w, u, hv, hu, rfl⟩
      obtain ⟨rfl, rfl⟩ := List.cons.inj hv
      exact ⟨u, hu, rfl⟩

def IsWireShaped : Json → Prop
  | .string _ | .array _ => True
  | _ => False

lemma ofJson_ne_ok {v : Json} (h : ¬IsWireShaped v) : ofJson v ≠ .ok t := by
  cases v <;> simp_all [IsWireShaped, ofJson]

/-- Reading a text and decoding a value succeed just where the grammars of the two forms say so, and
a type that comes from either is read back from its text and decoded from its wire form. Stems are
cut off between characters. -/
theorem text_and_wire_agree :
    (∀ s t, parse s = .ok t ↔ Denotes s.toList t) ∧
    (∀ stem ∈ [arrayStem, saidStem, nameStem], ∀ cs, dropStemIgnoringCase? stem cs =
      (splitAtByte? stem.length cs).bind fun (head, rest) =>
        if sameIgnoringCase stem head then some rest else none) ∧
    (∀ t, (∃ s, parse s = .ok t) ∨ (∃ v, ofJson v = .ok t) →
      parse t.text = .ok t ∧ ofJson t.toJson = .ok t) ∧
    (∀ s t, ofJson (.string s) = .ok t ↔ parse s = .ok t) ∧
    (∀ vs t, ofJson (.array vs) = .ok t ↔ ∃ v u, vs = [v] ∧ ofJson v = .ok u ∧ t = .array u) ∧
    ∀ v, ¬IsWireShaped v → ∀ t, ofJson v ≠ .ok t := by
  refine ⟨fun _ _ => parse_ok_iff_denotes, fun stem hs cs => dropStemIgnoringCase?_eq_split ?_, ?_,
    fun _ _ => ofJson_string_ok_iff, fun _ _ => ofJson_array_ok_iff, fun _ hv _ => ofJson_ne_ok hv⟩
  · revert stem
    decide
  · intro t h
    have ht : t.Tidy := by
      rcases h with ⟨s, hs⟩ | ⟨v, hv⟩
      · exact tidy_of_parseChars hs
      · exact tidy_of_ofJson hv
    exact ⟨parse_text ht, ofJson_toJson ht⟩

def bracketed : AttributeType := .array (.array (.reference (.name " a]: b")))

theorem text_and_wire_agree_bracketed :
    parse " ARRAY[ array[RefN: a]: b ]\u3000] " = .ok bracketed ∧
      bracketed.text = "Array[Array[refn: a]: b]]" ∧ parse bracketed.text = .ok bracketed ∧
      ofJson (.array [.array [.string "refn: a]: b"]]) = .ok bracketed := by
  have hn : Denotes "RefN: a]: b ".toList (.reference (.name " a]: b")) :=
    @Denotes.name _ "RefN:".toList _ (by decide) (by decide) (by decide)
  have hi : Denotes " array[RefN: a]: b ]\u3000".toList (.array (.reference (.name " a]: b"))) :=
    @Denotes.array _ "array[".toList "RefN: a]: b ".toList _ (by decide) (by decide) hn
  have hd : Denotes " ARRAY[ array[RefN: a]: b ]\u3000] ".toList bracketed :=
    @Denotes.array _ "ARRAY[".toList _ _ (by decide) (by decide) hi
  obtain ⟨hp, -, hr, -⟩ := text_and_wire_agree
  have hb := (hp _ _).mpr hd
  obtain ⟨ht, hj⟩ := hr _ (Or.inl ⟨_, hb⟩)
  exact ⟨hb, by decide, ht, hj⟩

end AttributeType

end LayeredSchema

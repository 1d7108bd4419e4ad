import LayeredSchema.AttributeType
import LayeredSchema.Proofs.Identifier.Said
import LayeredSchema.Proofs.Text.Blank

/-! Attribute types: the text and the wire form of a type that was read are read as the type. -/

namespace LayeredSchema

open Text

namespace Text

lemma suffix_of_dropStemIgnoringCase? {stem cs rest : List Char}
    (h : dropStemIgnoringCase? stem cs = some rest) :
    ∃ pre, cs = pre ++ rest ∧ pre.length = stem.length := by
  induction stem generalizing cs with
  | nil => exact ⟨[], Option.some.inj h, rfl⟩
  | cons p ps ih =>
    cases cs with
    | nil => simp [dropStemIgnoringCase?] at h
    | cons c cs =>
      simp only [dropStemIgnoringCase?] at h
      split at h
      · obtain ⟨pre, rfl, hl⟩ := ih h
        exact ⟨c :: pre, rfl, by simp [hl]⟩
      · simp at h

lemma mem_of_mem_trim {c : Char} {cs : List Char} (h : c ∈ trim cs) : c ∈ cs :=
  (List.dropWhile_suffix isBlank).subset ((trimRight_isPrefix _).subset h)

end Text

lemma Primitive.name_inj {p q : Primitive} (h : p.name = q.name) : p = q := by
  cases p <;> cases q <;> simp [name] at h ⊢

namespace AttributeType

variable {t : AttributeType} {cs : List Char}

/-- A type whose innermost reference by name, if it is one, has a name that ends in no blank. -/
def Tidy : AttributeType → Prop
  | .primitive _ | .reference (.said _) => True
  | .array t => t.Tidy
  | .reference (.name n) => ∃ c, n.toList.getLast? = some c ∧ isBlank c = false

lemma parseElement_ok_iff : parseElement cs = .ok t ↔
    (∃ rest s, dropStemIgnoringCase? ['r', 'e', 'f', 's', ':'] cs = some rest ∧
      Said.parse (String.ofList rest) = .ok s ∧ t = .reference (.said s)) ∨
    (∃ rest, dropStemIgnoringCase? ['r', 'e', 'f', 's', ':'] cs = none ∧
      dropStemIgnoringCase? ['r', 'e', 'f', 'n', ':'] cs = some rest ∧ rest ≠ [] ∧
      t = .reference (.name (String.ofList rest))) ∨
    (∃ p, dropStemIgnoringCase? ['r', 'e', 'f', 's', ':'] cs = none ∧
      dropStemIgnoringCase? ['r', 'e', 'f', 'n', ':'] cs = none ∧ Primitive.ofName? cs = some p ∧
      t = .primitive p) := by
  rw [parseElement]
  cases hs : dropStemIgnoringCase? ['r', 'e', 'f', 's', ':'] cs with
  | some rest => cases hp : Said.parse (String.ofList rest) <;> simp [hp, eq_comm]
  | none =>
    cases hn : dropStemIgnoringCase? ['r', 'e', 'f', 'n', ':'] cs with
    | some rest => cases rest <;> simp [eq_comm]
    | none => cases Primitive.ofName? cs <;> simp [eq_comm]

lemma parseChars_ok_iff : parseChars cs = .ok t ↔
    (dropStemIgnoringCase? ['a', 'r', 'r', 'a', 'y', '['] (trim cs) = none ∧
      parseElement (trim cs) = .ok t) ∨
    (∃ inner u, dropStemIgnoringCase? ['a', 'r', 'r', 'a', 'y', '['] (trim cs) = some (inner ++ [']']) ∧
      parseChars inner = .ok u ∧ t = .array u) := by
  rw [parseChars]
  split
  · rename_i h
    simp [h]
  · rename_i rest h
    split
    · rename_i hl
      constructor
      · intro h
        contradiction
      · rintro (⟨hn, -⟩ | ⟨inner, u, hi, -⟩)
        · simp [h] at hn
        · obtain rfl : rest = inner ++ [']'] := Option.some.inj (h.symm.trans hi)
          simp [dropLastChar?_concat] at hl
    · rename_i inner hl
      obtain rfl := eq_concat_of_dropLastChar? hl
      simp only [Outcome.map_ok_iff, h, reduceCtorEq, false_and, false_or, Option.some.injEq]
      constructor
      · rintro ⟨u, hu, rfl⟩
        exact ⟨inner, u, rfl, hu, rfl⟩
      · rintro ⟨i, u, hi, hu, rfl⟩
        exact ⟨u, List.append_cancel_right hi ▸ hu, rfl⟩

lemma inner_of_parseChars {u : AttributeType} (h : parseChars cs = .ok (.array u)) :
    ∃ inner, dropStemIgnoringCase? ['a', 'r', 'r', 'a', 'y', '['] (trim cs) = some (inner ++ [']']) ∧
      parseChars inner = .ok u := by
  rcases parseChars_ok_iff.mp h with ⟨-, h⟩ | ⟨inner, _, hs, h, hu⟩
  · exact absurd h (by simp [parseElement_ok_iff])
  · obtain rfl := array.inj hu
    exact ⟨inner, hs, h⟩

lemma name_of_parseChars {n : String} (h : parseChars cs = .ok (.reference (.name n))) :
    dropStemIgnoringCase? ['r', 'e', 'f', 'n', ':'] (trim cs) = some n.toList ∧ n.toList ≠ [] := by
  rcases parseChars_ok_iff.mp h with ⟨-, h⟩ | ⟨_, _, -, -, hu⟩
  · rcases parseElement_ok_iff.mp h with ⟨_, _, -, -, hr⟩ | ⟨rest, -, hs, hn, hr⟩ | ⟨_, -, -, -, hr⟩
    · simp at hr
    · obtain rfl : n = String.ofList rest := by simpa using hr
      rw [String.toList_ofList]
      exact ⟨hs, hn⟩
    · contradiction
  · contradiction

lemma tidy_of_parseChars (h : parseChars cs = .ok t) : t.Tidy := by
  induction t generalizing cs with
  | primitive p => trivial
  | array u ih =>
    obtain ⟨inner, -, hi⟩ := inner_of_parseChars h
    exact ih hi
  | reference r =>
    cases r with
    | said s => trivial
    | name n =>
      obtain ⟨hs, hn⟩ := name_of_parseChars h
      obtain ⟨pre, hp, -⟩ := suffix_of_dropStemIgnoringCase? hs
      obtain ⟨c, hc⟩ : ∃ c, n.toList.getLast? = some c := ⟨_, List.getLast?_eq_some_getLast hn⟩
      have hl : (trimRight (trimLeft cs)).getLast? = some c := by
        rw [← trim, hp, List.getLast?_append, hc, Option.some_or]
      exact ⟨c, hc, last_trimRight hl⟩

lemma toList_text_array (t : AttributeType) :
    t.array.text.toList = 'A' :: 'r' :: 'r' :: 'a' :: 'y' :: '[' :: (t.text.toList ++ [']']) := by
  simp [text]

lemma toList_text_name (n : String) :
    (reference (.name n)).text.toList = 'r' :: 'e' :: 'f' :: 'n' :: ':' :: n.toList := by
  simp [text, Reference.text]

lemma toList_text_said (s : Said) :
    (reference (.said s)).text.toList = 'r' :: 'e' :: 'f' :: 's' :: ':' :: s.text.toList := by
  simp [text, Reference.text]

lemma text_primitive_ne (p : Primitive) (r : Reference) :
    (primitive p).text ≠ (reference r).text := by
  intro h
  have hl := congrArg (fun s : String => s.toList.head?) h
  cases r with
  | said s =>
    simp only [toList_text_said, List.head?_cons] at hl
    cases p <;> exact absurd hl (by decide)
  | name n =>
    simp only [toList_text_name, List.head?_cons] at hl
    cases p <;> exact absurd hl (by decide)

lemma text_reference_inj {r q : Reference} (h : (reference r).text = (reference q).text) :
    r = q := by
  have hl := congrArg String.toList h
  cases r <;> cases q <;> simp only [toList_text_said, toList_text_name, List.cons.injEq] at hl
  · rw [Said.text_inj.mp (String.toList_inj.mp hl.2.2.2.2.2)]
  · simp at hl
  · simp at hl
  · rw [String.toList_inj.mp hl.2.2.2.2.2]

lemma toJson_inj {u : AttributeType} (h : t.toJson = u.toJson) : t = u := by
  induction t generalizing u with
  | primitive p =>
    cases u with
    | primitive q => rw [Primitive.name_inj (Json.string.inj h)]
    | array u => simp [toJson] at h
    | reference r => exact absurd (Json.string.inj h) (text_primitive_ne p r)
  | array t ih =>
    cases u with
    | array u =>
      simp only [toJson, Json.array.injEq, List.cons.injEq, and_true] at h
      rw [ih h]
    | _ => simp [toJson] at h
  | reference r =>
    cases u with
    | primitive q => exact absurd (Json.string.inj h).symm (text_primitive_ne q r)
    | array u => simp [toJson] at h
    | reference q => rw [text_reference_inj (Json.string.inj h)]

lemma trim_text (h : t.Tidy) : trim t.text.toList = t.text.toList := by
  cases t with
  | primitive p => cases p <;> decide
  | array t =>
    rw [toList_text_array]
    refine trim_eq_self (c := ']') (by simp; decide) ?_ (by decide)
    simp only [← List.cons_append]
    exact List.getLast?_concat
  | reference r =>
    cases r with
    | said s =>
      rw [toList_text_said]
      refine trim_eq_self_of_forall ?_
      simp only [List.forall_mem_cons]
      exact ⟨by decide, by decide, by decide, by decide, by decide, s.isBlank_text⟩
    | name n =>
      obtain ⟨c, hc, hb⟩ := h
      rw [toList_text_name]
      refine trim_eq_self (c := c) (by simp; decide) ?_ hb
      simp [List.getLast?_cons, hc]

lemma parse_text (h : t.Tidy) : parse t.text = .ok t := by
  induction t with
  | primitive p => cases p <;> decide +kernel
  | array t ih =>
    refine parseChars_ok_iff.mpr (Or.inr ⟨t.text.toList, t, ?_, ih h, rfl⟩)
    rw [trim_text h, toList_text_array]
    rfl
  | reference r =>
    refine parseChars_ok_iff.mpr (Or.inl ?_)
    rw [trim_text h, parseElement_ok_iff]
    cases r with
    | said s =>
      rw [toList_text_said]
      refine ⟨rfl, Or.inl ⟨_, s, rfl, ?_, rfl⟩⟩
      rw [String.ofList_toList, Said.parse_text]
    | name n =>
      obtain ⟨c, hc, -⟩ := h
      rw [toList_text_name]
      refine ⟨rfl, Or.inr (Or.inl ⟨n.toList, rfl, rfl, ?_, by rw [String.ofList_toList]⟩)⟩
      rintro hn
      simp [hn] at hc

lemma isBlank_text_of_parseChars (h : parseChars cs = .ok t) (hb : ∀ c ∈ cs, isBlank c = false) :
    ∀ c ∈ t.text.toList, isBlank c = false := by
  induction t generalizing cs with
  | primitive p => cases p <;> exact forall_not_isBlank (by decide)
  | array u ih =>
    obtain ⟨inner, hs, hi⟩ := inner_of_parseChars h
    obtain ⟨pre, hp, -⟩ := suffix_of_dropStemIgnoringCase? hs
    have hu := ih hi fun c hc => hb c (mem_of_mem_trim (by simp [hp, hc]))
    rw [toList_text_array]
    simp only [List.forall_mem_cons, List.forall_mem_append]
    exact ⟨by decide, by decide, by decide, by decide, by decide, by decide, hu, by decide, nofun⟩
  | reference r =>
    cases r with
    | said s =>
      rw [toList_text_said]
      simp only [List.forall_mem_cons]
      exact ⟨by decide, by decide, by decide, by decide, by decide, s.isBlank_text⟩
    | name n =>
      obtain ⟨hs, -⟩ := name_of_parseChars h
      obtain ⟨pre, hp, -⟩ := suffix_of_dropStemIgnoringCase? hs
      rw [toList_text_name]
      simp only [List.forall_mem_cons]
      refine ⟨by decide, by decide, by decide, by decide, by decide, fun c hc => ?_⟩
      exact hb c (mem_of_mem_trim (by simp [hp, hc]))

lemma eq_name_of_last (h : t.text.toList.getLast? = some '\\') :
    ∃ n, t = .reference (.name n) := by
  cases t with
  | primitive p => cases p <;> exact absurd h (by decide)
  | array u =>
    rw [toList_text_array] at h
    simp only [← List.cons_append] at h
    rw [List.getLast?_concat] at h
    exact absurd h (by decide)
  | reference r =>
    cases r with
    | said s =>
      have hs : ∀ c ∈ (reference (.said s)).text.toList, c ≠ '\\' := by
        rw [toList_text_said]
        simp only [List.forall_mem_cons]
        exact ⟨by decide, by decide, by decide, by decide, by decide,
          Said.forall_mem_text (by decide) (by decide) s⟩
      exact absurd rfl (hs _ (List.mem_of_getLast? h))
    | name n => exact ⟨n, rfl⟩

lemma length_le_of_parseChars_name {n : String}
    (h : parseChars cs = .ok (.reference (.name n))) :
    (reference (.name n)).text.toList.length ≤ cs.length := by
  have hl := length_of_dropStemIgnoringCase? (name_of_parseChars h).1
  have ht := length_trim_le cs
  rw [toList_text_name]
  simp only [List.length_cons, List.length_nil] at hl ⊢
  omega

lemma ofJson_toJson (h : t.Tidy) : ofJson t.toJson = .ok t := by
  induction t with
  | primitive p => cases p <;> exact congrArg (Except.mapError _) (parse_text h)
  | array t ih =>
    rw [toJson, ofJson, ih h]
    rfl
  | reference r => exact congrArg (Except.mapError _) (parse_text h)

lemma tidy_of_ofJson {v : Json} (h : ofJson v = .ok t) : t.Tidy := by
  fun_induction ofJson v generalizing t with
  | case1 s => exact tidy_of_parseChars (Outcome.mapError_ok_iff.mp h)
  | case2 => contradiction
  | case3 v vs ih =>
    obtain ⟨u, hu, h⟩ := Outcome.bind_ok_iff.mp h
    split at h
    · obtain rfl := Outcome.pure_ok_iff.mp h
      exact (ih hu : u.Tidy)
    · contradiction
  | case4 => contradiction

end AttributeType

end LayeredSchema

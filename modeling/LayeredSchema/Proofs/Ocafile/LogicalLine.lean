import LayeredSchema.Proofs.Ocafile.Cursor

/-!
Reading a text line by line: a line that is written whole is read by itself, and the attributes of
a command are joined to one line again.
-/

namespace LayeredSchema.Ocafile

open Text

variable {n : ℕ} {p : Progress} {k : LogicalLine} {l cs u w : List Char}
variable {as : List (String × AttributeType)} {a : String × AttributeType}

def readFrom (n : ℕ) (p : Progress) (cs : List Char) : Except Error Progress :=
  (joinLines n none (lines cs)).foldlM readLine p

structure Whole (l : List Char) : Prop where
  noFeed : '\n' ∉ l
  last : ∃ c, l.getLast? = some c ∧ isBlank c = false ∧ c ≠ '\\'

lemma Whole.append (hp : '\n' ∉ u) (h : Whole l) : Whole (u ++ l) := by
  obtain ⟨c, hc, hb⟩ := h.last
  refine ⟨by simpa using ⟨hp, h.noFeed⟩, c, ?_, hb⟩
  rw [List.getLast?_append, hc, Option.some_or]

lemma Whole.lines_cons (h : Whole l) : lines (l ++ '\n' :: cs) = l :: lines cs := by
  obtain ⟨c, hc, hb, -⟩ := h.last
  refine lines_line h.noFeed ?_
  rw [hc]
  rintro ⟨rfl⟩
  exact absurd hb (by decide)

lemma Whole.continued?_eq (h : Whole l) : continued? l = none := by
  obtain ⟨c, hc, hb, hs⟩ := h.last
  obtain ⟨ds, rfl⟩ := List.getLast?_eq_some_iff.mp hc
  rw [continued?, trimRight_concat hb, dropLastChar?_concat, if_neg hs]

lemma readFrom_nil : readFrom n p [] = .ok p := rfl

lemma readFrom_line (h : Whole l) (hc : isComment l = false) :
    readFrom n p (l ++ '\n' :: cs) = readLine p ⟨n, l⟩ >>= fun q => readFrom (n + 1) q cs := by
  simp [readFrom, h.lines_cons, joinLines, hc, h.continued?_eq]

lemma readFrom_empty : readFrom n p ('\n' :: cs) = readFrom (n + 1) p cs := by
  rw [readFrom, lines]
  rfl

lemma joinLines_whole (h : Whole l) :
    joinLines n (some k) (lines (l ++ '\n' :: cs)) =
      k.append l :: joinLines (n + 1) none (lines cs) := by
  simp [h.lines_cons, joinLines, h.continued?_eq]

lemma lines_continued (h : '\n' ∉ l) : lines (l ++ '\\' :: '\n' :: cs) = (l ++ ['\\']) :: lines cs := by
  have := lines_line (l := l ++ ['\\']) (t := cs) (by simpa using h) (by simp)
  simpa using this

lemma continued?_concat : continued? (l ++ ['\\']) = some l := by
  rw [continued?, trimRight_concat (by decide), dropLastChar?_concat, if_pos rfl]

structure WritableAttribute (a : String × AttributeType) : Prop where
  name_ne : a.1 ≠ ""
  name : ∀ c ∈ a.1.toList, isBlank c = false ∧ c ≠ '='
  text : ∀ c ∈ a.2.text.toList, isBlank c = false
  parse : AttributeType.parse a.2.text = .ok a.2

structure WritableAttributes (as : List (String × AttributeType)) : Prop where
  ne_nil : as ≠ []
  each : ∀ a ∈ as, WritableAttribute a
  last : ∀ a, as.getLast? = some a → a.2.text.toList.getLast? ≠ some '\\'

lemma WritableAttributes.exists_concat (h : WritableAttributes as) :
    ∃ bs a, as = bs ++ [a] ∧ (∀ b ∈ bs, WritableAttribute b) ∧ WritableAttribute a ∧
      a.2.text.toList.getLast? ≠ some '\\' := by
  obtain ⟨bs, a, rfl⟩ := (List.eq_nil_or_concat' as).resolve_left h.ne_nil
  exact ⟨bs, a, rfl, fun b hb => h.each b (List.mem_append_left _ hb), h.each a (by simp),
    h.last a List.getLast?_concat⟩

def bodyChars (a : String × AttributeType) : List Char := a.1.toList ++ '=' :: a.2.text.toList

lemma attributeChars_eq : attributeChars a = ' ' :: bodyChars a := rfl

lemma WritableAttribute.body (h : WritableAttribute a) :
    ∀ c ∈ bodyChars a, isBlank c = false := by
  intro c hc
  rcases List.mem_append.mp hc with hc | hc
  · exact (h.name c hc).1
  rcases List.mem_cons.mp hc with rfl | hc
  · decide
  · exact h.text c hc

lemma WritableAttribute.noFeed (h : WritableAttribute a) : '\n' ∉ bodyChars a :=
  fun hn => absurd (h.body _ hn) (by decide)

lemma WritableAttribute.whole (h : WritableAttribute a)
    (hl : a.2.text.toList.getLast? ≠ some '\\') : Whole (bodyChars a) := by
  refine ⟨h.noFeed, ?_⟩
  obtain ⟨c, hc⟩ : ∃ c, ('=' :: a.2.text.toList).getLast? = some c :=
    ⟨_, List.getLast?_eq_some_getLast (by simp)⟩
  have hb : (bodyChars a).getLast? = some c := by
    rw [bodyChars, List.getLast?_append, hc, Option.some_or]
  refine ⟨c, hb, h.body c (List.mem_of_getLast? hb), ?_⟩
  rintro rfl
  rw [List.getLast?_cons] at hc
  cases ht : a.2.text.toList.getLast? with
  | none => simp [ht] at hc
  | some d => simp_all

lemma WritableAttribute.append (h : WritableAttribute a)
    (hq : ∀ c ∈ w, isBlank c = true) :
    k.append ("   ".toList ++ attributeChars a ++ w) =
      { k with text := k.text ++ attributeChars a } := by
  have ht : trim ("   ".toList ++ attributeChars a ++ w) = bodyChars a := by
    have := trim_padded (u := "    ".toList) (forall_isBlank (by decide)) hq h.body
    simpa [attributeChars_eq] using this
  rw [LogicalLine.append, ht, attributeChars_eq]

lemma attributesChars_cons (h : as ≠ []) :
    attributesChars (a :: as) = attributeChars a ++ " \\\n   ".toList ++ attributesChars as := by
  rw [attributesChars]
  exact h

lemma joinLines_init {bs : List (String × AttributeType)} (h : ∀ b ∈ bs, WritableAttribute b) :
    joinLines n (some k) (lines ("   ".toList ++ attributesChars (bs ++ [a]) ++ cs)) =
      joinLines (n + bs.length) (some { k with text := k.text ++ bs.flatMap attributeChars })
        (lines ("   ".toList ++ attributeChars a ++ cs)) := by
  induction bs generalizing k n with
  | nil => simp [attributesChars]
  | cons b bs ih =>
    have hb := h b List.mem_cons_self
    have hf : '\n' ∉ "   ".toList ++ attributeChars b ++ " ".toList := by
      simp [attributeChars_eq, hb.noFeed]
    have hs : "   ".toList ++ attributesChars (b :: bs ++ [a]) ++ cs =
        ("   ".toList ++ attributeChars b ++ " ".toList) ++ '\\' :: '\n' ::
          ("   ".toList ++ attributesChars (bs ++ [a]) ++ cs) := by
      rw [List.cons_append, attributesChars_cons (by simp)]
      simp
    rw [hs, lines_continued hf, joinLines, continued?_concat]
    simp only
    rw [hb.append (forall_isBlank (by decide)), ih fun c hc => h c (List.mem_cons_of_mem b hc)]
    simp [Nat.add_comm, Nat.add_left_comm]

def leadChars : List (String × AttributeType) → List Char
  | [] => []
  | b :: bs => attributeChars b ++ ' ' :: bs.flatMap attributeChars

lemma joinLines_lead {bs : List (String × AttributeType)} (h : ∀ b ∈ bs, WritableAttribute b)
    (hn : bs ≠ []) (hp : '\n' ∉ u) (hc : ∀ w, isComment (u ++ w) = false) :
    joinLines n none (lines (u ++ attributesChars (bs ++ [a]) ++ cs)) =
      joinLines (n + bs.length) (some ⟨n, u ++ leadChars bs⟩)
        (lines ("   ".toList ++ attributeChars a ++ cs)) := by
  obtain ⟨b, bs, rfl⟩ := List.exists_cons_of_ne_nil hn
  have hf : '\n' ∉ u ++ attributeChars b ++ " ".toList := by
    simp [attributeChars_eq, (h b List.mem_cons_self).noFeed, hp]
  have hs : u ++ attributesChars (b :: bs ++ [a]) ++ cs =
      (u ++ attributeChars b ++ " ".toList) ++ '\\' :: '\n' ::
        ("   ".toList ++ attributesChars (bs ++ [a]) ++ cs) := by
    rw [List.cons_append, attributesChars_cons (by simp)]
    simp
  have hk : isComment (u ++ attributeChars b ++ " ".toList ++ ['\\']) = false := by
    simpa using hc (attributeChars b ++ [' ', '\\'])
  rw [hs, lines_continued hf, joinLines, hk, continued?_concat]
  simp only [Bool.false_eq_true, if_false]
  rw [joinLines_init fun c hc => h c (List.mem_cons_of_mem b hc)]
  simp [leadChars, Nat.add_comm, Nat.add_left_comm]

lemma readFrom_attributes {bs : List (String × AttributeType)} (n : ℕ) (cs : List Char)
    (hp : '\n' ∉ u) (hc : ∀ w, isComment (u ++ w) = false) (h : ∀ b ∈ bs, WritableAttribute b)
    (ha : WritableAttribute a) (hl : a.2.text.toList.getLast? ≠ some '\\') :
    readFrom n p (u ++ attributesChars (bs ++ [a]) ++ '\n' :: cs) =
      readLine p ⟨n, u ++ (leadChars bs ++ attributeChars a)⟩ >>=
        fun q => readFrom (n + bs.length + 1) q cs := by
  have hw : Whole (attributeChars a) := (ha.whole hl).append (u := [' ']) (by decide)
  by_cases hn : bs = []
  · subst hn
    exact readFrom_line (hw.append hp) (hc _)
  · have hk := ha.append (k := ⟨n, u ++ leadChars bs⟩) (w := []) (by simp)
    rw [List.append_nil] at hk
    rw [readFrom, joinLines_lead h hn hp hc, joinLines_whole (hw.append (by decide)), hk]
    simp [readFrom]

end LayeredSchema.Ocafile

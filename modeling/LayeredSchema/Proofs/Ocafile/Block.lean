import LayeredSchema.Proofs.Ocafile.LogicalLine

/-!
Blocks: the tree of properties is rebuilt from the indentation of the lines that it is written on,
a block with nothing in it being read as a key alone.
-/

namespace LayeredSchema

namespace PropertyValue

def inner : PropertyValue → List Property
  | .block ps => ps
  | _ => []

def onLine : PropertyValue → PropertyValue
  | .block _ => .bare
  | v => v

lemma isBare_iff {v : PropertyValue} : v.isBare = true ↔ v = .bare := by
  cases v <;> simp [isBare]

end PropertyValue

mutual

/-- The same property without line numbers and with empty blocks as keys alone. -/
def Property.pruned : Property → Property
  | .mk _ key value => .mk 0 key value.pruned

def PropertyValue.pruned : PropertyValue → PropertyValue
  | .block [] => .bare
  | .block (p :: ps) => .block (p.pruned :: Property.prunedList ps)
  | v => v

def Property.prunedList : List Property → List Property
  | [] => []
  | p :: ps => p.pruned :: Property.prunedList ps

end

namespace Property

inductive Every (P : String → PropertyValue → Prop) : List Property → Prop
  | nil : Every P []
  | cons {n : ℕ} {k : String} {v : PropertyValue} {ps : List Property} (head : P k v)
      (inner : Every P v.inner) (tail : Every P ps) : Every P (.mk n k v :: ps)

lemma Every.mono {P Q : String → PropertyValue → Prop} (hpq : ∀ k v, P k v → Q k v)
    {ps : List Property} (h : Every P ps) : Every Q ps := by
  induction h with
  | nil => exact .nil
  | cons head _ _ ihv ihs => exact .cons (hpq _ _ head) ihv ihs

end Property

namespace Ocafile

open Text

variable {d n : ℕ} {ps : List Property} {l : BlockLine} {ls : List BlockLine}
variable {p : Progress} {o : OpenOverlay} {k : String} {v : PropertyValue} {cs : List Char}

section Indentation

variable {cs : List Char} (n : ℕ) (h : trimLeft cs = cs)
include h

lemma head_not_isBlank : ∀ ch, cs.head? = some ch → isBlank ch = false := by
  intro ch hc
  rw [← h] at hc
  exact head_trimLeft hc

lemma trimLeft_indented : trimLeft (List.replicate n ' ' ++ cs) = cs := by
  rw [trimLeft_append fun _ hc => List.eq_of_mem_replicate hc ▸ rfl, h]

lemma takeWhile_indented :
    (List.replicate n ' ' ++ cs).takeWhile isBlank = List.replicate n ' ' :=
  takeWhile_append (fun _ hc => List.eq_of_mem_replicate hc ▸ rfl) (head_not_isBlank h)

end Indentation

lemma byteLength_replicate (n : ℕ) : byteLength (List.replicate n ' ') = n := by
  induction n with
  | zero => rfl
  | succ n ih =>
    rw [List.replicate_succ, byteLength_cons, ih, Nat.add_comm]
    rfl

def readIndented (p : Progress) (i n : ℕ) (cs : List Char) : Except Error Progress :=
  match cs with
  | [] | '#' :: _ => .ok p
  | _ =>
    if n = 0 then do
      let p ← p.close
      let p ← match dropStem? ['-', '-'] cs with
        | some _ => readHeader p ⟨i, 1, cs⟩
        | none => readStatement p ⟨i, 1, cs⟩
      return { p with started := true }
    else readBlockLine p n ⟨i, n + 1, cs⟩

lemma readLine_indented (p : Progress) (i n : ℕ) {cs : List Char} (h : trimLeft cs = cs) :
    readLine p ⟨i, List.replicate n ' ' ++ cs⟩ = readIndented p i n cs := by
  have ht : (List.replicate n ' ').contains '\t' = false := by simp
  have he : (List.replicate n ' ').isEmpty = true ↔ n = 0 := by simp
  simp only [readLine, trimLeft_indented n h, takeWhile_indented n h, ht, he, byteLength_replicate,
    Bool.false_eq_true, if_false]
  rfl

inductive Laid : ℕ → List Property → List BlockLine → Prop
  | nil {d : ℕ} : Laid d [] []
  | cons {d m n : ℕ} {k : String} {v : PropertyValue} {ps : List Property}
      {ls ms : List BlockLine} (inner : Laid (d + 1) v.inner ls) (outer : Laid d ps ms) :
      Laid d (.mk m k v :: ps) (⟨n, 2 * d, k, v.onLine⟩ :: (ls ++ ms))

lemma Laid.indent_le (h : Laid d ps ls) : ∀ l ∈ ls, 2 * d ≤ l.indent := by
  induction h with
  | nil => simp
  | cons _ _ ihv ihs =>
    intro l hl
    rcases List.mem_cons.mp hl with rfl | hl
    · exact le_rfl
    rcases List.mem_append.mp hl with hl | hl
    · have := ihv l hl
      omega
    · exact ihs l hl

lemma Laid.head_indent (h : Laid d ps (l :: ls)) : l.indent = 2 * d := by
  cases h
  rfl

lemma Laid.split {ms : List BlockLine} {qs : List Property} (hi : l.indent = 2 * d)
    (hv : Laid (d + 1) qs ls) (hs : Laid d ps ms) :
    l.inner (ls ++ ms) = ls ∧ l.outer (ls ++ ms) = ms := by
  have hlt : ∀ m ∈ ls, decide (l.indent < m.indent) = true := by
    intro m hm
    have := hv.indent_le m hm
    simp
    omega
  have hge : ∀ m, ms.head? = some m → decide (l.indent < m.indent) = false := by
    intro m hm
    obtain ⟨ns, rfl⟩ := List.head?_eq_some_iff.mp hm
    have := hs.head_indent
    simp
    omega
  exact ⟨takeWhile_append hlt hge, dropWhile_append hlt hge⟩

def leveled (l : BlockLine) (v : PropertyValue) (os : List BlockLine) :
    Except Error (List Property) := do
  if let next :: _ := os then
    if next.indent ≠ l.indent then next.fail .inconsistentDedent
  return .mk l.number l.key v :: (← properties os)

lemma properties_cons (l : BlockLine) (ls : List BlockLine) : properties (l :: ls) =
    match l.inner ls with
    | [] => leveled l l.value (l.outer ls)
    | first :: _ =>
      if l.value.isBare then
        properties (l.inner ls) >>= fun ps => leveled l (.block ps) (l.outer ls)
      else first.fail .indentUnderValue := by
  rw [properties]
  cases l.inner ls with
  | nil => rfl
  | cons first rest =>
    dsimp only
    split
    · cases properties (first :: rest) <;> rfl
    · rfl

lemma mem_of_mem_inner {m : BlockLine} (h : m ∈ l.inner ls) : m ∈ l :: ls :=
  List.mem_cons_of_mem l ((List.takeWhile_prefix _).subset h)

lemma mem_of_mem_outer {m : BlockLine} (h : m ∈ l.outer ls) : m ∈ l :: ls :=
  List.mem_cons_of_mem l ((List.dropWhile_suffix _).subset h)

/-- The lines of a block are the first, those within it, which are no tail of the lines, and those
after these. -/
@[elab_as_elim]
lemma block_induction {motive : List BlockLine → Prop} (nil : motive [])
    (cons : ∀ l ls, motive (l.inner ls) → motive (l.outer ls) → motive (l :: ls))
    (ls : List BlockLine) : motive ls := by
  induction hn : ls.length using Nat.strong_induction_on generalizing ls with
  | _ n ih =>
    subst hn
    cases ls with
    | nil => exact nil
    | cons l ls =>
      apply cons
      · exact ih _ (Nat.lt_succ_of_le (l.length_inner_le ls)) _ rfl
      · exact ih _ (Nat.lt_succ_of_le (l.length_outer_le ls)) _ rfl

def Nested (l : BlockLine) (ls : List BlockLine) (v : PropertyValue) : Prop :=
  (ls = [] ∧ v = l.value) ∨
    (ls ≠ [] ∧ l.value.isBare = true ∧ ∃ ps, properties ls = .ok ps ∧ v = .block ps)

lemma leveled_ok_iff {os : List BlockLine} {qs : List Property} :
    leveled l v os = .ok qs ↔ (∀ m, os.head? = some m → m.indent = l.indent) ∧
      ∃ t, properties os = .ok t ∧ qs = .mk l.number l.key v :: t := by
  cases os with
  | nil => simp [leveled, properties, eq_comm]
  | cons m ms =>
    by_cases hm : m.indent = l.indent
    · simp only [leveled, hm, ne_eq, not_true_eq_false, if_false, Outcome.bind_ok_iff,
        Outcome.pure_ok_iff]
      simp [hm, eq_comm]
    · simp only [leveled, hm, ne_eq, not_false_eq_true, if_true, BlockLine.fail]
      constructor
      · intro h
        contradiction
      · exact fun h => absurd (h.1 m rfl) hm

lemma properties_cons_ok_iff {qs : List Property} :
    properties (l :: ls) = .ok qs ↔
      ∃ v t, Nested l (l.inner ls) v ∧ (∀ m, (l.outer ls).head? = some m → m.indent = l.indent) ∧
        properties (l.outer ls) = .ok t ∧ qs = .mk l.number l.key v :: t := by
  rw [properties_cons]
  cases l.inner ls with
  | nil => simp [Nested, leveled_ok_iff]
  | cons i is =>
    by_cases hb : l.value.isBare = true
    · simp only [hb, if_true, Outcome.bind_ok_iff, leveled_ok_iff, Nested]
      constructor
      · rintro ⟨ps, hps, hm, t, hr, rfl⟩
        exact ⟨_, t, Or.inr ⟨by simp, trivial, ps, hps, rfl⟩, hm, hr, rfl⟩
      · rintro ⟨v, t, ⟨hn, -⟩ | ⟨-, -, ps, hps, rfl⟩, hm, hr, rfl⟩
        · contradiction
        · exact ⟨ps, hps, hm, t, hr, rfl⟩
    · simp only [hb, BlockLine.fail]
      constructor
      · intro h
        contradiction
      · rintro ⟨v, t, ⟨hn, -⟩ | ⟨-, hb', -⟩, -⟩
        · contradiction
        · exact absurd hb' hb

lemma properties_of_laid (h : Laid d ps ls) :
    ∃ qs, properties ls = .ok qs ∧ Property.unnumberedList qs = Property.prunedList ps := by
  induction h with
  | nil => exact ⟨[], by rw [properties], rfl⟩
  | @cons d m n k v ps ls ms hv hs ihv ihs =>
    obtain ⟨vs, hvs, hvp⟩ := ihv
    obtain ⟨qs, hqs, hqp⟩ := ihs
    obtain ⟨hi, ho⟩ := Laid.split (l := ⟨n, 2 * d, k, v.onLine⟩) rfl hv hs
    simp only [properties_cons_ok_iff, hi, ho]
    have hm : ∀ m, ms.head? = some m → m.indent = 2 * d := by
      rintro m hm
      obtain ⟨ns, rfl⟩ := List.head?_eq_some_iff.mp hm
      exact hs.head_indent
    suffices ∃ w, Nested ⟨n, 2 * d, k, v.onLine⟩ ls w ∧ w.unnumbered = v.pruned by
      obtain ⟨w, hw, hp⟩ := this
      refine ⟨_, ⟨w, qs, hw, hm, hqs, rfl⟩, ?_⟩
      simp [Property.unnumberedList, Property.unnumbered, Property.prunedList, Property.pruned, hp, hqp]
    cases v with
    | bare | text | list =>
      cases hv
      exact ⟨_, Or.inl ⟨rfl, rfl⟩, rfl⟩
    | block ws =>
      cases ws with
      | nil =>
        cases hv
        exact ⟨_, Or.inl ⟨rfl, rfl⟩, rfl⟩
      | cons q ws =>
        refine ⟨.block vs, Or.inr ⟨?_, rfl, vs, hvs, rfl⟩, ?_⟩
        · cases hv
          simp
        · rw [PropertyValue.unnumbered, hvp]
          rfl

/-- A key that is written without quotes and ends in a backslash. With no value after it, the next
line continues its line. -/
def Continues (k : String) : Prop := isPlainKey k.toList = true ∧ k.toList.getLast? = some '\\'

def KeyIn (S : String → Prop) (k : String) (v : PropertyValue) : Prop :=
  k ≠ "" ∧ (v.onLine = .bare → Continues k → S k)

def KeyReads : String → PropertyValue → Prop := KeyIn fun _ => False

def tailChars : PropertyValue → List Char
  | .bare | .block _ => []
  | .text s => '=' :: quote s
  | .list items => '=' :: '[' :: listChars items ++ [']']

lemma valueChars_eq : valueChars d v = tailChars v ++ '\n' :: blockChars (d + 1) v.inner := by
  cases v <;> simp [valueChars, tailChars, PropertyValue.inner, blockChars]

lemma readValue_tailChars {c : Cursor} (h : c.rest = tailChars v) : readValue c = .ok v.onLine := by
  cases v with
  | bare | block ps =>
    have hc : c.rest = [] := h
    simp [readValue, hc, Cursor.atEnd, isAllBlank, PropertyValue.onLine]
  | text s =>
    rw [readValue, h]
    exact Cursor.value_text rfl
  | list items =>
    rw [readValue, h]
    exact Cursor.value_list rfl

lemma isPlainKey_iff {k : List Char} : isPlainKey k = true ↔
    k ≠ [] ∧ k.head? ≠ some '#' ∧ k.head? ≠ some '"' ∧ ∀ c ∈ k, isBlank c = false ∧ c ≠ '=' := by
  cases k <;> simp [isPlainKey, and_assoc]

lemma head_tailChars {ch : Char} (h : (tailChars v).head? = some ch) : ch = '=' := by
  cases v with
  | bare | block ps => simp [tailChars] at h
  | text s | list items => simpa [tailChars, eq_comm] using h

lemma readKey_plain {c : Cursor} {t : List Char} (hp : isPlainKey k.toList = true)
    (h : c.rest = k.toList ++ t) (hr : ∀ ch, t.head? = some ch → isBlank ch = true ∨ ch = '=') :
    readKey c = .ok (k, c.moveTo t) := by
  obtain ⟨hn, -, hq, hc⟩ := isPlainKey_iff.mp hp
  have hw : c.name = (k.toList, c.moveTo t) := by
    refine Cursor.takeWhile_eq h (fun ch hch => ?_) fun ch hch => ?_
    · simp [hc ch hch]
    · rcases hr ch hch with hb | rfl
      · simp [hb]
      · simp
  rw [readKey, hw]
  split
  · rename_i hc
    rw [h] at hc
    cases hk : k.toList <;> simp_all
  · simp

lemma readKey_keyChars {c : Cursor} {t : List Char} (h : c.rest = keyChars k ++ t)
    (hr : ∀ ch, t.head? = some ch → ch = '=') : Cursor.Reads (readKey c) k t := by
  rw [keyChars] at h
  split at h
  · rename_i hp
    exact ⟨c.moveTo t, readKey_plain hp h fun ch hch => Or.inr (hr ch hch), rfl⟩
  · rw [readKey, h, quote_append]
    exact Cursor.quoted_quote h

def lineChars (d : ℕ) (k : String) (v : PropertyValue) : List Char :=
  List.replicate (2 * d) ' ' ++ (keyChars k ++ tailChars v)

lemma whole_quote (s : String) : Whole (quote s) :=
  ⟨noFeed_quote, '"', List.getLast?_concat, by decide, by decide⟩

lemma whole_tailChars (h : v.onLine ≠ .bare) : Whole (tailChars v) := by
  cases v with
  | bare | block ps => contradiction
  | text s => exact (whole_quote s).append (u := ['=']) (by decide)
  | list items =>
    have hb : Whole [']'] := ⟨by decide, ']', rfl, by decide, by decide⟩
    exact hb.append (by simpa using noFeed_listChars items)

lemma noFeed_keyChars : '\n' ∉ keyChars k := by
  rw [keyChars]
  split
  · rename_i hp
    exact fun h => absurd ((isPlainKey_iff.mp hp).2.2.2 _ h).1 (by decide)
  · exact noFeed_quote

lemma whole_keyChars (h : ¬Continues k) : Whole (keyChars k) := by
  rw [keyChars]
  split
  · rename_i hp
    obtain ⟨hn, -, -, hc⟩ := isPlainKey_iff.mp hp
    have hl := List.getLast?_eq_some_getLast hn
    refine ⟨by simpa [keyChars, hp] using noFeed_keyChars (k := k), _, hl, ?_, ?_⟩
    · exact (hc _ (List.getLast_mem hn)).1
    · rintro he
      exact h ⟨hp, he ▸ hl⟩
  · exact whole_quote k

lemma whole_lineChars (h : KeyReads k v) : Whole (lineChars d k v) := by
  have hs : '\n' ∉ List.replicate (2 * d) ' ' := by simp
  by_cases hv : v.onLine = .bare
  · have ht : tailChars v = [] := by
      cases v <;> simp_all [PropertyValue.onLine, tailChars]
    rw [lineChars, ht, List.append_nil]
    exact (whole_keyChars (h.2 hv)).append hs
  · exact ((whole_tailChars hv).append noFeed_keyChars).append hs

lemma keyChars_cons :
    ∃ c cs, keyChars k = c :: cs ∧ isBlank c = false ∧ c ≠ '#' ∧ c ≠ '=' := by
  rw [keyChars]
  split
  · rename_i hp
    obtain ⟨hn, hs, -, hc⟩ := isPlainKey_iff.mp hp
    obtain ⟨c, cs, hk⟩ := List.exists_cons_of_ne_nil hn
    obtain ⟨hb, he⟩ := hc c (by simp [hk])
    refine ⟨c, cs, hk, hb, ?_, he⟩
    rintro rfl
    simp [hk] at hs
  · exact ⟨'"', _, rfl, by decide, by decide, by decide⟩

lemma trimLeft_lineChars : trimLeft (lineChars d k v) = keyChars k ++ tailChars v := by
  obtain ⟨c, cs, hk, hc, -⟩ := keyChars_cons (k := k)
  rw [lineChars, trimLeft_append, hk, List.cons_append, trimLeft_cons hc]
  intro c hc
  rw [List.eq_of_mem_replicate hc]
  decide

lemma isComment_lineChars : isComment (lineChars d k v) = false := by
  obtain ⟨c, cs, hk, -, hc, -⟩ := keyChars_cons (k := k)
  rw [isComment, trimLeft_lineChars, hk, List.cons_append]
  split
  · simp_all
  · rfl

lemma readBlockLine_lineChars {c : Cursor} {i : ℕ} (hp : p.overlay = some o) (hk : k ≠ "")
    (hc : c.rest = keyChars k ++ tailChars v) : readBlockLine p i c =
      .ok { p with overlay := some { o with block := o.block ++ [⟨c.line, i, k, v.onLine⟩] } } := by
  obtain ⟨c', hr, ht⟩ := readKey_keyChars hc fun ch => head_tailChars
  have hv : readValue c'.skipBlanks = .ok v.onLine := by
    refine readValue_tailChars ((trimLeft_eq_self fun ch hch => ?_).trans ht)
    rw [ht] at hch
    rw [head_tailChars hch]
    decide
  have he : k.isEmpty = false := by simpa using hk
  simp only [readBlockLine, hp, hr, Outcome.bind_ok_iff]
  exact ⟨_, rfl, _, hv, by rw [he]; rfl⟩

lemma readLine_lineChars (hp : p.overlay = some o) (hd : d ≠ 0) (hk : k ≠ "") :
    readLine p ⟨n, lineChars d k v⟩ =
      .ok { p with overlay := some { o with block := o.block ++ [⟨n, 2 * d, k, v.onLine⟩] } } := by
  obtain ⟨c, cs, hc, hb, hs, -⟩ := keyChars_cons (k := k)
  have ht : trimLeft (keyChars k ++ tailChars v) = keyChars k ++ tailChars v := by
    rw [hc, List.cons_append, trimLeft_cons hb]
  rw [lineChars, readLine_indented p n (2 * d) ht]
  unfold readIndented
  split
  · simp_all
  · simp_all
  · rw [if_neg (by omega)]
    exact readBlockLine_lineChars hp hk rfl

lemma readFrom_lineChars (hp : p.overlay = some o) (hd : d ≠ 0) (h : KeyReads k v) :
    readFrom n p (lineChars d k v ++ '\n' :: cs) =
      readFrom (n + 1)
        { p with overlay := some { o with block := o.block ++ [⟨n, 2 * d, k, v.onLine⟩] } } cs := by
  rw [readFrom_line (whole_lineChars h) isComment_lineChars, readLine_lineChars hp hd h.1]
  rfl

lemma readFrom_blockChars (h : Property.Every KeyReads ps) (hd : d ≠ 0) (n : ℕ)
    (cs : List Char) (o : OpenOverlay) :
    ∃ m ls, Laid d ps ls ∧ readFrom n { p with overlay := some o } (blockChars d ps ++ cs) =
      readFrom m { p with overlay := some { o with block := o.block ++ ls } } cs := by
  induction h generalizing d n o cs with
  | nil => exact ⟨n, [], .nil, by simp [blockChars]⟩
  | @cons i k v ps head _ _ ihv ihs =>
    have hs : blockChars d (.mk i k v :: ps) ++ cs =
        lineChars d k v ++ '\n' :: (blockChars (d + 1) v.inner ++ (blockChars d ps ++ cs)) := by
      simp [blockChars, propertyChars, lineChars, valueChars_eq]
    obtain ⟨m₁, ls₁, hl₁, hr₁⟩ := ihv (d := d + 1) (by omega) (n + 1)
      (blockChars d ps ++ cs) { o with block := o.block ++ [⟨n, 2 * d, k, v.onLine⟩] }
    obtain ⟨m₂, ls₂, hl₂, hr₂⟩ := ihs hd m₁ cs
      { o with block := o.block ++ [⟨n, 2 * d, k, v.onLine⟩] ++ ls₁ }
    refine ⟨m₂, _, .cons (n := n) hl₁ hl₂, ?_⟩
    calc readFrom n { p with overlay := some o } (blockChars d (.mk i k v :: ps) ++ cs)
      _ = _ := by rw [hs, readFrom_lineChars rfl hd head]
      _ = _ := hr₁
      _ = _ := hr₂
      _ = _ := by simp

end Ocafile

end LayeredSchema

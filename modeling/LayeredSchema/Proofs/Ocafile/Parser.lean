import LayeredSchema.Proofs.Ocafile.Block

/-!
Parsing undoes printing: the text of a file reads back as the same file, line numbers aside.
-/

namespace LayeredSchema

namespace Property

structure IsWritable (k : String) (v : PropertyValue) : Prop where
  key_ne : k ≠ ""
  last : v.onLine = .bare → k.toList.getLast? ≠ some '\\'
  block_ne : v ≠ .block []

lemma prunedList_of_isWritable {ps : List Property} (h : Every IsWritable ps) :
    prunedList ps = unnumberedList ps := by
  induction h with
  | nil => rfl
  | @cons n k v ps head _ _ ihv ihs =>
    have hv : v.pruned = v.unnumbered := by
      cases v with
      | block qs =>
        cases qs with
        | nil => exact absurd rfl head.block_ne
        | cons q qs => exact congrArg PropertyValue.block ihv
      | _ => rfl
    rw [prunedList, pruned, hv, ihs]
    rfl

end Property

def Action.pruned : Action → Action
  | .overlay name ps => .overlay name (Property.prunedList ps)
  | a => a

namespace Ocafile

open Text

variable {n : ℕ} {p q : Progress} {c : Cursor} {t cs : List Char}
variable {as : List (String × AttributeType)} {a : String × AttributeType} {s : String}

structure WritableName (s : String) : Prop where
  ne : s ≠ ""
  trimmed : trim s.toList = s.toList
  noFeed : '\n' ∉ s.toList
  unquoted : s.toList.head? ≠ some '"'
  last : s.toList.getLast? ≠ some '\\'

def Writable (P : String → PropertyValue → Prop) : Action → Prop
  | .classification _ => True
  | .attributes declared => WritableAttributes declared
  | .overlay name ps => WritableName name ∧ Property.Every P ps

lemma readAttribute_ok_iff {name text : List Char} (hn : name ≠ [])
    (h : ∀ ch ∈ name, isBlank ch = false ∧ ch ≠ '=') (ht : ∀ ch ∈ text, isBlank ch = false)
    (hr : ∀ ch, t.head? = some ch → isBlank ch = true) (hc : c.rest = name ++ '=' :: (text ++ t)) :
    ∃ d : Cursor, d.rest = t ∧ ∀ r, readAttribute c = .ok r ↔
      ∃ type, AttributeType.parseChars text = .ok type ∧ r = ((String.ofList name, type), d) := by
  have hw : c.name = (name, c.moveTo ('=' :: (text ++ t))) := by
    refine Cursor.takeWhile_eq hc (fun ch hch => ?_) fun ch hch => ?_
    · simp [h ch hch]
    · obtain rfl : '=' = ch := by simpa using hch
      rfl
  have hv (d : Cursor) : (d.moveTo (text ++ t)).word = (text, (d.moveTo (text ++ t)).moveTo t) :=
    Cursor.word_eq rfl ht hr
  obtain ⟨ch, chs, rfl⟩ := List.exists_cons_of_ne_nil hn
  refine ⟨((c.moveTo ('=' :: (text ++ t))).moveTo (text ++ t)).moveTo t, rfl, fun r => ?_⟩
  rw [readAttribute, hw]
  simp only [Cursor.moveTo_rest, hv]
  cases hp : AttributeType.parseChars text with
  | ok type => simp [eq_comm]
  | error e => simp [Cursor.fail]

lemma readAttributes_eq (c : Cursor) : readAttributes c =
    if c.skipBlanks.rest.isEmpty then .ok []
    else readAttribute c.skipBlanks >>= fun r => (readAttributes r.2).map (r.1 :: ·) := by
  rw [readAttributes]
  split
  · rfl
  · split
    · rename_i he
      rw [he]
      rfl
    · rename_i a rest ha
      change (readAttributes rest).map (a :: ·) = _
      rw [ha]
      rfl

lemma readAttributes_nil (hc : trimLeft c.rest = []) : readAttributes c = .ok [] := by
  have he : c.skipBlanks.rest = [] := hc
  rw [readAttributes_eq, he]
  rfl

lemma readAttributes_ok_iff (hc : trimLeft c.rest ≠ []) :
    readAttributes c = .ok as ↔ ∃ a d bs, readAttribute c.skipBlanks = .ok (a, d) ∧
      readAttributes d = .ok bs ∧ as = a :: bs := by
  have hne : ¬c.skipBlanks.rest.isEmpty = true := fun h => hc (List.isEmpty_iff.mp h)
  rw [readAttributes_eq, if_neg hne]
  constructor
  · rintro h
    obtain ⟨⟨a, d⟩, ha, h⟩ := Outcome.bind_ok_iff.mp h
    obtain ⟨bs, hbs, rfl⟩ := Outcome.map_ok_iff.mp h
    exact ⟨a, d, bs, ha, hbs, rfl⟩
  · rintro ⟨a, d, bs, ha, hbs, rfl⟩
    exact Outcome.bind_ok_iff.mpr ⟨(a, d), ha, Outcome.map_ok_iff.mpr ⟨bs, hbs, rfl⟩⟩

def ReadsFirst (c : Cursor) (as : List (String × AttributeType)) (d : Cursor) : Prop :=
  ∀ bs, readAttributes c = .ok bs ↔ ∃ cs, readAttributes d = .ok cs ∧ bs = as ++ cs

lemma ReadsFirst.refl (c : Cursor) : ReadsFirst c [] c := by
  simp [ReadsFirst]

lemma ReadsFirst.trans {d e : Cursor} {bs : List (String × AttributeType)} (h : ReadsFirst c as d)
    (h' : ReadsFirst d bs e) : ReadsFirst c (as ++ bs) e := by
  intro cs
  rw [h cs]
  constructor
  · rintro ⟨ds, hds, rfl⟩
    obtain ⟨es, hes, rfl⟩ := (h' ds).mp hds
    exact ⟨es, hes, (List.append_assoc as bs es).symm⟩
  · rintro ⟨es, hes, rfl⟩
    exact ⟨bs ++ es, (h' _).mpr ⟨es, hes, rfl⟩, List.append_assoc as bs es⟩

lemma WritableAttribute.trimLeft_attributeChars (h : WritableAttribute a) :
    trimLeft (attributeChars a ++ t) = bodyChars a ++ t := by
  have ht : trimLeft (attributeChars a ++ t) = trimLeft (bodyChars a ++ t) :=
    trimLeft_space
  refine ht.trans (trimLeft_eq_self fun ch hch => h.body ch ?_)
  rw [List.head?_append_of_ne_nil _ (by simp [bodyChars])] at hch
  exact List.mem_of_head? hch

lemma WritableAttribute.readAttributes (h : WritableAttribute a)
    (hc : trimLeft c.rest = bodyChars a ++ t)
    (hr : ∀ ch, t.head? = some ch → isBlank ch = true) :
    ∃ d : Cursor, d.rest = t ∧ ReadsFirst c [a] d := by
  obtain ⟨d, hd, ha⟩ := readAttribute_ok_iff (c := c.skipBlanks) (by simpa using h.name_ne) h.name
    h.text hr (hc.trans (List.append_assoc _ _ _))
  have hp : AttributeType.parseChars a.2.text.toList = .ok a.2 := h.parse
  refine ⟨d, hd, fun as => ?_⟩
  rw [readAttributes_ok_iff (by rw [hc]; simp [bodyChars])]
  simp only [ha, hp, String.ofList_toList, Except.ok.injEq, exists_eq_left', Prod.mk.injEq]
  constructor
  · rintro ⟨_, _, bs, ⟨rfl, rfl⟩, hbs, rfl⟩
    exact ⟨bs, hbs, rfl⟩
  · rintro ⟨bs, hbs, rfl⟩
    exact ⟨a, d, bs, ⟨rfl, rfl⟩, hbs, rfl⟩

lemma head_flatMap_attributeChars (hr : ∀ ch, t.head? = some ch → isBlank ch = true) :
    ∀ ch, (as.flatMap attributeChars ++ t).head? = some ch → isBlank ch = true := by
  cases as with
  | nil => simpa using hr
  | cons a as =>
    intro ch hch
    obtain rfl : ' ' = ch := by simpa [attributeChars] using hch
    decide

lemma readAttributes_flatMap (h : ∀ a ∈ as, WritableAttribute a)
    (hr : ∀ ch, t.head? = some ch → isBlank ch = true)
    (hc : trimLeft c.rest = trimLeft (as.flatMap attributeChars ++ t)) :
    ∃ d : Cursor, trimLeft d.rest = trimLeft t ∧ ReadsFirst c as d := by
  induction as generalizing c with
  | nil => exact ⟨c, hc, .refl c⟩
  | cons a as ih =>
    have ha := h a List.mem_cons_self
    rw [List.flatMap_cons, List.append_assoc, ha.trimLeft_attributeChars] at hc
    obtain ⟨d, hd, hi⟩ := ha.readAttributes hc (head_flatMap_attributeChars hr)
    obtain ⟨e, he, hj⟩ := ih (fun b hb => h b (List.mem_cons_of_mem a hb)) (by rw [hd])
    exact ⟨e, he, hi.trans hj⟩

lemma head_leadChars (hr : ∀ ch, t.head? = some ch → isBlank ch = true) :
    ∀ ch, (leadChars as ++ t).head? = some ch → isBlank ch = true := by
  cases as with
  | nil => simpa [leadChars] using hr
  | cons a as =>
    intro ch hch
    obtain rfl : ' ' = ch := by simpa [leadChars, attributeChars] using hch
    decide

lemma readAttributes_leadChars (h : ∀ a ∈ as, WritableAttribute a)
    (hr : ∀ ch, t.head? = some ch → isBlank ch = true)
    (hc : trimLeft c.rest = trimLeft (leadChars as ++ t)) :
    ∃ d : Cursor, trimLeft d.rest = trimLeft t ∧ ReadsFirst c as d := by
  cases as with
  | nil => exact ⟨c, hc, .refl c⟩
  | cons a as =>
    have ha := h a List.mem_cons_self
    rw [leadChars, List.append_assoc, ha.trimLeft_attributeChars] at hc
    obtain ⟨d, hd, hi⟩ := ha.readAttributes hc (by simp; decide)
    have hd : trimLeft d.rest = trimLeft (as.flatMap attributeChars ++ t) := by
      rw [hd]
      exact trimLeft_space
    obtain ⟨e, he, hj⟩ := readAttributes_flatMap (fun b hb => h b (List.mem_cons_of_mem a hb)) hr hd
    exact ⟨e, he, hi.trans hj⟩

lemma readAddition_attributes (hr : ∀ ch, t.head? = some ch → isBlank ch = true)
    (hc : c.rest = "ATTRIBUTE".toList ++ t) :
    ∃ d : Cursor, trimLeft d.rest = trimLeft t ∧ ∀ q, readAddition p c = .ok q ↔
      ∃ as, readAttributes d = .ok as ∧ as ≠ [] ∧ q = p.add c.line (.attributes as) := by
  have hw := Cursor.word_eq hc (forall_not_isBlank (by decide)) hr
  refine ⟨(c.moveTo t).skipBlanks, trimLeft_trimLeft _, fun q => ?_⟩
  rw [readAddition, hw]
  simp only [show sameIgnoringCase "ATTRIBUTE".toList "ATTRIBUTE".toList = true by decide, if_true,
    Outcome.bind_ok_iff]
  refine exists_congr fun as => and_congr_right fun _ => ?_
  cases as with
  | nil => simp [Cursor.fail]
  | cons a as =>
    simp only [List.isEmpty_cons, Bool.false_eq_true, if_false, Outcome.pure_ok_iff]
    exact ⟨fun h => ⟨by simp, h.symm⟩, fun h => h.2.symm⟩

lemma readAddition_leadChars {bs : List (String × AttributeType)}
    (h : ∀ b ∈ bs, WritableAttribute b) (ha : WritableAttribute a)
    (hc : c.rest = "ATTRIBUTE".toList ++ (leadChars bs ++ attributeChars a)) :
    readAddition p c = .ok (p.add c.line (.attributes (bs ++ [a]))) := by
  have hb : ∀ ch, (attributeChars a).head? = some ch → isBlank ch = true := by
    intro ch hch
    obtain rfl : ' ' = ch := by simpa [attributeChars] using hch
    decide
  obtain ⟨d, hd, hi⟩ := readAddition_attributes (p := p) (head_leadChars hb) hc
  obtain ⟨e, he, hj⟩ := readAttributes_leadChars h hb hd
  have ht := ha.trimLeft_attributeChars (t := [])
  rw [List.append_nil] at ht
  obtain ⟨f, hf, hk⟩ := ha.readAttributes (he.trans ht) (by simp)
  have hn : readAttributes f = .ok [] := readAttributes_nil (by rw [hf]; rfl)
  have hr : readAttributes d = .ok (bs ++ [a]) :=
    (hj.trans hk _).mpr ⟨[], hn, (List.append_nil _).symm⟩
  exact (hi _).mpr ⟨bs ++ [a], hr, by simp, rfl⟩

lemma readAddition_classification (hc : c.rest = "CLASSIFICATION ".toList ++ quote s) :
    ∃ i, readAddition p c = .ok (p.add i (.classification s)) := by
  have hw := Cursor.word_eq (w := "CLASSIFICATION".toList) (t := ' ' :: quote s) hc
    (forall_not_isBlank (by decide))
    (by simp; decide)
  have ht : trimLeft (' ' :: quote s) = quote s ++ [] := by
    rw [List.append_nil]
    exact trimLeft_space.trans (trimLeft_cons (by decide))
  obtain ⟨d, hd, hr⟩ := Cursor.scalar_quote (c := (c.moveTo (' ' :: quote s)).skipBlanks)
    "classification" ((trimLeft_trimLeft _).trans ht)
  rw [readAddition, hw]
  simp only [show sameIgnoringCase "CLASSIFICATION".toList "ATTRIBUTE".toList = false by decide,
    show sameIgnoringCase "CLASSIFICATION".toList "CLASSIFICATION".toList = true by decide,
    Bool.false_eq_true, if_false, if_true, Outcome.bind_ok_iff]
  exact ⟨d.line, _, hd, (), Cursor.expectEnd_nil hr, rfl⟩

lemma readAddition_overlay (h : WritableName s) (hc : c.rest = "OVERLAY ".toList ++ s.toList) :
    ∃ i, readAddition p c = .ok { p with overlay := some ⟨i, s, []⟩ } := by
  have hw := Cursor.word_eq (w := "OVERLAY".toList) (t := ' ' :: s.toList) hc
    (forall_not_isBlank (by decide))
    (by simp; decide)
  have hn : s.toList ≠ [] := by simpa using h.ne
  have ht : trimLeft (' ' :: s.toList) = s.toList :=
    trimLeft_space.trans
      (trimLeft_eq_self (ends_of_trim_eq_self h.trimmed hn).1)
  obtain ⟨d, hd, hr⟩ := Cursor.scalar_plain (c := (c.moveTo (' ' :: s.toList)).skipBlanks)
    "overlay name" ((trimLeft_trimLeft _).trans ht) hn h.trimmed h.unquoted
  rw [readAddition, hw]
  simp only [show sameIgnoringCase "OVERLAY".toList "ATTRIBUTE".toList = false by decide,
    show sameIgnoringCase "OVERLAY".toList "CLASSIFICATION".toList = false by decide,
    show sameIgnoringCase "OVERLAY".toList "OVERLAY".toList = true by decide,
    Bool.false_eq_true, if_false, if_true, Outcome.bind_ok_iff]
  exact ⟨d.line, _, hd, (), Cursor.expectEnd_nil hr, rfl⟩

lemma readLine_statement {ch : Char} (hb : isBlank ch = false) (hs : ch ≠ '#') :
    readLine p ⟨n, ch :: cs⟩ = (do
      let q ← p.close
      let q ← match dropStem? ['-', '-'] (ch :: cs) with
        | some _ => readHeader q ⟨n, 1, ch :: cs⟩
        | none => readStatement q ⟨n, 1, ch :: cs⟩
      return { q with started := true }) := by
  have ht : trimLeft (ch :: cs) = ch :: cs := trimLeft_cons hb
  have hl : (ch :: cs).takeWhile isBlank = [] := by simp [hb]
  rw [readLine]
  simp only [ht, hl]
  split
  · contradiction
  · rename_i h
    exact absurd (List.cons.inj h).1 hs
  · rfl

lemma readLine_addition (hp : p.close = .ok q) (hr : ∀ ch, t.head? = some ch → isBlank ch = false) :
    ∃ c : Cursor, c.rest = t ∧ readLine p ⟨n, "ADD ".toList ++ t⟩ =
      (readAddition q c).map fun q => { q with started := true } := by
  have hw : (Cursor.mk n 1 ("ADD ".toList ++ t)).word = ("ADD".toList, _) :=
    Cursor.word_eq (t := ' ' :: t) rfl (forall_not_isBlank (by decide)) (by simp; decide)
  refine ⟨((Cursor.mk n 1 ("ADD ".toList ++ t)).moveTo (' ' :: t)).skipBlanks, ?_, ?_⟩
  · exact trimLeft_space.trans (trimLeft_eq_self hr)
  · have hs : readStatement q ⟨n, 1, "ADD ".toList ++ t⟩ =
        readAddition q ((Cursor.mk n 1 ("ADD ".toList ++ t)).moveTo (' ' :: t)).skipBlanks := by
      rw [readStatement, hw]
      rfl
    have hd : dropStem? ['-', '-'] ("ADD ".toList ++ t) = none := rfl
    refine (readLine_statement (by decide) (by decide)).trans ?_
    rw [hp]
    change (readStatement q ⟨n, 1, "ADD ".toList ++ t⟩ >>= fun q =>
      pure { q with started := true }) = _
    rw [hs]
    cases readAddition q _ <;> rfl

def Holds (p : Progress) (name : Option String) (actions : List Action) : Prop :=
  ∃ q, p.close = .ok q ∧ q.name = name ∧ q.overlay = none ∧
    q.commands.map (·.action.unnumbered) = actions

variable {name : Option String} {actions : List Action} {action : Action}

lemma isComment_addition : isComment ("ADD ".toList ++ t) = false := by
  have ht : trimLeft ("ADD ".toList ++ t) = "ADD ".toList ++ t := trimLeft_cons (by decide)
  rw [isComment, ht]
  rfl

lemma readFrom_addition (n : ℕ) (cs : List Char) (hp : p.close = .ok q) (hw : Whole ("ADD ".toList ++ t))
    (hr : ∀ ch, t.head? = some ch → isBlank ch = false) :
    ∃ c : Cursor, c.rest = t ∧ ∀ r, readAddition q c = .ok r →
      readFrom n p ("ADD ".toList ++ t ++ '\n' :: cs) =
        readFrom (n + 1) { r with started := true } cs := by
  obtain ⟨c, hc, hl⟩ := readLine_addition hp hr (n := n)
  refine ⟨c, hc, fun r h => ?_⟩
  rw [readFrom_line hw isComment_addition, hl, h]
  rfl

lemma Holds.closed (h : p.overlay = none) (hn : p.name = name)
    (ha : p.commands.map (·.action.unnumbered) = actions) : Holds p name actions :=
  ⟨p, by rw [Progress.close, h], hn, h, ha⟩

lemma actionChars_classification : actionChars (.classification s) =
    "ADD ".toList ++ ("CLASSIFICATION ".toList ++ quote s) ++ ['\n'] := rfl

lemma actionChars_attributes :
    actionChars (.attributes as) = "ADD ATTRIBUTE".toList ++ attributesChars as ++ ['\n'] := rfl

lemma actionChars_overlay {ps : List Property} : actionChars (.overlay s ps) =
    "ADD ".toList ++ ("OVERLAY ".toList ++ s.toList) ++ '\n' :: blockChars 1 ps := rfl

lemma WritableName.whole (h : WritableName s) : Whole s.toList := by
  obtain ⟨-, c, hc, hb⟩ := ends_of_trim_eq_self h.trimmed (by simpa using h.ne)
  exact ⟨h.noFeed, c, hc, hb, fun he => h.last (he ▸ hc)⟩

lemma readFrom_actionChars (h : Holds p name actions) (ha : Writable KeyReads action) (n : ℕ)
    (cs : List Char) :
    ∃ m q, Holds q name (actions ++ [action.pruned]) ∧
      readFrom n p (actionChars action ++ cs) = readFrom m q cs := by
  obtain ⟨p', hp, rfl, ho, rfl⟩ := h
  cases action with
  | classification s =>
    have hw : Whole ("ADD ".toList ++ ("CLASSIFICATION ".toList ++ quote s)) :=
      ((whole_quote s).append (by decide)).append (by decide)
    obtain ⟨c, hc, hr⟩ := readFrom_addition n cs hp hw (by simp; decide)
    obtain ⟨i, hi⟩ := readAddition_classification (p := p') hc
    rw [actionChars_classification, List.append_assoc, List.singleton_append, hr _ hi]
    refine ⟨_, _, ?_, rfl⟩
    exact .closed ho rfl (by simp [Progress.add, Action.pruned, Action.unnumbered])
  | attributes as =>
    obtain ⟨bs, a, rfl, hb, ha, ht⟩ := ha.exists_concat
    obtain ⟨c, hc, hr⟩ := readLine_addition (n := n)
      (t := "ATTRIBUTE".toList ++ (leadChars bs ++ attributeChars a)) hp (by simp; decide)
    have hl := readFrom_attributes n cs (p := p) (u := "ADD ATTRIBUTE".toList)
      (by decide) (fun w => isComment_addition (t := "ATTRIBUTE".toList ++ w)) hb ha ht
    have hs : readLine p ⟨n, "ADD ATTRIBUTE".toList ++ (leadChars bs ++ attributeChars a)⟩ = _ := hr
    rw [hs, readAddition_leadChars hb ha hc] at hl
    rw [actionChars_attributes, List.append_assoc, List.singleton_append, hl]
    refine ⟨_, _, ?_, rfl⟩
    exact .closed ho rfl (by simp [Progress.add, Action.pruned, Action.unnumbered])
  | overlay s ps =>
    have hw : Whole ("ADD ".toList ++ ("OVERLAY ".toList ++ s.toList)) :=
      (ha.1.whole.append (by decide)).append (by decide)
    obtain ⟨c, hc, hr⟩ := readFrom_addition n (blockChars 1 ps ++ cs) hp hw (by simp; decide)
    obtain ⟨i, hi⟩ := readAddition_overlay (p := p') ha.1 hc
    obtain ⟨m, ls, hls, hb⟩ := readFrom_blockChars (p := { p' with started := true }) (d := 1)
      ha.2 (by decide) (n + 1) cs ⟨i, s, []⟩
    obtain ⟨qs, hqs, hu⟩ := properties_of_laid hls
    rw [actionChars_overlay, List.append_assoc, List.cons_append, hr _ hi]
    refine ⟨m, _, ?_, hb⟩
    refine ⟨{ p'.add i (.overlay s qs) with overlay := none, started := true }, ?_, rfl, rfl, ?_⟩
    · simp only [Progress.close, List.nil_append, hqs]
      rfl
    · simp [Progress.add, Action.pruned, Action.unnumbered, hu]

lemma readFrom_commandsChars_cons (h : Holds p name actions) {c : Command}
    (hc : Writable KeyReads c.action) (commands : List Command) (n : ℕ) :
    ∃ m q, Holds q name (actions ++ [c.action.pruned]) ∧
      readFrom n p (commandsChars (c :: commands)) = readFrom m q (commandsChars commands) := by
  cases commands with
  | nil =>
    obtain ⟨m, q, hq, hr⟩ := readFrom_actionChars h hc n []
    rw [List.append_nil] at hr
    exact ⟨m, q, hq, hr⟩
  | cons d ds =>
    obtain ⟨m, q, hq, hr⟩ := readFrom_actionChars h hc n ('\n' :: commandsChars (d :: ds))
    exact ⟨m + 1, q, hq, hr.trans readFrom_empty⟩

lemma readFrom_commandsChars_append {pre : List Command} (h : Holds p name actions)
    (hc : ∀ c ∈ pre, Writable KeyReads c.action) (commands : List Command) (n : ℕ) :
    ∃ m q, Holds q name (actions ++ pre.map (·.action.pruned)) ∧
      readFrom n p (commandsChars (pre ++ commands)) = readFrom m q (commandsChars commands) := by
  induction pre generalizing p actions n with
  | nil => exact ⟨n, p, by simpa using h, rfl⟩
  | cons c cs ih =>
    obtain ⟨m, q, hq, hr⟩ := readFrom_commandsChars_cons h (hc c List.mem_cons_self) (cs ++ commands) n
    obtain ⟨k, r, hr', hs⟩ := ih hq (fun d hd => hc d (List.mem_cons_of_mem c hd)) m
    exact ⟨k, r, by simpa using hr', hr.trans hs⟩

lemma writableName_of_isPlainName (h : isPlainName s.toList = true) : WritableName s := by
  cases hs : s.toList with
  | nil => simp [hs, isPlainName] at h
  | cons c cs =>
    simp only [hs, isPlainName, Bool.and_eq_true, beq_iff_eq, bne_iff_ne, Bool.not_eq_true',
      List.any_eq_false] at h
    obtain ⟨⟨⟨ht, hq⟩, hl⟩, hc⟩ := h
    refine ⟨?_, by rw [hs, ht], fun hn => ?_, by simpa [hs] using hq, by rwa [hs]⟩
    · rintro rfl
      simp at hs
    · exact hc _ (hs ▸ hn) (by decide)

lemma whole_nameChars : Whole (nameChars s) := by
  rw [nameChars]
  split
  · rename_i h
    exact (writableName_of_isPlainName h).whole
  · exact whole_quote s

lemma scalar_nameChars (what : String) (hc : c.rest = nameChars s) :
    Cursor.Reads (c.scalar what) s [] := by
  rw [nameChars] at hc
  split at hc
  · rename_i h
    have hs := writableName_of_isPlainName h
    have hn : s.toList ≠ [] := by simpa using hs.ne
    refine Cursor.scalar_plain what ?_ hn hs.trimmed hs.unquoted
    rw [hc, trimLeft_eq_self (ends_of_trim_eq_self hs.trimmed hn).1]
  · refine Cursor.scalar_quote what ?_
    rw [hc, List.append_nil]
    exact trimLeft_cons (c := '"') (by decide)

lemma readHeader_nameChars (hn : p.name = none) (hs : p.started = false)
    (hc : c.rest = "--name".toList ++ '=' :: nameChars s) :
    readHeader p c = .ok { p with name := some s } := by
  have hw : c.name = ("--name".toList, c.moveTo ('=' :: nameChars s)) :=
    Cursor.takeWhile_eq hc (List.all_eq_true.mp (by decide)) (by simp)
  obtain ⟨d, hd, hr⟩ := scalar_nameChars (c := (c.moveTo ('=' :: nameChars s)).moveTo (nameChars s))
    "schema name" rfl
  rw [readHeader, hw]
  simp only [show sameIgnoringCase "--name".toList "--name".toList = true by decide,
    Cursor.moveTo_rest, hn, hs, Option.isSome_none, Bool.false_eq_true, if_false,
    Outcome.bind_ok_iff]
  exact ⟨_, hd, (), Cursor.expectEnd_nil hr, rfl⟩

lemma readFrom_header : readFrom n {} ("--name=".toList ++ nameChars s ++ '\n' :: cs) =
    readFrom (n + 1) { name := some s, started := true } cs := by
  have hk : isComment ("--name=".toList ++ nameChars s) = false := by
    have ht : trimLeft ("--name=".toList ++ nameChars s) = "--name=".toList ++ nameChars s :=
      trimLeft_cons (by decide)
    rw [isComment, ht]
    rfl
  have hl : readLine {} ⟨n, "--name=".toList ++ nameChars s⟩ =
      .ok { name := some s, started := true } := by
    refine (readLine_statement (by decide) (by decide)).trans ?_
    have hh := readHeader_nameChars (p := {}) (s := s) (c := ⟨n, 1, "--name=".toList ++ nameChars s⟩)
      rfl rfl rfl
    exact Outcome.bind_ok_iff.mpr ⟨{}, rfl, Outcome.bind_ok_iff.mpr ⟨_, hh, rfl⟩⟩
  rw [readFrom_line (whole_nameChars.append (by decide)) hk, hl]
  rfl

lemma readFrom_chars (name : Option String) {pre : List Command} (commands : List Command)
    (hc : ∀ c ∈ pre, Writable KeyReads c.action) :
    ∃ m q, Holds q name (pre.map (·.action.pruned)) ∧
      readFrom 1 {} (chars ⟨name, pre ++ commands⟩) = readFrom m q (commandsChars commands) := by
  cases name with
  | none => exact readFrom_commandsChars_append (p := {}) (.closed rfl rfl rfl) hc commands 1
  | some s =>
    have hp : Holds { name := some s, started := true } (some s) [] := .closed rfl rfl rfl
    obtain ⟨m, q, hq, hr⟩ := readFrom_commandsChars_append hp hc commands 3
    refine ⟨m, q, hq, Eq.trans ?_ hr⟩
    cases pre ++ commands with
    | nil => exact readFrom_header
    | cons c cs => exact readFrom_header.trans readFrom_empty

lemma parse_text_ok_iff {f g : Ocafile} : parse f.text = .ok g ↔
    ∃ p q, readFrom 1 {} f.chars = .ok p ∧ p.close = .ok q ∧ g = ⟨q.name, q.commands⟩ := by
  rw [parse, text, String.toList_ofList, parseChars]
  simp only [Outcome.bind_ok_iff, Outcome.pure_ok_iff]
  constructor
  · rintro ⟨p, hp, q, hq, rfl⟩
    exact ⟨p, q, hp, hq, rfl⟩
  · rintro ⟨p, q, hp, hq, rfl⟩
    exact ⟨p, hp, q, hq, rfl⟩

lemma parse_text_pruned {f : Ocafile} (h : ∀ c ∈ f.commands, Writable KeyReads c.action) :
    ∃ g, parse f.text = .ok g ∧ g.name = f.name ∧
      g.actions = f.commands.map (·.action.pruned) := by
  obtain ⟨m, p, ⟨q, hq, hn, -, ha⟩, hr⟩ := readFrom_chars f.name [] h
  rw [List.append_nil] at hr
  exact ⟨⟨q.name, q.commands⟩, parse_text_ok_iff.mpr ⟨p, q, hr.trans readFrom_nil, hq, rfl⟩, hn, ha⟩

lemma keyReads_of_isWritable {k : String} {v : PropertyValue} (h : Property.IsWritable k v) :
    KeyReads k v :=
  ⟨h.key_ne, fun hv hk => h.last hv hk.2⟩

/-- Parsing undoes printing, on every file whose names, types and keys can be written. -/
theorem parse_text_of_writable {f : Ocafile} (h : ∀ c ∈ f.commands, Writable Property.IsWritable c.action) :
    ∃ g, parse f.text = .ok g ∧ g.name = f.name ∧ g.actions = f.actions := by
  have hk : ∀ c ∈ f.commands, Writable KeyReads c.action ∧ c.action.pruned = c.action.unnumbered := by
    intro c hc
    have hw := h c hc
    cases ha : c.action with
    | classification s => exact ⟨trivial, rfl⟩
    | attributes as => exact ⟨by rwa [ha] at hw, rfl⟩
    | overlay s ps =>
      rw [ha] at hw
      refine ⟨⟨hw.1, hw.2.mono fun _ _ => keyReads_of_isWritable⟩, ?_⟩
      exact congrArg (Action.overlay s) (Property.prunedList_of_isWritable hw.2)
  obtain ⟨g, hg, hn, ha⟩ := parse_text_pruned fun c hc => (hk c hc).1
  exact ⟨g, hg, hn, ha.trans (List.map_congr_left fun c hc => (hk c hc).2)⟩

def markedFile : Ocafile :=
  ⟨some "a \"b\"\n\\",
    [⟨7, .classification "\"x\ty\\"⟩,
      ⟨2, .attributes [("#a", .array (.reference (.name "x\\"))), ("b\"\\", .reference (.name "=#"))]⟩,
      ⟨3, .overlay "Label \"#\\\" x"
        [.mk 0 "language" (.text "\n\r\\"),
          .mk 9 " a = b " (.block
            [.mk 1 "\"\n" .bare, .mk 2 "#\\" (.list ["]", ",\"", "\\", ""]),
              .mk 5 "#" (.block [.mk 0 "\t" (.text "]")])])]⟩,
      ⟨0, .overlay "Empty" []⟩]⟩

theorem parse_text_marked :
    (∀ c ∈ markedFile.commands, Writable Property.IsWritable c.action) ∧
      ∃ g, parse markedFile.text = .ok g ∧ g.name = markedFile.name ∧
        g.actions = markedFile.actions := by
  have ha : WritableAttribute ("#a", .array (.reference (.name "x\\"))) :=
    ⟨by decide, by simp; decide, forall_not_isBlank (by decide), by decide +kernel⟩
  have hb : WritableAttribute ("b\"\\", .reference (.name "=#")) :=
    ⟨by decide, by simp; decide, forall_not_isBlank (by decide), by decide +kernel⟩
  have h : ∀ c ∈ markedFile.commands, Writable Property.IsWritable c.action := by
    simp only [markedFile, List.forall_mem_cons, Writable, List.not_mem_nil, false_implies,
      implies_true, and_true, true_and]
    refine ⟨⟨by simp, by simpa using ⟨ha, hb⟩, by simp; decide⟩, ⟨by constructor <;> decide, ?_⟩,
      ⟨by constructor <;> decide, .nil⟩⟩
    refine .cons ⟨by decide, by simp [PropertyValue.onLine], by simp⟩ .nil (.cons ?_ ?_ .nil)
    · exact ⟨by decide, by simp, by simp⟩
    refine .cons ⟨by decide, by simp, by simp⟩ .nil (.cons ⟨by decide, ?_, by simp⟩ .nil (.cons ?_ ?_ .nil))
    · simp [PropertyValue.onLine]
    · exact ⟨by decide, by simp, by simp⟩
    · exact .cons ⟨by decide, by simp, by simp⟩ .nil .nil
  exact ⟨h, parse_text_of_writable h⟩

end Ocafile

end LayeredSchema

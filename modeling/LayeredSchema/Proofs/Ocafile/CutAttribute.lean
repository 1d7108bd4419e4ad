import LayeredSchema.Proofs.Ocafile.Reading

/-!
Attributes on a line that ends in a backslash of their own: the line is read together with the next
one and without the backslash.
-/

namespace LayeredSchema.Ocafile

open Text

variable {n : ℕ} {p q r : Progress} {c : Cursor} {t u w cs : List Char}
variable {as bs : List (String × AttributeType)} {a : String × AttributeType}

lemma joinLines_attributes (hp : '\n' ∉ u) (hc : ∀ w, isComment (u ++ w) = false)
    (h : ∀ b ∈ bs, WritableAttribute b) (ha : WritableAttribute a)
    (hw : a.2.text.toList = w ++ ['\\']) :
    joinLines n none (lines (u ++ attributesChars (bs ++ [a]) ++ '\n' :: cs)) =
      joinLines (n + bs.length + 1)
        (some ⟨n, u ++ (leadChars bs ++ ' ' :: (a.1.toList ++ '=' :: w))⟩) (lines cs) := by
  have hx : attributeChars a = ' ' :: (a.1.toList ++ '=' :: w) ++ ['\\'] := by
    simp [attributeChars, hw]
  have hb : ∀ ch ∈ a.1.toList ++ '=' :: w, isBlank ch = false := fun ch hch =>
    ha.body ch (by simpa [bodyChars, hw, or_assoc] using Or.inl (List.mem_append.mp hch))
  have hf : '\n' ∉ ' ' :: (a.1.toList ++ '=' :: w) := by
    rw [List.mem_cons, not_or]
    exact ⟨by decide, fun hn => absurd (hb _ hn) (by decide)⟩
  by_cases hn : bs = []
  · subst hn
    have hs : u ++ attributesChars ([] ++ [a]) ++ '\n' :: cs =
        (u ++ ' ' :: (a.1.toList ++ '=' :: w)) ++ '\\' :: '\n' :: cs := by
      simp [attributesChars, hx]
    have hk : isComment (u ++ ' ' :: (a.1.toList ++ '=' :: w) ++ ['\\']) = false := by
      simpa using hc (' ' :: (a.1.toList ++ '=' :: w) ++ ['\\'])
    rw [hs, lines_continued (fun hm => (List.mem_append.mp hm).elim hp hf), joinLines, hk, continued?_concat]
    rfl
  · have hs : "   ".toList ++ attributeChars a ++ '\n' :: cs =
        ("    ".toList ++ (a.1.toList ++ '=' :: w)) ++ '\\' :: '\n' :: cs := by
      simp [hx]
    have ht : trim ("    ".toList ++ (a.1.toList ++ '=' :: w)) = a.1.toList ++ '=' :: w := by
      simpa using trim_padded (u := "    ".toList) (w := []) (forall_isBlank (by decide)) (by simp) hb
    rw [joinLines_lead h hn hp hc, hs, lines_continued (by simpa using hf), joinLines,
      continued?_concat]
    simp only [LogicalLine.append, ht]
    simp

lemma exists_readLine_of_pending {l : LogicalLine} (hcs : cs = [] ∨ ∃ ds, cs = '\n' :: ds)
    (h : (joinLines n (some l) (lines cs)).foldlM readLine p = .ok r) :
    ∃ t q, (∀ ch ∈ t, isBlank ch = true) ∧ readLine p { l with text := l.text ++ t } = .ok q ∧
      q.commands ⊆ r.commands := by
  rcases hcs with rfl | ⟨ds, rfl⟩
  · obtain ⟨q, hq, hr⟩ := Outcome.bind_ok_iff.mp h
    exact ⟨[], q, by simp, by simpa using hq, commands_of_run hr⟩
  · have hj : joinLines n (some l) (lines ('\n' :: ds)) =
        { l with text := l.text ++ [' '] } :: joinLines (n + 1) none (lines ds) := by
      rw [lines]
      rfl
    rw [hj] at h
    obtain ⟨q, hq, hr⟩ := Outcome.bind_ok_iff.mp h
    exact ⟨[' '], q, forall_isBlank (by decide), hq, commands_of_run hr⟩

lemma readAttributes_cut (h : ∀ b ∈ bs, WritableAttribute b) (ha : WritableAttribute a)
    (hw : a.2.text.toList = w ++ ['\\']) (ht : ∀ ch ∈ t, isBlank ch = true)
    (hc : trimLeft c.rest = trimLeft (leadChars bs ++ ' ' :: (a.1.toList ++ '=' :: (w ++ t))))
    (hr : readAttributes c = .ok as) : ∃ type, (a.1, type) ∈ as ∧ type ≠ a.2 := by
  have hcw : ∀ ch ∈ w, isBlank ch = false := fun ch hch => ha.text ch (by simp [hw, hch])
  have hh : ∀ ch, t.head? = some ch → isBlank ch = true := fun ch hch =>
    ht ch (List.mem_of_head? hch)
  obtain ⟨d, hd, hi⟩ := readAttributes_leadChars h (by simp; decide) hc
  obtain ⟨cs, hcs, rfl⟩ := (hi as).mp hr
  have hl : trimLeft (' ' :: (a.1.toList ++ '=' :: (w ++ t))) = a.1.toList ++ '=' :: (w ++ t) := by
    refine trimLeft_space.trans (trimLeft_eq_self fun ch hch => ?_)
    change (a.1.toList ++ _).head? = some ch at hch
    rw [List.head?_append_of_ne_nil _ (by simpa using ha.name_ne)] at hch
    exact (ha.name ch (List.mem_of_head? hch)).1
  have hs : d.skipBlanks.rest = a.1.toList ++ '=' :: (w ++ t) := hd.trans hl
  obtain ⟨e, -, he⟩ := readAttribute_ok_iff (by simpa using ha.name_ne) ha.name hcw hh hs
  obtain ⟨b, e', cs', hb, -, rfl⟩ := (readAttributes_ok_iff (by rw [hd, hl]; simp)).mp hcs
  obtain ⟨type, hp, hbe⟩ := (he _).mp hb
  obtain ⟨rfl, -⟩ := Prod.mk.inj hbe
  refine ⟨type, by simp, ?_⟩
  rintro rfl
  -- a name is never longer than the text it is read from, and this text has lost a character
  obtain ⟨m, hm⟩ := AttributeType.eq_name_of_last (t := a.2) (by simp [hw])
  rw [hm] at hp hw
  have := AttributeType.length_le_of_parseChars_name hp
  rw [hw, List.length_append, List.length_singleton] at this
  omega

lemma exists_commandsChars_cons (d : Command) (commands : List Command) :
    ∃ t, (t = [] ∨ ∃ ds, t = '\n' :: ds) ∧
      commandsChars (d :: commands) = actionChars d.action ++ t := by
  cases commands with
  | nil => exact ⟨[], Or.inl rfl, (List.append_nil _).symm⟩
  | cons e es => exact ⟨_, Or.inr ⟨_, rfl⟩, rfl⟩

lemma attributes_of_readFrom (hp : p.close = .ok q) (h : ∀ b ∈ bs, WritableAttribute b)
    (ha : WritableAttribute a) (hl : a.2.text.toList.getLast? = some '\\') {i : ℕ}
    {commands : List Command}
    (hr : readFrom n p (commandsChars (⟨i, .attributes (bs ++ [a])⟩ :: commands)) = .ok r) :
    ∃ d ∈ r.commands, ∃ as type, d.action = .attributes as ∧ (a.1, type) ∈ as ∧ type ≠ a.2 := by
  obtain ⟨w, hw⟩ := List.getLast?_eq_some_iff.mp hl
  obtain ⟨cs, hcs, he⟩ := exists_commandsChars_cons ⟨i, .attributes (bs ++ [a])⟩ commands
  rw [he, actionChars_attributes, List.append_assoc, List.singleton_append, readFrom,
    joinLines_attributes (by decide) (fun w => isComment_addition (t := "ATTRIBUTE".toList ++ w)) h
      ha hw] at hr
  obtain ⟨t, s, ht, hs, hc⟩ := exists_readLine_of_pending hcs hr
  obtain ⟨c, hcr, hl⟩ := readLine_addition (n := n)
    (t := "ATTRIBUTE".toList ++ (leadChars bs ++ ' ' :: (a.1.toList ++ '=' :: w) ++ t)) hp
    (by simp; decide)
  have hs : readLine p ⟨n, "ADD ".toList ++
      ("ATTRIBUTE".toList ++ (leadChars bs ++ ' ' :: (a.1.toList ++ '=' :: w) ++ t))⟩ = .ok s := by
    simpa using hs
  obtain ⟨s', hs', rfl⟩ := Outcome.map_ok_iff.mp (hl ▸ hs)
  have hb : ∀ ch, (leadChars bs ++ (' ' :: (a.1.toList ++ '=' :: w) ++ t)).head? = some ch →
      isBlank ch = true := head_leadChars (by simp; decide)
  rw [List.append_assoc] at hcr
  obtain ⟨d, hd, hi⟩ := readAddition_attributes (p := q) hb hcr
  obtain ⟨as, has, -, rfl⟩ := (hi s').mp hs'
  obtain ⟨type, hm, hn⟩ := readAttributes_cut h ha hw ht (by simpa using hd) has
  exact ⟨_, hc (List.mem_append_right _ (List.mem_singleton_self _)), as, type, rfl, hm, hn⟩

end LayeredSchema.Ocafile

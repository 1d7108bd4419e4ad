import LayeredSchema.Proofs.Ocafile.Indentation

/-!
The layout of a text: comments and blank lines between logical lines say nothing, and indentations
may be of any widths in the same order.
-/

namespace LayeredSchema.Ocafile

open Text

def reindent (f : ℕ → ℕ) (line : List Char) : List Char :=
  List.replicate (f (line.takeWhile (· == ' ')).length) ' ' ++ line.dropWhile (· == ' ')

def continues (c : Bool) (line : List Char) : Bool :=
  (c || !isComment line) && (continued? line).isSome

/-- Lines that are laid out anew: where no line is to be continued, there may be comments and blank
lines more. -/
inductive Relaid (f : ℕ → ℕ) : Bool → List (List Char) → List (List Char) → Prop
  | nil {c : Bool} : Relaid f c [] []
  | insert {l : List Char} {ls ms : List (List Char)} (h : isAllBlank l = true ∨ isComment l = true)
      (hs : Relaid f false ls ms) : Relaid f false ls (l :: ms)
  | line {c : Bool} {l : List Char} {ls ms : List (List Char)}
      (hs : Relaid f (continues c l) ls ms) : Relaid f c (l :: ls) (reindent f l :: ms)

def openingLines : Bool → List (List Char) → List (List Char)
  | _, [] => []
  | c, l :: ls =>
    if c || isComment l then openingLines (continues c l) ls
    else l :: openingLines (continues c l) ls

lemma trimLeft_append_eq {cs : List Char} (h : trimLeft cs = cs) (hn : cs ≠ []) (u : List Char) :
    trimLeft (cs ++ u) = cs ++ u := by
  rw [trimLeft_append_of_ne (h.symm ▸ hn), h]

section Indented

variable {cs part : List Char} (n : ℕ)

lemma trim_indented : trim (List.replicate n ' ' ++ cs) = trim cs := by
  rw [trim, trim, trimLeft_append fun _ hc => List.eq_of_mem_replicate hc ▸ rfl]

lemma isComment_indented (h : trimLeft cs = cs) :
    isComment (List.replicate n ' ' ++ cs) = isComment cs := by
  rw [isComment, isComment, trimLeft_indented n h, h]

lemma continued?_indented (h : trimLeft cs = cs) :
    continued? (List.replicate n ' ' ++ cs) = (continued? cs).map (List.replicate n ' ' ++ ·) := by
  cases cs with
  | nil =>
    rw [List.append_nil, continued?, trimRight_eq_nil fun _ hc => List.eq_of_mem_replicate hc ▸ rfl]
    rfl
  | cons c cs =>
    have hn : trimRight (c :: cs) ≠ [] := by
      have hc := head_not_isBlank h c rfl
      rw [trimRight]
      split <;> simp [hc]
    rw [continued?, continued?, trimRight_append_of_ne hn, dropLastChar?_append hn]

lemma continues_indented (c : Bool) (h : trimLeft cs = cs) :
    continues c (List.replicate n ' ' ++ cs) = continues c cs := by
  rw [continues, continues, isComment_indented n h, continued?_indented n h, Option.isSome_map]

lemma trimLeft_of_continued? (h : trimLeft cs = cs) (hp : continued? cs = some part) :
    trimLeft part = part := by
  have hc : part ++ ['\\'] <+: cs := eq_concat_of_dropLastChar? hp ▸ trimRight_isPrefix cs
  obtain ⟨u, rfl⟩ := hc
  refine trimLeft_eq_self fun c hc => head_not_isBlank h c ?_
  rw [List.append_assoc, List.head?_append, hc, Option.some_or]

lemma reindent_indented (f : ℕ → ℕ) (h : trimLeft cs = cs) :
    reindent f (List.replicate n ' ' ++ cs) = List.replicate (f n) ' ' ++ cs := by
  have hs : ∀ c ∈ List.replicate n ' ', (c == ' ') = true := by simp
  have hc : ∀ c, cs.head? = some c → (c == ' ') = false := by
    intro c hc
    have hb := head_not_isBlank h c hc
    rw [beq_eq_false_iff_ne]
    rintro rfl
    exact absurd hb (by decide)
  rw [reindent, takeWhile_append hs hc, dropWhile_append hs hc, List.length_replicate]

end Indented

lemma exists_indented {l : List Char} (h : ∀ ch ∈ l.takeWhile isBlank, ch = ' ') :
    ∃ n cs, trimLeft cs = cs ∧ l = List.replicate n ' ' ++ cs := by
  refine ⟨(l.takeWhile isBlank).length, trimLeft l, trimLeft_trimLeft l, ?_⟩
  rw [← List.eq_replicate_iff.mpr ⟨rfl, h⟩]
  exact List.takeWhile_append_dropWhile.symm

def takeLine (i : ℕ) (k : Option LogicalLine) (l : List Char) :
    List LogicalLine × Option LogicalLine :=
  match k with
  | none =>
    if isComment l then ([], none)
    else
      match continued? l with
      | some start => ([], some ⟨i, start⟩)
      | none => ([⟨i, l⟩], none)
  | some k =>
    match continued? l with
    | some part => ([], some (k.append part))
    | none => ([k.append l], none)

lemma joinLines_cons (i : ℕ) (k : Option LogicalLine) (l : List Char) (ls : List (List Char)) :
    joinLines i k (l :: ls) = (takeLine i k l).1 ++ joinLines (i + 1) (takeLine i k l).2 ls := by
  cases k with
  | none =>
    rw [joinLines, takeLine]
    split
    · rfl
    · cases continued? l <;> rfl
  | some k =>
    rw [joinLines, takeLine]
    cases continued? l <;> rfl

lemma isSome_takeLine (i : ℕ) (k : Option LogicalLine) (l : List Char) :
    (takeLine i k l).2.isSome = continues k.isSome l := by
  cases k with
  | none =>
    rw [takeLine, continues]
    split
    · simp [*]
    · cases continued? l <;> simp [*]
  | some k =>
    rw [takeLine, continues]
    cases continued? l <;> simp

lemma takeLine_inserted (i : ℕ) {l : List Char} (h : isAllBlank l = true ∨ isComment l = true) :
    (takeLine i none l).2 = none ∧ ∀ k ∈ (takeLine i none l).1, isAllBlank k.text = true := by
  by_cases hc : isComment l = true
  · simp [takeLine, hc]
  · have hb := h.resolve_right hc
    have hn : continued? l = none := by
      rw [continued?, trimRight_eq_nil (forall_isBlank hb)]
      rfl
    simp [takeLine, hc, hn, hb]

inductive Pending (f : ℕ → ℕ) : Bool → Option LogicalLine → Option LogicalLine → Prop
  | none : Pending f false none none
  | some (i j n : ℕ) {cs : List Char} (h : trimLeft cs = cs) (hn : cs ≠ []) :
    Pending f true (some ⟨i, List.replicate n ' ' ++ cs⟩)
      (some ⟨j, List.replicate (f n) ' ' ++ cs⟩)

lemma append_indented (i n : ℕ) (cs more : List Char) :
    LogicalLine.append ⟨i, List.replicate n ' ' ++ cs⟩ more =
      ⟨i, List.replicate n ' ' ++ (cs ++ ' ' :: trim more)⟩ := by
  rw [LogicalLine.append, List.append_assoc]

variable {f : ℕ → ℕ} {c : Bool} {l : List Char} {ls ms : List (List Char)} {p q : Progress}
  {k k' : Option LogicalLine}

lemma takeLine_reindent (hs : ∀ ch ∈ l.takeWhile isBlank, ch = ' ')
    (ho : c = false → isComment l = false → trim l ≠ ['\\']) (hk : Pending f c k k') (i j : ℕ) :
    List.Forall₂ (Reindented f) (takeLine i k l).1 (takeLine j k' (reindent f l)).1 ∧
      Pending f (continues c l) (takeLine i k l).2 (takeLine j k' (reindent f l)).2 := by
  obtain ⟨n, cs, hcs, rfl⟩ := exists_indented hs
  have hc {m : ℕ} := isComment_indented m hcs
  have hd {m : ℕ} := continued?_indented m hcs
  have ht {m : ℕ} : trim (List.replicate m ' ' ++ cs) = trim cs := trim_indented m
  rw [reindent_indented n f hcs, continues_indented n c hcs]
  rw [hc, ht] at ho
  cases hk with
  | none =>
    simp only [takeLine, continues, hc, hd]
    by_cases hm : isComment cs = true
    · simp only [hm, if_true]
      exact ⟨.nil, .none⟩
    · simp only [hm]
      cases hp : continued? cs with
      | none => exact ⟨.cons (.mk i j n hcs) .nil, .none⟩
      | some part =>
        refine ⟨.nil, .some i j n (trimLeft_of_continued? hcs hp) ?_⟩
        -- with nothing before the backslash, the spaces before what follows would count
        rintro rfl
        refine ho rfl (by simpa using hm) ?_
        rw [trim, hcs]
        exact eq_concat_of_dropLastChar? hp
  | some i' j' n' h' hn' =>
    have ha (more : List Char) := trimLeft_append_eq h' hn' (' ' :: trim more)
    simp only [takeLine, continues, hd]
    cases hp : continued? cs with
    | none =>
      simp only [Option.map_none, append_indented, ht]
      exact ⟨.cons (.mk i' j' n' (ha cs)) .nil, .none⟩
    | some part =>
      simp only [Option.map_some, append_indented, trim_indented]
      exact ⟨.nil, .some i' j' n' (ha part) (List.append_ne_nil_of_left_ne_nil hn' _)⟩

lemma readLine_blank {k : LogicalLine} (h : isAllBlank k.text = true) : readLine p k = .ok p := by
  have ht : trimLeft k.text = [] := trimLeft_eq_nil (forall_isBlank h)
  simp only [readLine, ht]
  rfl

lemma foldlM_blank {ks : List LogicalLine} (h : ∀ k ∈ ks, isAllBlank k.text = true) :
    ks.foldlM readLine p = .ok p := by
  induction ks with
  | nil => rfl
  | cons k ks ih =>
    obtain ⟨hk, hs⟩ := List.forall_mem_cons.mp h
    rw [List.foldlM_cons, readLine_blank hk]
    exact ih hs

section Lines

variable (hf : StrictMono f) (h0 : f 0 = 0)
include hf h0

lemma foldlM_agree {ks ks' : List LogicalLine} (h : List.Forall₂ (Reindented f) ks ks')
    (hp : p.Scaled f q) :
    Agree (Progress.Scaled f) (ks.foldlM readLine p) (ks'.foldlM readLine q) := by
  induction h generalizing p q with
  | nil => exact .ok hp
  | cons hk _ ih =>
    rw [List.foldlM_cons, List.foldlM_cons]
    exact (readLine_agree hf h0 hp hk).bind fun _ _ hp => ih hp

lemma readLines_agree (h : Relaid f c ls ms)
    (hs : ∀ l ∈ ls, ∀ ch ∈ l.takeWhile isBlank, ch = ' ')
    (ho : ∀ l ∈ openingLines c ls, trim l ≠ ['\\']) (hk : Pending f c k k')
    (hp : p.Scaled f q) (i j : ℕ) :
    Agree (Progress.Scaled f) ((joinLines i k ls).foldlM readLine p)
      ((joinLines j k' ms).foldlM readLine q) := by
  -- on the lines of the new text, what is pending and what was read being related throughout
  induction h generalizing k k' p q i j with
  | nil =>
    cases hk with
    | none => exact .ok hp
    | some i j n h _ => exact foldlM_agree hf h0 (.cons (.mk i j n h) .nil) hp
  | @insert l ls ms hl _ ih =>
    cases hk
    obtain ⟨hn, hb⟩ := takeLine_inserted j hl
    rw [joinLines_cons, List.foldlM_append, foldlM_blank hb, hn]
    exact ih hs ho .none hp i (j + 1)
  | @line c l ls ms _ ih =>
    obtain ⟨hl, hs⟩ := List.forall_mem_cons.mp hs
    rw [openingLines] at ho
    have hol : c = false → isComment l = false → trim l ≠ ['\\'] := fun hc hm =>
      ho l (by simp [hc, hm])
    have hos : ∀ m ∈ openingLines (continues c l) ls, trim m ≠ ['\\'] := by
      intro m hm
      refine ho m ?_
      split
      · exact hm
      · exact List.mem_cons_of_mem l hm
    obtain ⟨hks, hk⟩ := takeLine_reindent hl hol hk i j
    rw [joinLines_cons, joinLines_cons, List.foldlM_append, List.foldlM_append]
    exact (foldlM_agree hf h0 hks hp).bind fun _ _ hp => ih hs hos hk hp _ _

end Lines

lemma exists_number_eq (i : ℕ) (k : LogicalLine) (ls : List (List Char)) :
    ∃ x ∈ joinLines i (some k) ls, x.number = k.number := by
  induction ls generalizing i k with
  | nil => exact ⟨k, List.mem_singleton_self k, rfl⟩
  | cons l ls ih =>
    rw [joinLines]
    split
    · exact ih (i + 1) (k.append _)
    · exact ⟨_, List.mem_cons_self, rfl⟩

lemma exists_number_eq_of_opening (i : ℕ) (ls : List (List Char)) (h : isComment l = false) :
    ∃ x ∈ joinLines i none (l :: ls), x.number = i := by
  simp only [joinLines, h, Bool.false_eq_true, if_false]
  split
  · exact exists_number_eq (i + 1) ⟨i, _⟩ ls
  · exact ⟨_, List.mem_cons_self, rfl⟩

lemma exists_starting {k : Option LogicalLine} (h : l ∈ openingLines k.isSome ls) (i : ℕ) :
    ∃ x ∈ joinLines i k ls, ∃ n, x.number = i + n ∧ ls[n]? = some l := by
  induction ls generalizing k i with
  | nil => contradiction
  | cons a ls ih =>
    have hl : l ∈ openingLines (continues k.isSome a) ls →
        ∃ x ∈ joinLines i k (a :: ls), ∃ n, x.number = i + n ∧ (a :: ls)[n]? = some l := by
      intro h
      obtain ⟨x, hx, n, hn, hl⟩ := ih (isSome_takeLine i k a ▸ h) (i + 1)
      rw [joinLines_cons]
      exact ⟨x, List.mem_append_right _ hx, n + 1, by omega, hl⟩
    rw [openingLines] at h
    split at h
    · exact hl h
    · rename_i hc
      rw [Bool.or_eq_true, not_or, Bool.not_eq_true, Bool.not_eq_true] at hc
      rcases List.mem_cons.mp h with rfl | h
      · obtain rfl : k = none := by simpa using hc.1
        obtain ⟨x, hx, hn⟩ := exists_number_eq_of_opening i ls hc.2
        exact ⟨x, hx, 0, hn, rfl⟩
      · exact hl h

/-- Layout does not matter: a text that is laid out anew says the same, or fails for the same
cause. -/
theorem parse_relaid (hf : StrictMono f) (h0 : f 0 = 0) {t t' : String}
    (hs : ∀ l ∈ lines t.toList, ∀ ch ∈ l.takeWhile isBlank, ch = ' ')
    (ho : ∀ k ∈ logicalLines t.toList, ∀ l, (lines t.toList)[k.number - 1]? = some l →
      trim l ≠ ['\\'])
    (h : Relaid f false (lines t.toList) (lines t'.toList)) :
    (∃ a b, parse t = .ok a ∧ parse t' = .ok b ∧ a.name = b.name ∧ a.actions = b.actions) ∨
      ∃ e e', parse t = .error e ∧ parse t' = .error e' ∧ e.cause = e'.cause := by
  have ho : ∀ l ∈ openingLines false (lines t.toList), trim l ≠ ['\\'] := by
    intro l hl
    obtain ⟨k, hk, n, hn, hl⟩ := exists_starting (k := none) hl 1
    refine ho k hk l ?_
    rwa [hn, Nat.add_sub_cancel_left]
  have hp : Progress.Scaled f {} {} := ⟨rfl, rfl, .none, rfl⟩
  have ha : Agree (fun a b : Ocafile => a.name = b.name ∧ a.actions = b.actions) (parse t)
      (parse t') := by
    refine (readLines_agree hf h0 h hs ho .none hp 1 1).bind fun p q hp => ?_
    refine (close_agree hp hf).bind fun p q hp => .ok ⟨hp.name, hp.actions⟩
  generalize parse t = x at ha
  generalize parse t' = y at ha
  cases ha with
  | @ok a b h => exact .inl ⟨a, b, rfl, rfl, h⟩
  | @error e e' h => exact .inr ⟨e, e', rfl, rfl, h⟩

def narrowText : String := "ADD OVERLAY Label\n a\n  b=1\n"

def wideText : String := "# about\nADD OVERLAY Label\n  a\n \n  # more \\\n    b=1\n"

lemma lines_narrowText : lines narrowText.toList =
    ["ADD OVERLAY Label".toList, " a".toList, "  b=1".toList] := by decide

lemma lines_wideText : lines wideText.toList =
    ["# about".toList, "ADD OVERLAY Label".toList, "  a".toList, " ".toList, "  # more \\".toList,
      "    b=1".toList] := by decide

lemma relaid_wideText :
    Relaid (2 * ·) false (lines narrowText.toList) (lines wideText.toList) := by
  rw [lines_narrowText, lines_wideText]
  refine .insert (.inr rfl) (.line ?_)
  refine .line (.insert (.inl rfl) (.insert (.inr rfl) (.line .nil)))

theorem parse_relaid_wideText : ∃ a b, parse narrowText = .ok a ∧ parse wideText = .ok b ∧
    a.name = b.name ∧ a.actions = b.actions ∧
      a.actions = [.overlay "Label" [.mk 0 "a" (.block [.mk 0 "b" (.text "1")])]] := by
  have hn : (match parse narrowText with | .ok a => a.actions | .error _ => []) =
      [.overlay "Label" [.mk 0 "a" (.block [.mk 0 "b" (.text "1")])]] := by decide +kernel
  have hs : (lines narrowText.toList).all
      (fun l => (l.takeWhile isBlank).all (· == ' ')) = true := by decide
  have ho : (logicalLines narrowText.toList).all (fun k =>
      ((lines narrowText.toList)[k.number - 1]?).all (trim · != ['\\'])) = true := by decide
  rcases parse_relaid (f := (2 * ·)) (fun _ _ => by simp) rfl (by simpa using hs)
    (by simpa [Option.all_eq_true] using ho) relaid_wideText with
    ⟨a, b, ha, hb, hab, h⟩ | ⟨e, e', he, -⟩
  · rw [ha] at hn
    exact ⟨a, b, ha, hb, hab, h, hn⟩
  · rw [he] at hn
    exact absurd hn.symm (List.cons_ne_nil _ _)

end LayeredSchema.Ocafile

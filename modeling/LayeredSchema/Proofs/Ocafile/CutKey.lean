import LayeredSchema.Proofs.Ocafile.Reading
import Mathlib.Data.Set.Finite.Lattice

/-!
Keys that end in a backslash and stand alone on their lines: when such lines are read, every key that
ends in a backslash comes from one that ends in one backslash more.
-/

namespace LayeredSchema.Ocafile

open Text

variable {S : String → Prop} {n d : ℕ} {t u l cs : List Char} {k s : String} {v : PropertyValue}

lemma Continues.exists_cut (h : Continues k) :
    ∃ s : String, k = s ++ "\\" ∧ (s = "" ∨ isPlainKey s.toList = true) := by
  obtain ⟨hp, hl⟩ := h
  obtain ⟨cs, hk⟩ := List.getLast?_eq_some_iff.mp hl
  refine ⟨String.ofList cs, String.toList_inj.mp (by simp [hk]), ?_⟩
  cases cs with
  | nil => exact Or.inl rfl
  | cons c cs =>
    obtain ⟨-, hs, hq, hc⟩ := isPlainKey_iff.mp hp
    rw [hk] at hs hq hc
    rw [String.toList_ofList]
    refine Or.inr (isPlainKey_iff.mpr ⟨by simp, by simpa using hs, by simpa using hq, fun ch hch => ?_⟩)
    exact hc ch (List.mem_append_left _ hch)

lemma Continues.append (h : Continues k) : Continues (k ++ "\\") := by
  obtain ⟨hn, hs, hq, hc⟩ := isPlainKey_iff.mp h.1
  refine ⟨isPlainKey_iff.mpr ?_, by simp⟩
  obtain ⟨c, cs, hk⟩ := List.exists_cons_of_ne_nil hn
  rw [hk] at hs hq hc
  simp only [String.toList_append, hk]
  refine ⟨by simp, by simpa using hs, by simpa using hq, fun ch hch => ?_⟩
  rcases List.mem_append.mp hch with hch | hch
  · exact hc ch hch
  · obtain rfl := List.mem_singleton.mp hch
    decide

lemma not_continues_of_append {ks : List String}
    (h : ∀ k ∈ ks, Continues k → k ++ "\\" ∈ ks) : ∀ k ∈ ks, ¬Continues k := by
  -- one such key would bring longer and longer ones, and there is a longest
  obtain ⟨m, hm⟩ := (ks.finite_toSet.image String.length).bddAbove
  have hb : ∀ n, ∀ k ∈ ks, Continues k → k.length + n ≤ m := by
    intro n
    induction n with
    | zero => exact fun k hk _ => hm (Set.mem_image_of_mem _ hk)
    | succ n ih =>
      intro k hk hc
      have := ih _ (h k hk hc) hc.append
      rw [String.length_append] at this
      change k.length + 1 + n ≤ m at this
      omega
  intro k hk hc
  have := hb (m + 1) k hk hc
  omega

/-- What a text says of a key that continues its line, if the text is read as a line of a block. -/
def Says (S : String → Prop) (t : List Char) : Prop :=
  ∀ (k : String) (c d : Cursor), c.rest = trimLeft t → readKey c = .ok (k, d) →
    readValue d.skipBlanks = .ok .bare → Continues k → S (k ++ "\\")

/-- A text that waits for the next line: nothing, or what was cut from a key of certain ones. -/
def Waits (S : String → Prop) (t : List Char) : Prop :=
  trimLeft t = [] ∨ ∃ (k : String) (w : List Char), isPlainKey k.toList = true ∧ S (k ++ "\\") ∧
    trimLeft t = k.toList ++ w ∧ (∀ ch, w.head? = some ch → isBlank ch = true) ∧
    ∀ ch, (trimLeft w).head? = some ch → ch ≠ '='

lemma says_of_waits (h : Waits S t) : Says S t := by
  intro k c d hc hk hv hs
  rcases h with ht | ⟨s, w, hp, hS, ht, hw, -⟩
  · have hn : c.name = ([], c.moveTo []) := Cursor.takeWhile_eq (hc.trans ht) (by simp) (by simp)
    have : readKey c = .ok ("", c.moveTo []) := by
      rw [readKey, hn, hc, ht]
    rw [this] at hk
    obtain ⟨rfl, -⟩ := Prod.mk.inj (Except.ok.inj hk)
    exact absurd hs.1 (by decide)
  · rw [readKey_plain hp (hc.trans ht) fun ch hch => Or.inl (hw ch hch)] at hk
    obtain ⟨rfl, -⟩ := Prod.mk.inj (Except.ok.inj hk)
    exact hS

structure Follows (u : List Char) : Prop where
  trim_eq : trim u = trimLeft u
  head : ∀ ch, (trimLeft u).head? = some ch → ch ≠ '='

lemma Waits.append (h : Waits S t) (hu : Follows u) :
    trimLeft (t ++ ' ' :: trim u) = trimLeft u ∨ Waits S (t ++ ' ' :: trim u) := by
  have hl : trimLeft (' ' :: trim u) = trimLeft u := by
    rw [hu.trim_eq]
    exact trimLeft_space.trans (trimLeft_trimLeft u)
  rcases h with ht | ⟨s, w, hp, hS, ht, hw, hh⟩
  · left -- the line is blank so far
    rw [trimLeft_append (List.dropWhile_eq_nil_iff.mp ht), hl]
  · have hs : s.toList ≠ [] := (isPlainKey_iff.mp hp).1
    refine Or.inr (Or.inr ⟨s, w ++ ' ' :: trim u, hp, hS, ?_, ?_, ?_⟩)
    · rw [trimLeft_append_of_ne (by simp [ht, hs]), ht, List.append_assoc]
    · cases w with
      | nil => simp; decide
      | cons ch w => simpa using hw
    · by_cases hn : trimLeft w = []
      · rw [trimLeft_append (List.dropWhile_eq_nil_iff.mp hn), hl]
        exact hu.head
      · rwa [trimLeft_append_of_ne hn, List.head?_append_of_ne_nil _ hn]

lemma Waits.says_append (h : Waits S t) (hu : Follows u) (hs : Says S u) :
    Says S (t ++ ' ' :: trim u) := by
  rcases h.append hu with ht | hw
  · rwa [Says, ht]
  · exact says_of_waits hw

lemma Waits.waits_append (h : Waits S t) (hu : Follows u) (hw : Waits S u) :
    Waits S (t ++ ' ' :: trim u) := by
  rcases h.append hu with ht | hw
  · rwa [Waits, ht]
  · exact hw

inductive OverlayLine (S : String → Prop) : List Char → Prop
  | empty : OverlayLine S []
  | command {s : String} (h : WritableName s) : OverlayLine S ("ADD OVERLAY ".toList ++ s.toList)
  | property (d : ℕ) {k : String} {v : PropertyValue} (h : KeyIn S k v) :
    OverlayLine S (lineChars d k v)

lemma Whole.follows (h : Whole l) (hh : ∀ ch, (trimLeft l).head? = some ch → ch ≠ '=') :
    Follows l := by
  obtain ⟨c, hc, hb, -⟩ := h.last
  exact ⟨trim_eq_trimLeft hc hb, hh⟩

lemma trimLeft_command :
    trimLeft ("ADD OVERLAY ".toList ++ t) = "ADD OVERLAY ".toList ++ t :=
  trimLeft_cons (by decide)

lemma whole_command (h : WritableName s) : Whole ("ADD OVERLAY ".toList ++ s.toList) :=
  h.whole.append (by decide)

lemma says_command : Says S ("ADD OVERLAY ".toList ++ s.toList) := by
  intro k c d hc hk hv
  have ht : c.rest = "ADD".toList ++ ' ' :: ("OVERLAY ".toList ++ s.toList) :=
    hc.trans trimLeft_command
  rw [readKey_plain (k := "ADD") (by decide) ht (by simp; decide)] at hk
  obtain ⟨-, rfl⟩ := Prod.mk.inj (Except.ok.inj hk)
  have hs : (c.moveTo (' ' :: ("OVERLAY ".toList ++ s.toList))).skipBlanks.rest =
      'O' :: ("VERLAY ".toList ++ s.toList) :=
    trimLeft_space.trans (trimLeft_cons (c := 'O') (by decide))
  have he : isAllBlank ('O' :: ("VERLAY ".toList ++ s.toList)) = false := rfl
  simp only [readValue, Cursor.atEnd, hs, he] at hv
  contradiction

lemma head_lineChars {ch : Char} (h : (trimLeft (lineChars d k v)).head? = some ch) : ch ≠ '=' := by
  obtain ⟨c, cs, hk, -, -, hc⟩ := keyChars_cons (k := k)
  rw [trimLeft_lineChars, hk] at h
  exact Option.some.inj h ▸ hc

lemma says_lineChars (h : KeyReads k v) : Says S (lineChars d k v) := by
  intro k' c c' hc hk hv hs
  obtain ⟨e, he, hr⟩ := readKey_keyChars (hc.trans trimLeft_lineChars) fun ch => head_tailChars
  rw [he] at hk
  obtain ⟨rfl, rfl⟩ := Prod.mk.inj (Except.ok.inj hk)
  have ht : e.skipBlanks.rest = tailChars v := by
    refine (trimLeft_eq_self fun ch hch => ?_).trans hr
    rw [hr] at hch
    rw [head_tailChars hch]
    decide
  rw [readValue_tailChars ht] at hv
  exact absurd hs (h.2 (Except.ok.inj hv))

lemma exists_lineChars_cut (hv : v.onLine = .bare) (hk : Continues k) :
    ∃ s : String, k = s ++ "\\" ∧ (s = "" ∨ isPlainKey s.toList = true) ∧
      lineChars d k v = List.replicate (2 * d) ' ' ++ s.toList ++ ['\\'] := by
  obtain ⟨s, hs, hp⟩ := hk.exists_cut
  have ht : tailChars v = [] := by
    cases v <;> simp_all [PropertyValue.onLine, tailChars]
  refine ⟨s, hs, hp, ?_⟩
  rw [lineChars, keyChars, if_pos hk.1, ht, hs]
  simp

lemma waits_of_cut (h : s = "" ∨ isPlainKey s.toList = true) (hS : S (s ++ "\\")) :
    Follows (List.replicate (2 * d) ' ' ++ s.toList) ∧
      Waits S (List.replicate (2 * d) ' ' ++ s.toList) := by
  have hb : ∀ ch ∈ s.toList, isBlank ch = false ∧ ch ≠ '=' := by
    rcases h with rfl | h
    · simp
    · exact (isPlainKey_iff.mp h).2.2.2
  have hr : ∀ ch ∈ List.replicate (2 * d) ' ', isBlank ch = true := fun ch hch => by
    rw [List.eq_of_mem_replicate hch]
    decide
  have hl : trimLeft (List.replicate (2 * d) ' ' ++ s.toList) = s.toList :=
    (trimLeft_append hr).trans (trimLeft_eq_self fun ch hch => (hb ch (List.mem_of_mem_head? hch)).1)
  have ht : trim (List.replicate (2 * d) ' ' ++ s.toList) = s.toList := by
    simpa using trim_padded (w := []) hr (by simp) fun ch hch => (hb ch hch).1
  refine ⟨⟨ht.trans hl.symm, fun ch hch => ?_⟩, ?_⟩
  · rw [hl] at hch
    exact (hb ch (List.mem_of_mem_head? hch)).2
  · rcases h with rfl | h
    · exact Or.inl hl
    · exact Or.inr ⟨s, [], h, hS, by simpa using hl, by simp, by simp [trimLeft]⟩

lemma OverlayLine.read (h : OverlayLine S l) : isComment l = false ∧
    ((continued? l = none ∧ Follows l ∧ Says S l) ∨
      ∃ part, continued? l = some part ∧ Follows part ∧ Waits S part) := by
  cases h with
  | empty => exact ⟨rfl, Or.inl ⟨rfl, ⟨rfl, nofun⟩, says_of_waits (Or.inl rfl)⟩⟩
  | command h =>
    refine ⟨isComment_addition (t := "OVERLAY ".toList ++ _), Or.inl
      ⟨(whole_command h).continued?_eq, (whole_command h).follows fun ch hch => ?_, says_command⟩⟩
    rw [trimLeft_command] at hch
    exact Option.some.inj hch ▸ (by decide)
  | @property d k v h =>
    refine ⟨isComment_lineChars, ?_⟩
    by_cases hk : v.onLine = .bare ∧ Continues k
    · obtain ⟨hv, hk⟩ := hk
      obtain ⟨s, hs, hp, hl⟩ := exists_lineChars_cut (d := d) hv hk
      exact Or.inr ⟨_, hl ▸ continued?_concat, waits_of_cut hp (hs ▸ h.2 hv hk)⟩
    · have hr : KeyReads k v := ⟨h.1, fun hv hc => hk ⟨hv, hc⟩⟩
      exact Or.inl ⟨(whole_lineChars hr).continued?_eq,
        (whole_lineChars hr).follows fun ch => head_lineChars, says_lineChars hr⟩

lemma says_of_joinLines {ls : List (List Char)} (h : ∀ l ∈ ls, OverlayLine S l)
    {pending : Option LogicalLine} (hp : ∀ l ∈ pending, Waits S l.text) :
    ∀ l ∈ joinLines n pending ls, Says S l.text := by
  -- on the lines, whatever waits before them
  induction ls generalizing n pending with
  | nil =>
    intro l hl
    rw [joinLines] at hl
    exact says_of_waits (hp l (Option.mem_toList.mp hl))
  | cons l ls ih =>
    obtain ⟨hc, hr⟩ := (h l List.mem_cons_self).read
    have hls : ∀ l ∈ ls, OverlayLine S l := fun m hm => h m (List.mem_cons_of_mem l hm)
    cases pending with
    | none =>
      rcases hr with ⟨hn, -, hs⟩ | ⟨part, hn, -, hw⟩
      · simp only [joinLines, hc, hn, Bool.false_eq_true, if_false, List.forall_mem_cons]
        exact ⟨hs, ih hls (by simp)⟩
      · simp only [joinLines, hc, hn, Bool.false_eq_true, if_false]
        exact ih hls (by simpa using hw)
    | some m =>
      have hm := hp m rfl
      rcases hr with ⟨hn, hf, hs⟩ | ⟨part, hn, hf, hw⟩
      · simp only [joinLines, hn, List.forall_mem_cons]
        exact ⟨hm.says_append hf hs, ih hls (by simp)⟩
      · simp only [joinLines, hn]
        refine ih hls fun l hl => ?_
        obtain rfl := Option.some.inj hl
        exact hm.waits_append hf hw

lemma OverlayLine.lines_cons (h : OverlayLine S l) : lines (l ++ '\n' :: cs) = l :: lines cs := by
  cases h with
  | empty => rw [List.nil_append, lines]
  | command h => exact (whole_command h).lines_cons
  | @property d k v h =>
    by_cases hk : v.onLine = .bare ∧ Continues k
    · obtain ⟨s, -, hp, hl⟩ := exists_lineChars_cut (d := d) hk.1 hk.2
      have hn : '\n' ∉ List.replicate (2 * d) ' ' ++ s.toList := by
        rcases hp with rfl | hp
        · simp
        · have hc := (isPlainKey_iff.mp hp).2.2.2
          simpa using fun hn => absurd (hc _ hn).1 (by decide)
      rw [hl, List.append_assoc]
      exact lines_continued hn
    · exact (whole_lineChars ⟨h.1, fun hv hc => hk ⟨hv, hc⟩⟩).lines_cons

lemma overlayLine_of_blockChars {ps : List Property} (h : Property.Every (KeyIn S) ps)
    (hs : ∀ l ∈ lines cs, OverlayLine S l) : ∀ l ∈ lines (blockChars d ps ++ cs), OverlayLine S l := by
  induction h generalizing d cs with
  | nil => exact hs
  | @cons i k v ps head _ _ ihv ihs =>
    have he : blockChars d (.mk i k v :: ps) ++ cs =
        lineChars d k v ++ '\n' :: (blockChars (d + 1) v.inner ++ (blockChars d ps ++ cs)) := by
      simp [blockChars, propertyChars, lineChars, valueChars_eq]
    have hl : OverlayLine S (lineChars d k v) := .property d head
    rw [he, hl.lines_cons]
    exact List.forall_mem_cons.mpr ⟨hl, ihv (ihs hs)⟩

def OverlayCommand (S : String → Prop) (a : Action) : Prop :=
  ∃ s ps, a = .overlay s ps ∧ WritableName s ∧ Property.Every (KeyIn S) ps

lemma overlayLine_of_actionChars {a : Action} (h : OverlayCommand S a)
    (hs : ∀ l ∈ lines cs, OverlayLine S l) : ∀ l ∈ lines (actionChars a ++ cs), OverlayLine S l := by
  obtain ⟨s, ps, rfl, hn, hp⟩ := h
  have hl : OverlayLine S ("ADD OVERLAY ".toList ++ s.toList) := .command hn
  have he : actionChars (.overlay s ps) ++ cs =
      "ADD OVERLAY ".toList ++ s.toList ++ '\n' :: (blockChars 1 ps ++ cs) := by
    rw [actionChars_overlay, List.append_assoc]
    rfl
  rw [he, hl.lines_cons]
  exact List.forall_mem_cons.mpr ⟨hl, overlayLine_of_blockChars hp hs⟩

lemma overlayLine_of_commandsChars {commands : List Command}
    (h : ∀ c ∈ commands, OverlayCommand S c.action) :
    ∀ l ∈ lines (commandsChars commands), OverlayLine S l := by
  fun_induction commandsChars commands with
  | case1 => simp [lines]
  | case2 c =>
    simpa using overlayLine_of_actionChars (h c List.mem_cons_self)
      (show ∀ l ∈ lines [], OverlayLine S l by simp [lines])
  | case3 c cs _ ih =>
    refine overlayLine_of_actionChars (h c List.mem_cons_self) ?_
    rw [lines]
    exact List.forall_mem_cons.mpr ⟨.empty, ih fun d hd => h d (List.mem_cons_of_mem c hd)⟩

lemma sound_of_readFrom {commands : List Command} (hc : ∀ c ∈ commands, OverlayCommand S c.action)
    {p q : Progress} (hp : Sound (fun k v => v = .bare → Continues k → S (k ++ "\\")) p)
    (h : readFrom n p (commandsChars commands) = .ok q) :
    Sound (fun k v => v = .bare → Continues k → S (k ++ "\\")) q := by
  refine Sound.run (fun l hl k v hs hv => ?_) hp h
  subst hv
  obtain ⟨-, -, c, d, hr, hk, hv⟩ := hs
  exact says_of_joinLines (overlayLine_of_commandsChars hc) (by simp) l hl k c d hr hk hv

end LayeredSchema.Ocafile

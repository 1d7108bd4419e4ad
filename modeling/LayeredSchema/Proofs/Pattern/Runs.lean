import LayeredSchema.Proofs.Pattern.ReadingLocality

/-!
Runs of the reader of patterns: how one goes on in open groups and before the ending of an anchored
pattern. Main statement: `Reading.beforeEnding`.
-/

namespace LayeredSchema.Pattern

open Text Leaves

namespace Reading

variable {s t u : Reading} {cs ds es : List Char} {ls : List Level} {l : Level}

/-! ### Runs -/

lemma run?_of_nil (h : skip s.flags.verbose cs = []) : s.run? cs = some s := by
  rw [run?, h]

lemma run?_of_cons {c : Char} (h : skip s.flags.verbose cs = c :: ds) :
    s.run? cs = s.step? (c :: ds) >>= fun q => q.1.run? q.2 := by
  rw [run?, h]
  dsimp only
  rcases hs : s.step? (c :: ds) with _ | ⟨t, es⟩
  · rfl
  · have hl := (skip_suffix s.flags.verbose cs).length_le
    have hd := (step?_suffix hs).length_le
    rw [h] at hl
    exact if_pos (by simp at hl hd; omega)

lemma run?_congr (h : skip s.flags.verbose cs = skip s.flags.verbose ds) :
    s.run? cs = s.run? ds := by
  rcases hs : skip s.flags.verbose cs with _ | ⟨c, es⟩
  · rw [run?_of_nil hs, run?_of_nil (h ▸ hs)]
  · rw [run?_of_cons hs, run?_of_cons (h ▸ hs)]

/-! ### Groups around a reading -/

def under (s : Reading) (ls : List Level) : Reading := { s with outer := s.outer ++ ls }

@[simp] lemma under_flags : (s.under ls).flags = s.flags := rfl
@[simp] lemma under_level : (s.under ls).level = s.level := rfl
@[simp] lemma under_outer : (s.under ls).outer = s.outer ++ ls := rfl
@[simp] lemma under_names : (s.under ls).names = s.names := rfl

lemma under_nil : s.under [] = s := by
  simp [under]

def stepUnder (ls : List Level) (q : Reading × List Char) : Reading × List Char :=
  (q.1.under ls, q.2)

lemma closeGroup?_under (h : s.outer ≠ []) :
    (s.under ls).closeGroup? = s.closeGroup?.map (under · ls) := by
  obtain ⟨l, outer, ho⟩ := List.exists_cons_of_ne_nil h
  simp only [closeGroup?, under_outer, ho]
  rfl

lemma repeat?_under {least : ℕ} {most : Option ℕ} {isLazy : Bool} :
    (s.under ls).repeat? least most isLazy = (s.repeat? least most isLazy).map (under · ls) := by
  unfold repeat?
  simp only [under_level, under_flags]
  cases s.level.repeat? least most (isLazy == s.flags.swapGreed) <;> rfl

lemma repetition?_under {least : ℕ} {most : Option ℕ} :
    (s.under ls).repetition? least most cs = (s.repetition? least most cs).map (stepUnder ls) := by
  unfold repetition?
  split
  · rw [repeat?_under]
    cases s.repeat? least most true <;> rfl
  · rw [repeat?_under]
    cases s.repeat? least most false <;> rfl

lemma atom?_under {a : Atom} : (s.under ls).atom? a cs = (s.atom? a cs).map (stepUnder ls) := by
  unfold atom?
  rw [under_flags]
  cases s.flags.atom? a <;> rfl

lemma openNamed?_under : (s.under ls).openNamed? cs = (s.openNamed? cs).map (stepUnder ls) := by
  unfold openNamed?
  cases groupName? cs with
  | none => rfl
  | some p =>
    dsimp only [Option.bind_eq_bind, Option.bind_some]
    rw [under_names]
    split
    · rfl
    · rfl

lemma flagGroup?_under {p : List (Flag × Bool) × Char × List Char} :
    flagGroup? (s.under ls) p = (flagGroup? s p).map (stepUnder ls) := by
  unfold flagGroup?
  split
  · rfl
  · split
    · rfl
    · rfl

lemma group?_under : (s.under ls).group? cs = (s.group? cs).map (stepUnder ls) := by
  rw [group?_eq, group?_eq, under_flags]
  unfold groupAfter?
  split
  · rfl
  · rfl
  · rfl
  · rfl
  · exact openNamed?_under
  · exact openNamed?_under
  · rename_i ds _ _ _ _ _ _ _
    cases flagChanges? false false [] ds with
    | none => rfl
    | some p => exact flagGroup?_under
  · rfl

lemma step?_under (h : s.outer = [] → ∀ ds, cs ≠ ')' :: ds) :
    (s.under ls).step? cs = (s.step? cs).map (stepUnder ls) := by
  fun_cases s.step? cs with
  | case1 => rfl
  | case2 cs => exact group?_under
  | case3 cs =>
    have ho : s.outer ≠ [] := fun hn => h hn cs rfl
    change (s.under ls).closeGroup? >>= _ = _
    rw [closeGroup?_under ho]
    cases s.closeGroup? <;> rfl
  | case4 cs => rfl
  | case5 cs =>
    change Bracket.read? s.flags cs >>= _ = _
    cases Bracket.read? s.flags cs <;> rfl
  | case6 cs => exact repetition?_under
  | case7 cs => exact repetition?_under
  | case8 cs => exact repetition?_under
  | case9 cs =>
    change bounds? s.flags.verbose cs >>= _ = _
    cases bounds? s.flags.verbose cs with
    | none => rfl
    | some p => exact repetition?_under
  | case10 cs => exact atom?_under
  | case11 cs => exact atom?_under
  | case12 cs => exact atom?_under
  | case13 cs =>
    change Atom.escape? s.flags.verbose cs >>= _ = _
    cases Atom.escape? s.flags.verbose cs with
    | none => rfl
    | some p => exact atom?_under
  | case14 c cs h₁ h₂ h₃ h₄ h₅ h₆ h₇ h₈ h₉ h₁₀ h₁₁ h₁₂ =>
    rw [step?.eq_14 _ c cs h₁ h₂ h₃ h₄ h₅ h₆ h₇ h₈ h₉ h₁₀ h₁₁ h₁₂]
    exact atom?_under

/-! ### What steps do to groups -/

def SameStart (l m : Level) : Prop := l.flags = m.flags ∧ l.number = m.number

def MovesGroups (s t : Reading) : Prop :=
  t.outer = s.outer ∧ SameStart t.level s.level ∨ t.outer = s.level :: s.outer ∨
    ∃ l, s.outer = l :: t.outer ∧ SameStart t.level l

lemma stays (ho : t.outer = s.outer) (hl : SameStart t.level s.level) : MovesGroups s t :=
  .inl ⟨ho, hl⟩

lemma atom?_groups {a : Atom} {q : Reading × List Char} (h : s.atom? a cs = some q) :
    MovesGroups s q.1 := by
  obtain ⟨r, -, h⟩ := Option.bind_eq_some_iff.mp h
  obtain rfl := Option.some.inj h
  exact stays rfl ⟨rfl, rfl⟩

lemma repeat?_groups {least : ℕ} {most : Option ℕ} {isLazy : Bool}
    (h : s.repeat? least most isLazy = some t) : MovesGroups s t := by
  obtain ⟨l, hl, h⟩ := Option.bind_eq_some_iff.mp h
  obtain rfl := Option.some.inj h
  unfold Level.repeat? at hl
  split at hl
  · obtain rfl := Option.some.inj hl
    exact stays rfl ⟨rfl, rfl⟩
  · contradiction

lemma repetition?_groups {least : ℕ} {most : Option ℕ} {q : Reading × List Char}
    (h : s.repetition? least most cs = some q) : MovesGroups s q.1 := by
  unfold repetition? at h
  split at h
  · obtain ⟨t, ht, h⟩ := Option.bind_eq_some_iff.mp h
    obtain rfl := Option.some.inj h
    exact repeat?_groups ht
  · obtain ⟨t, ht, h⟩ := Option.bind_eq_some_iff.mp h
    obtain rfl := Option.some.inj h
    exact repeat?_groups ht

lemma openNamed?_groups {q : Reading × List Char} (h : s.openNamed? cs = some q) :
    MovesGroups s q.1 := by
  obtain ⟨p, -, h⟩ := Option.bind_eq_some_iff.mp h
  dsimp only at h
  split at h
  · contradiction
  · obtain rfl := Option.some.inj h
    exact .inr (.inl rfl)

lemma group?_groups {q : Reading × List Char} (h : s.group? cs = some q) : MovesGroups s q.1 := by
  rw [group?_eq] at h
  unfold groupAfter? at h
  split at h
  · contradiction
  · contradiction
  · contradiction
  · contradiction
  · exact openNamed?_groups h
  · exact openNamed?_groups h
  · obtain ⟨p, -, h⟩ := Option.bind_eq_some_iff.mp h
    unfold flagGroup? at h
    split at h
    · obtain rfl := Option.some.inj h
      exact .inr (.inl rfl)
    · split at h
      · contradiction
      · obtain rfl := Option.some.inj h
        exact stays rfl ⟨rfl, rfl⟩
  · obtain rfl := Option.some.inj h
    exact .inr (.inl rfl)

lemma closeGroup?_groups (h : s.closeGroup? = some t) : MovesGroups s t := by
  unfold closeGroup? at h
  split at h
  · contradiction
  · rename_i l ls ho
    obtain rfl := Option.some.inj h
    exact .inr (.inr ⟨l, ho, rfl, rfl⟩)

lemma step?_groups {q : Reading × List Char} (h : s.step? cs = some q) : MovesGroups s q.1 := by
  unfold step? at h
  split at h
  · contradiction
  · exact group?_groups h
  · obtain ⟨t, ht, h⟩ := Option.bind_eq_some_iff.mp h
    obtain rfl := Option.some.inj h
    exact closeGroup?_groups ht
  · obtain rfl := Option.some.inj h
    exact stays rfl ⟨rfl, rfl⟩
  · obtain ⟨⟨m, rest⟩, -, h⟩ := Option.bind_eq_some_iff.mp h
    obtain rfl := Option.some.inj h
    exact stays rfl ⟨rfl, rfl⟩
  · exact repetition?_groups h
  · exact repetition?_groups h
  · exact repetition?_groups h
  · obtain ⟨⟨least, most, rest⟩, -, h⟩ := Option.bind_eq_some_iff.mp h
    exact repetition?_groups h
  · exact atom?_groups h
  · exact atom?_groups h
  · exact atom?_groups h
  · obtain ⟨p, -, h⟩ := Option.bind_eq_some_iff.mp h
    exact atom?_groups h
  · exact atom?_groups h

def bottom (s : Reading) : Level := s.outer.getLast?.getD s.level

lemma MovesGroups.bottom (h : MovesGroups s t) : SameStart t.bottom s.bottom := by
  unfold Reading.bottom
  rcases h with ⟨ho, hl⟩ | ho | ⟨l, ho, hl⟩
  · rw [ho]
    cases s.outer.getLast? with
    | none => exact hl
    | some m => exact ⟨rfl, rfl⟩
  · rw [ho, List.getLast?_cons]
    exact ⟨rfl, rfl⟩
  · rw [ho, List.getLast?_cons]
    cases t.outer.getLast? with
    | none => exact hl
    | some m => exact ⟨rfl, rfl⟩

inductive Reaches : Reading → List Char → Reading → List Char → Prop
  | here (s : Reading) (cs : List Char) : Reaches s cs s (skip s.flags.verbose cs)
  | step {s t u : Reading} {cs ds es : List Char} :
      s.step? (skip s.flags.verbose cs) = some (t, ds) → Reaches t ds u es → Reaches s cs u es

lemma reaches_of_run? (h : s.run? cs = some t) : Reaches s cs t [] := by
  induction s, cs using run?.induct with
  | case1 s cs hs =>
    rw [run?_of_nil hs] at h
    obtain rfl := Option.some.inj h
    exact hs ▸ .here s cs
  | case2 s cs c ds hs ht =>
    rw [run?_of_cons hs, ht] at h
    contradiction
  | case3 s cs c ds hs u es hu _ ih =>
    rw [run?_of_cons hs, hu] at h
    exact .step (hs ▸ hu) (ih h)
  | case4 s cs c ds hs u es hu hl =>
    rw [run?, hs] at h
    dsimp only at h
    rw [hu] at h
    exact nomatch (if_neg hl).symm.trans h

lemma Reaches.bottom (h : Reaches s cs t ds) : SameStart t.bottom s.bottom := by
  induction h with
  | here => exact ⟨rfl, rfl⟩
  | step hs _ ih =>
    obtain ⟨hf, hn⟩ := (step?_groups hs).bottom
    exact ⟨ih.1.trans hf, ih.2.trans hn⟩

/-! ### Runs before the ending -/

/-- The reading comes to a parenthesis that closes a group although none is open. -/
def ClosesEarly (s : Reading) (cs : List Char) : Prop :=
  ∃ t ds, Reaches s cs t (')' :: ds) ∧ t.outer = []

lemma outer_of_dollar (h : cs <:+ ['$']) (hr : s.run? cs = some t) : t.outer = s.outer := by
  rcases List.suffix_cons_iff.mp h with rfl | h
  · have hs : skip s.flags.verbose ['$'] = ['$'] := by cases s.flags.verbose <;> rfl
    rw [run?_of_cons hs] at hr
    obtain ⟨q, hq, hr⟩ := Option.bind_eq_some_iff.mp hr
    change s.atom? (.anchor .lineEnd) [] = some q at hq
    unfold atom? at hq
    obtain ⟨r, -, hq⟩ := Option.bind_eq_some_iff.mp hq
    obtain rfl := Option.some.inj hq
    rw [run?_of_nil (skip_nil _)] at hr
    obtain rfl := Option.some.inj hr
    rfl
  · obtain rfl := List.suffix_nil.mp h
    rw [run?_of_nil (skip_nil _)] at hr
    obtain rfl := Option.some.inj hr
    rfl

lemma count?_ending (v : Bool) : count? v ending = none := by
  rw [count?_eq]
  change numberOf? (countDigits v ending) = none
  rw [ending, countDigits_of_not_digit (by decide)]
  rfl

lemma count?_nil (v : Bool) : count? v [] = none := by
  rw [count?_eq]
  change numberOf? (countDigits v []) = none
  rw [countDigits]
  rfl

lemma run?_of_dangling (h : Atom.IsDangling s.flags.verbose cs) : s.run? cs = none := by
  obtain ⟨inner, rfl, hn⟩ := h
  have hb : bounds? s.flags.verbose (inner ++ ending) = none := by
    rw [bounds?_eq]
    rcases skip_ending s.flags.verbose inner with he | ⟨-, he⟩
    · rw [he, hn, List.nil_append, count?_ending]
      rfl
    · rw [he, count?_nil]
      rfl
  have hs : skip s.flags.verbose ('\x7b' :: (inner ++ ending)) = '\x7b' :: (inner ++ ending) := by
    cases s.flags.verbose <;> rfl
  rw [run?_of_cons hs]
  change (bounds? s.flags.verbose (inner ++ ending) >>= _) >>= _ = none
  rw [hb]
  rfl

lemma skip_ending_eq (v : Bool) : skip v ending = ending := by
  cases v <;> rfl

/-- How a reading goes on when the ending stands behind its text, in groups that are open around
it. -/
inductive BeforeEnding (s : Reading) (cs : List Char) : Prop
  | complete (t : Reading) (h : s.run? cs = some t)
      (he : ∀ ls, (s.under ls).run? (cs ++ ending) = (t.under ls).run? ending)
  | inComment (t : Reading) (h : s.run? cs = some t)
      (he : ∀ ls, (s.under ls).run? (cs ++ ending) = some (t.under ls))
  | closesEarly (h : s.run? cs = none) (he : ClosesEarly s cs)
  | staysOpen (h : s.run? cs = none)
      (he : ∀ ls ≠ [], ∀ u, (s.under ls).run? (cs ++ ending) = some u → u.outer ≠ [])

lemma skip_of_cons {v : Bool} {c : Char} (h : skip v cs = c :: ds) :
    skip v (cs ++ ending) = c :: (ds ++ ending) := by
  rcases skip_ending v cs with he | ⟨hn, -⟩
  · rw [he, h]
    rfl
  · rw [h] at hn
    contradiction

lemma run?_under_of_cons {c : Char} (h : skip s.flags.verbose cs = c :: ds)
    (hc : s.outer = [] → c ≠ ')') :
    (s.under ls).run? cs = s.step? (c :: ds) >>= fun q => (q.1.under ls).run? q.2 := by
  rw [run?_of_cons (s := s.under ls) h, step?_under fun ho es hd => hc ho (List.cons.inj hd).1]
  cases s.step? (c :: ds) <;> rfl

lemma BeforeEnding.of_step {c : Char} (hs : skip s.flags.verbose cs = c :: ds)
    (hc : s.outer = [] → c ≠ ')') (hx : s.step? (c :: ds) = some (t, es))
    (hy : s.step? (c :: (ds ++ ending)) = some (t, es ++ ending)) (h : BeforeEnding t es) :
    BeforeEnding s cs := by
  have hr : s.run? cs = t.run? es := by
    rw [run?_of_cons hs, hx]
    rfl
  have hu (ls : List Level) :
      (s.under ls).run? (cs ++ ending) = (t.under ls).run? (es ++ ending) := by
    rw [run?_under_of_cons (skip_of_cons hs) hc, hy]
    rfl
  cases h with
  | complete u h he => exact .complete u (hr.trans h) fun ls => (hu ls).trans (he ls)
  | inComment u h he => exact .inComment u (hr.trans h) fun ls => (hu ls).trans (he ls)
  | closesEarly h he =>
    obtain ⟨u, more, hm, ho⟩ := he
    exact .closesEarly (hr.trans h) ⟨u, more, .step (hs ▸ hx) hm, ho⟩
  | staysOpen h he =>
    exact .staysOpen (hr.trans h) fun ls hn u hu' => he ls hn u ((hu ls).symm.trans hu')

lemma BeforeEnding.of_comment {c : Char} (hs : skip s.flags.verbose cs = c :: ds)
    (hc : s.outer = [] → c ≠ ')') (hx : s.step? (c :: ds) = some (t, []))
    (hy : s.step? (c :: (ds ++ ending)) = some (t, [])) : BeforeEnding s cs := by
  refine .inComment t ?_ fun ls => ?_
  · rw [run?_of_cons hs, hx]
    exact run?_of_nil (skip_nil _)
  · rw [run?_under_of_cons (skip_of_cons hs) hc, hy]
    exact run?_of_nil (skip_nil _)

lemma BeforeEnding.of_stuck {c : Char} (hs : skip s.flags.verbose cs = c :: ds)
    (hc : s.outer = [] → c ≠ ')') (hx : s.step? (c :: ds) = none)
    (hy : ∀ q, s.step? (c :: (ds ++ ending)) = some q → PastStep s q) : BeforeEnding s cs := by
  refine .staysOpen (by rw [run?_of_cons hs, hx]; rfl) fun ls hn u hu => ?_
  rw [run?_under_of_cons (skip_of_cons hs) hc] at hu
  obtain ⟨⟨t, more⟩, hq, hr⟩ := Option.bind_eq_some_iff.mp hu
  rcases hy _ hq with hw | ⟨hf, hd⟩
  · rw [outer_of_dollar hw hr]
    exact List.append_ne_nil_of_right_ne_nil _ hn
  · rw [run?_of_dangling (s := t.under ls) (by rw [under_flags, hf]; exact hd)] at hr
    contradiction

lemma beforeEnding (s : Reading) (cs : List Char) : BeforeEnding s cs := by
  -- on the length of the text, as a step leaves some end of it
  induction hn : cs.length using Nat.strong_induction_on generalizing s cs with
  | h n ih =>
    rcases hs : skip s.flags.verbose cs with _ | ⟨c, ds⟩
    · rcases skip_ending s.flags.verbose cs with he | ⟨-, he⟩
      · refine .complete s (run?_of_nil hs) fun ls => run?_congr ?_
        rw [under_flags, he, hs, skip_ending_eq]
        rfl
      · exact .inComment s (run?_of_nil hs) fun ls => run?_of_nil he
    · by_cases hc : s.outer = [] → c ≠ ')'
      · have hl : ds.length < n := by
          have := (skip_suffix s.flags.verbose cs).length_le
          rw [hs] at this
          exact hn ▸ this
        rcases step?_agree (s := s) (c :: ds) with
          ⟨⟨t, es⟩, hx, hy⟩ | ⟨⟨t, es⟩, he, hx, hy⟩ | ⟨hx, hy⟩
        · have := (step?_suffix hx).length_le
          exact .of_step hs hc hx hy (ih es.length (Nat.lt_of_le_of_lt this hl) t es rfl)
        · obtain rfl : es = [] := he
          exact .of_comment hs hc hx hy
        · exact .of_stuck hs hc hx hy
      · obtain ⟨ho, rfl⟩ : s.outer = [] ∧ c = ')' := by simpa using hc
        refine .closesEarly ?_ ⟨s, ds, hs ▸ .here s cs, ho⟩
        rw [run?_of_cons hs]
        change (s.closeGroup? >>= _) >>= _ = none
        rw [closeGroup?, ho]
        rfl

end Reading

end LayeredSchema.Pattern

import LayeredSchema.Pattern.Reader
import LayeredSchema.Proofs.Pattern.BracketLocality

/-!
The steps of reading a pattern, without and with the ending of an anchored pattern behind it.
-/

namespace LayeredSchema.Pattern

open Text Leaves Pattern.Bracket

variable {v : Bool} {cs ds : List Char} {s : Reading}

/-! ### Groups -/

lemma flagChanges?_suffix {negated dangling : Bool} {seen : List (Flag × Bool)}
    {p : List (Flag × Bool) × Char × List Char}
    (h : flagChanges? negated dangling seen cs = some p) :
    rest p <:+ cs := by
  induction cs generalizing negated dangling seen with
  | nil => contradiction
  | cons c cs ih =>
    rw [flagChanges?] at h
    split at h
    · split at h
      · contradiction
      · obtain rfl := Option.some.inj h
        exact List.suffix_cons c cs
    · refine .trans ?_ (List.suffix_cons c cs)
      split at h
      · split at h
        · contradiction
        · exact ih h
      · split at h
        · contradiction
        · split at h
          · contradiction
          · exact ih h

lemma flagChanges?_agree (negated dangling : Bool) (seen : List (Flag × Bool)) (cs : List Char) :
    Agree (Within ['$']) (flagChanges? negated dangling seen cs)
      (flagChanges? negated dangling seen (cs ++ ending)) := by
  induction cs generalizing negated dangling seen with
  | nil =>
    refine .falls_short fun p hp => ?_
    cases dangling with
    | true => contradiction
    | false =>
      obtain rfl := Option.some.inj hp
      exact List.suffix_rfl
  | cons c cs ih =>
    rw [List.cons_append, flagChanges?, flagChanges?]
    split
    · split
      · exact .fails
      · exact .left_over (seen.reverse, c, cs)
    · split
      · split
        · exact .fails
        · exact ih ..
      · split
        · exact .fails
        · split
          · exact .fails
          · exact ih ..

lemma groupName?_suffix {p : List Char × List Char} (h : groupName? cs = some p) : p.2 <:+ cs := by
  have hs := List.dropWhile_suffix (l := cs) (· != '>')
  unfold groupName? at h
  split at h
  · rename_i more _ hd
    split at h
    · obtain rfl := Option.some.inj h
      rw [hd] at hs
      exact (List.suffix_cons _ more).trans hs
    · contradiction
  · contradiction

lemma groupName?_agree (cs : List Char) :
    Agree (fun _ => False) (groupName? cs) (groupName? (cs ++ ending)) := by
  unfold groupName?
  rcases h : cs.dropWhile (· != '>') with _ | ⟨d, more⟩
  · rw [dropWhile_ending (by rfl) h]
    cases cs.takeWhile (· != '>') <;> cases (cs ++ ending).takeWhile (· != '>') <;> exact .fails
  · obtain ⟨ht, hd⟩ := takeWhile_of_dropWhile (w := ending) h
    rw [ht, hd]
    cases cs.takeWhile (· != '>') with
    | nil => exact .fails
    | cons c name =>
      dsimp only
      split
      · exact .left_over (c :: name, more)
      · exact .fails

lemma openNamed?_suffix {p : Reading × List Char} (h : s.openNamed? cs = some p) : p.2 <:+ cs := by
  obtain ⟨⟨name, rest⟩, hn, h⟩ := Option.bind_eq_some_iff.mp h
  dsimp only at h
  split at h
  · contradiction
  · obtain rfl := Option.some.inj h
    exact groupName?_suffix hn

lemma openNamed?_agree (cs : List Char) :
    Agree (fun _ => False) (s.openNamed? cs) (s.openNamed? (cs ++ ending)) := by
  refine (groupName?_agree cs).then_read (g := fun name =>
    if s.names.contains name then none else some { s.openCapture with names := name :: s.names }) ?_
    fun _ _ _ h _ => h.elim
  rintro ⟨name, rest⟩
  dsimp only
  split
  · rfl
  · rfl

def flagGroup? (s : Reading) (p : List (Flag × Bool) × Char × List Char) :
    Option (Reading × List Char) :=
  if p.2.1 = ':' then some (s.openGroup (s.flags.setAll p.1), p.2.2)
  else if p.1.isEmpty then none
  else some ({ s with flags := s.flags.setAll p.1, level := s.level.push .flagChange }, p.2.2)

lemma flagGroup?_suffix {p : List (Flag × Bool) × Char × List Char} {q : Reading × List Char}
    (h : flagGroup? s p = some q) : q.2 = p.2.2 := by
  unfold flagGroup? at h
  split at h
  · obtain rfl := Option.some.inj h
    rfl
  · split at h
    · contradiction
    · obtain rfl := Option.some.inj h
      rfl

lemma flagGroup?_agree (p : List (Flag × Bool) × Char × List Char) :
    Agree (Within ['$']) (flagGroup? s p) (flagGroup? s (add p ending)) := by
  unfold flagGroup?
  simp only [add_pair]
  split
  · exact .left_over (_, p.2.2)
  · split
    · exact .fails
    · exact .left_over (_, p.2.2)

def groupAfter? (s : Reading) : List Char → Option (Reading × List Char)
  | '?' :: '=' :: _ | '?' :: '!' :: _ | '?' :: '<' :: '=' :: _ | '?' :: '<' :: '!' :: _ => none
  | '?' :: 'P' :: '<' :: cs => s.openNamed? cs
  | '?' :: '<' :: cs => s.openNamed? cs
  | '?' :: cs => flagChanges? false false [] cs >>= flagGroup? s
  | cs => some (s.openCapture, cs)

lemma group?_eq : s.group? cs = groupAfter? s (skip s.flags.verbose cs) := by
  unfold Reading.group? groupAfter?
  rfl

lemma groupAfter?_suffix {p : Reading × List Char} (h : groupAfter? s cs = some p) :
    p.2 <:+ cs := by
  unfold groupAfter? at h
  split at h
  · contradiction
  · contradiction
  · contradiction
  · contradiction
  · exact (openNamed?_suffix h).trans ⟨['?', 'P', '<'], rfl⟩
  · exact (openNamed?_suffix h).trans ⟨['?', '<'], rfl⟩
  · obtain ⟨q, hq, h⟩ := Option.bind_eq_some_iff.mp h
    rw [flagGroup?_suffix h]
    exact (flagChanges?_suffix hq).trans (List.suffix_cons _ _)
  · obtain rfl := Option.some.inj h
    exact List.suffix_rfl

lemma groupAfter?_of_ne (h : ∀ ds, cs ≠ '?' :: ds) : groupAfter? s cs = some (s.openCapture, cs) :=
  groupAfter?.eq_8 s cs (fun _ => h _) (fun _ => h _) (fun _ => h _) (fun _ => h _) (fun _ => h _)
    (fun _ => h _) h

lemma groupAfter?_agree (cs : List Char) :
    Agree (Within ['$']) (groupAfter? s cs) (groupAfter? s (cs ++ ending)) := by
  fun_cases groupAfter? s cs with
  | case1 => exact .fails
  | case2 => exact .fails
  | case3 => exact .fails
  | case4 => exact .fails
  | case5 cs => exact (openNamed?_agree cs).mono fun _ h => h.elim
  | case6 cs h₁ h₂ =>
    have he := groupAfter?.eq_6 s (cs ++ ending) (ne_cons_ending (by decide) h₁)
      (ne_cons_ending (by decide) h₂)
    rw [List.cons_append, List.cons_append, he]
    exact (openNamed?_agree cs).mono fun _ h => h.elim
  | case7 cs h₁ h₂ h₃ h₄ h₅ h₆ =>
    have he := groupAfter?.eq_7 s (cs ++ ending) (ne_cons_ending (by decide) h₁)
      (ne_cons_ending (by decide) h₂) (ne_cons_cons_ending (by decide) (by decide) h₃)
      (ne_cons_cons_ending (by decide) (by decide) h₄)
      (ne_cons_cons_ending (by decide) (by decide) h₅) (ne_cons_ending (by decide) h₆)
    rw [List.cons_append, he]
    refine (flagChanges?_agree false false [] cs).bind flagGroup?_agree ?_ ?_
    · intro p q h
      simp [flagGroup?_suffix h]
    · intro p q hp h
      unfold Within
      rw [rest_pair, flagGroup?_suffix h]
      exact hp
  | case8 _ _ _ _ _ _ _ h =>
    rw [groupAfter?_of_ne (ne_cons_ending (by decide) h)]
    exact .left_over (s.openCapture, cs)

lemma group?_suffix {p : Reading × List Char} (h : s.group? cs = some p) : p.2 <:+ cs := by
  rw [group?_eq] at h
  exact (groupAfter?_suffix h).trans (skip_suffix _ cs)

lemma group?_agree (cs : List Char) :
    Agree (Within ['$']) (s.group? cs) (s.group? (cs ++ ending)) := by
  rw [group?_eq, group?_eq]
  exact Agree.skipping (groupAfter?_agree _) fun _ _ => groupAfter?_suffix

/-! ### Repetitions -/

lemma countDigits_digit {c : Char} (h : c.isDigit = true) : countDigits v (c :: cs) =
    (c :: (countDigits v (skip v cs)).1, (countDigits v (skip v cs)).2) := by
  rw [countDigits, if_pos h]

lemma countDigits_of_not_digit {c : Char} (h : ¬c.isDigit = true) :
    countDigits v (c :: cs) = ([], c :: cs) := by
  rw [countDigits, if_neg h]

lemma countDigits_suffix (v : Bool) (cs : List Char) : (countDigits v cs).2 <:+ cs := by
  induction cs using countDigits.induct v with
  | case1 => rw [countDigits]
  | case2 c cs hc _ _ _ ih =>
    rw [countDigits_digit hc]
    exact ih.trans ((skip_suffix v cs).trans (List.suffix_cons c cs))
  | case3 c cs hc => rw [countDigits_of_not_digit hc]

lemma countDigits_agree (cs : List Char) :
    Agree (fun _ => False) (some (countDigits v cs)) (some (countDigits v (cs ++ ending))) := by
  induction cs using countDigits.induct v with
  | case1 =>
    rw [List.nil_append, ending, countDigits_of_not_digit (by decide), countDigits]
    exact .left_over ([], [])
  | case2 c cs hc _ _ _ ih =>
    rw [List.cons_append, countDigits_digit hc, countDigits_digit hc]
    have h := Agree.skipping (f := fun cs => some (countDigits v cs)) ih fun cs p hp => by
      obtain rfl := Option.some.inj hp
      exact countDigits_suffix v cs
    exact h.then_read (k := fun p => some (c :: p.1, p.2)) (g := fun ds => some (c :: ds))
      (fun _ => rfl) fun _ _ _ h _ => h.elim
  | case3 c cs hc =>
    rw [List.cons_append, countDigits_of_not_digit hc, countDigits_of_not_digit hc]
    exact .left_over ([], c :: cs)

lemma dropBlanks_ending (cs : List Char) :
    (cs ++ ending).dropWhile isBlank = cs.dropWhile isBlank ++ ending := by
  rw [List.dropWhile_append]
  split
  · rename_i h
    rw [List.isEmpty_iff.mp h]
    rfl
  · rfl

def numberOf? (p : List Char × List Char) : Option (ℕ × List Char) :=
  ((natural? p.1).filter (· < 1 <<< 32)).map (·, p.2.dropWhile isBlank)

lemma count?_eq : count? v cs = some (countDigits v (cs.dropWhile isBlank)) >>= numberOf? := by
  unfold count? numberOf?
  rcases countDigits v (cs.dropWhile isBlank) with ⟨digits, rest⟩
  dsimp only [Option.bind_eq_bind, Option.bind_some]
  cases (natural? digits).filter (· < 1 <<< 32) <;> rfl

lemma count?_suffix {p : ℕ × List Char} (h : count? v cs = some p) : p.2 <:+ cs := by
  rw [count?_eq] at h
  obtain ⟨n, -, rfl⟩ := Option.map_eq_some_iff.mp h
  exact (List.dropWhile_suffix _).trans ((countDigits_suffix v _).trans (List.dropWhile_suffix _))

lemma count?_agree (cs : List Char) :
    Agree (fun _ => False) (count? v cs) (count? v (cs ++ ending)) := by
  rw [count?_eq, count?_eq, dropBlanks_ending]
  refine (countDigits_agree _).bind (fun p => ?_) (fun p q h => ?_) nofun
  · unfold numberOf?
    rw [add_pair, add_list, dropBlanks_ending]
    exact .read_here _ _
  · obtain ⟨n, -, rfl⟩ := Option.map_eq_some_iff.mp h
    exact List.dropWhile_suffix _

def closeBounds? (least : ℕ) : ℕ × List Char → Option (ℕ × Option ℕ × List Char)
  | (most, '\x7d' :: rest) => if least ≤ most then some (least, some most, rest) else none
  | _ => none

def upperBound? (v : Bool) (least : ℕ) : List Char → Option (ℕ × Option ℕ × List Char)
  | '\x7d' :: rest => some (least, none, rest)
  | cs => count? v cs >>= closeBounds? least

def boundsAfter? (v : Bool) : ℕ × List Char → Option (ℕ × Option ℕ × List Char)
  | (least, '\x7d' :: rest) => some (least, some least, rest)
  | (least, ',' :: rest) => upperBound? v least (skip v rest)
  | _ => none

lemma bounds?_eq : bounds? v cs = count? v (skip v cs) >>= boundsAfter? v := by
  unfold bounds? boundsAfter? upperBound? closeBounds?
  refine bind_congr fun ⟨least, rest⟩ => ?_
  rcases rest with _ | ⟨c, rest⟩
  · rfl
  · by_cases hc : c = '\x7d'
    · subst hc
      rfl
    · by_cases hd : c = ','
      · subst hd
        change (match skip v rest with
          | '\x7d' :: rest => some (least, none, rest)
          | rest => count? v rest >>= fun p => _) = match skip v rest with
          | '\x7d' :: rest => some (least, none, rest)
          | rest => count? v rest >>= fun p => _
        split
        · rfl
        · rfl
      · simp [hc, hd]

lemma closeBounds?_suffix {least : ℕ} {p : ℕ × List Char} {q : ℕ × Option ℕ × List Char}
    (h : closeBounds? least p = some q) : rest q <:+ p.2 := by
  unfold closeBounds? at h
  split at h
  · split at h
    · obtain rfl := Option.some.inj h
      exact List.suffix_cons _ _
    · contradiction
  · contradiction

lemma closeBounds?_agree {least : ℕ} (p : ℕ × List Char) :
    Agree (fun _ => False) (closeBounds? least p) (closeBounds? least (add p ending)) := by
  obtain ⟨most, cs⟩ := p
  rcases cs with _ | ⟨c, cs⟩
  · exact .fails
  · by_cases hc : c = '\x7d'
    · subst hc
      simp only [add_pair, add_list, List.cons_append, closeBounds?]
      split
      · exact .left_over (least, some most, cs)
      · exact .fails
    · simpa [closeBounds?, hc] using Agree.fails

lemma upperBound?_suffix {least : ℕ} {q : ℕ × Option ℕ × List Char}
    (h : upperBound? v least cs = some q) : rest q <:+ cs := by
  unfold upperBound? at h
  split at h
  · obtain rfl := Option.some.inj h
    exact List.suffix_cons _ _
  · obtain ⟨p, hp, h⟩ := Option.bind_eq_some_iff.mp h
    exact (closeBounds?_suffix h).trans (count?_suffix hp)

lemma upperBound?_agree {least : ℕ} (cs : List Char) :
    Agree (fun _ => False) (upperBound? v least cs) (upperBound? v least (cs ++ ending)) := by
  have count (cs : List Char) : Agree (fun _ => False) (count? v cs >>= closeBounds? least)
      (count? v (cs ++ ending) >>= closeBounds? least) :=
    (count?_agree cs).bind closeBounds?_agree (fun _ _ => closeBounds?_suffix) nofun
  rcases cs with _ | ⟨c, cs⟩
  · exact count []
  · by_cases hc : c = '\x7d'
    · subst hc
      exact .left_over (least, none, cs)
    · simpa [upperBound?, hc] using count (c :: cs)

lemma boundsAfter?_suffix {p : ℕ × List Char} {q : ℕ × Option ℕ × List Char}
    (h : boundsAfter? v p = some q) : rest q <:+ p.2 := by
  unfold boundsAfter? at h
  split at h
  · obtain rfl := Option.some.inj h
    exact List.suffix_cons _ _
  · exact (upperBound?_suffix h).trans ((skip_suffix v _).trans (List.suffix_cons _ _))
  · contradiction

lemma boundsAfter?_agree (p : ℕ × List Char) :
    Agree (fun _ => False) (boundsAfter? v p) (boundsAfter? v (add p ending)) := by
  obtain ⟨least, cs⟩ := p
  rcases cs with _ | ⟨c, cs⟩
  · exact .fails
  · by_cases hc : c = '\x7d'
    · subst hc
      exact .left_over (least, some least, cs)
    · by_cases hd : c = ','
      · subst hd
        exact Agree.skipping (upperBound?_agree _) fun _ _ => upperBound?_suffix
      · simpa [boundsAfter?, hc, hd] using Agree.fails

lemma bounds?_suffix {q : ℕ × Option ℕ × List Char} (h : bounds? v cs = some q) :
    rest q <:+ cs := by
  rw [bounds?_eq] at h
  obtain ⟨p, hp, h⟩ := Option.bind_eq_some_iff.mp h
  exact (boundsAfter?_suffix h).trans ((count?_suffix hp).trans (skip_suffix v cs))

lemma bounds?_agree (cs : List Char) :
    Agree (fun _ => False) (bounds? v cs) (bounds? v (cs ++ ending)) := by
  rw [bounds?_eq, bounds?_eq]
  have count : Agree (fun _ => False) (count? v (skip v cs)) (count? v (skip v (cs ++ ending))) :=
    Agree.skipping (count?_agree _) fun _ _ => count?_suffix
  exact count.bind boundsAfter?_agree (fun _ _ => boundsAfter?_suffix) nofun

lemma repetition?_of_ne {least : ℕ} {most : Option ℕ} (h : ∀ ds, cs ≠ '?' :: ds) :
    s.repetition? least most cs = s.repeat? least most false >>= fun t => some (t, cs) :=
  Reading.repetition?.eq_2 s least most cs h

lemma repetition?_suffix {least : ℕ} {most : Option ℕ} {q : Reading × List Char}
    (h : s.repetition? least most cs = some q) : q.2 <:+ cs := by
  unfold Reading.repetition? at h
  split at h
  · obtain ⟨t, -, h⟩ := Option.bind_eq_some_iff.mp h
    obtain rfl := Option.some.inj h
    exact List.suffix_cons _ _
  · obtain ⟨t, -, h⟩ := Option.bind_eq_some_iff.mp h
    obtain rfl := Option.some.inj h
    exact List.suffix_rfl

lemma repetition?_agree {P : Reading × List Char → Prop} (least : ℕ) (most : Option ℕ)
    (cs : List Char) :
    Agree P (s.repetition? least most cs) (s.repetition? least most (cs ++ ending)) := by
  by_cases h : ∃ ds, cs = '?' :: ds
  · obtain ⟨ds, rfl⟩ := h
    exact .bind_here (s.repeat? least most true) fun t => (t, ds)
  · have h := not_exists.mp h
    rw [repetition?_of_ne h, repetition?_of_ne (ne_cons_ending (by decide) h)]
    exact .bind_here (s.repeat? least most false) fun t => (t, cs)

/-! ### Steps -/

lemma atom?_agree {P : Reading × List Char → Prop} (a : Atom) (cs : List Char) :
    Agree P (s.atom? a cs) (s.atom? a (cs ++ ending)) :=
  .bind_here (s.flags.atom? a) fun r => (s.push (.ofAtom r 0), cs)

lemma atom?_rest {a : Atom} {q : Reading × List Char} (h : s.atom? a cs = some q) :
    q.2 = cs ∧ q.1.flags = s.flags := by
  obtain ⟨r, -, h⟩ := Option.bind_eq_some_iff.mp h
  obtain rfl := Option.some.inj h
  exact ⟨rfl, rfl⟩

/-- What a step may do where its text is too short: it takes the closing parenthesis, or it leaves
a brace behind which there is nothing. -/
def PastStep (s : Reading) (q : Reading × List Char) : Prop :=
  Within ['$'] q ∨ q.1.flags = s.flags ∧ Atom.IsDangling s.flags.verbose q.2

lemma step?_suffix {q : Reading × List Char} (h : s.step? cs = some q) : q.2 <:+ cs.tail := by
  unfold Reading.step? at h
  split at h
  · contradiction
  · exact group?_suffix h
  · obtain ⟨t, -, h⟩ := Option.bind_eq_some_iff.mp h
    obtain rfl := Option.some.inj h
    exact List.suffix_rfl
  · obtain rfl := Option.some.inj h
    exact List.suffix_rfl
  · obtain ⟨⟨m, rest⟩, hm, h⟩ := Option.bind_eq_some_iff.mp h
    obtain rfl := Option.some.inj h
    exact read?_suffix hm
  · exact repetition?_suffix h
  · exact repetition?_suffix h
  · exact repetition?_suffix h
  · obtain ⟨⟨least, most, rest⟩, hb, h⟩ := Option.bind_eq_some_iff.mp h
    exact (repetition?_suffix h).trans ((skip_suffix _ rest).trans (bounds?_suffix hb))
  · exact (atom?_rest h).1 ▸ List.suffix_rfl
  · exact (atom?_rest h).1 ▸ List.suffix_rfl
  · exact (atom?_rest h).1 ▸ List.suffix_rfl
  · obtain ⟨⟨a, rest⟩, ha, h⟩ := Option.bind_eq_some_iff.mp h
    exact (atom?_rest h).1 ▸ Atom.escape?_suffix ha
  · exact (atom?_rest h).1 ▸ List.suffix_rfl

lemma step?_agree (cs : List Char) :
    Agree (PastStep s) (s.step? cs) (s.step? (cs ++ ending)) := by
  fun_cases s.step? cs with
  | case1 =>
    refine .falls_short fun q hq => .inl ?_
    obtain ⟨t, -, h⟩ := Option.bind_eq_some_iff.mp hq
    obtain rfl := Option.some.inj h
    exact List.suffix_rfl
  | case2 cs => exact (group?_agree cs).mono fun _ h => .inl h
  | case3 cs => exact .bind_here s.closeGroup? fun t => (t, cs)
  | case4 cs => exact .left_over ({ s with level := s.level.nextBranch }, cs)
  | case5 cs =>
    refine (read?_agree cs).then_read (g := fun m => some (s.push (.ofAtom (.chars m.set) m.depth)))
      (fun _ => rfl) fun _ _ _ h _ => h.elim
  | case6 cs => exact repetition?_agree 0 (some 1) cs
  | case7 cs => exact repetition?_agree 0 none cs
  | case8 cs => exact repetition?_agree 1 none cs
  | case9 cs =>
    refine (bounds?_agree cs).bind ?_ ?_ fun _ _ h _ => h.elim
    · rintro ⟨least, most, rest⟩
      exact Agree.skipping (repetition?_agree least most _) fun _ _ => repetition?_suffix
    · rintro ⟨least, most, rest⟩ q h
      exact (repetition?_suffix h).trans (skip_suffix _ rest)
  | case10 cs => exact atom?_agree .any cs
  | case11 cs => exact atom?_agree (.anchor .lineStart) cs
  | case12 cs => exact atom?_agree (.anchor .lineEnd) cs
  | case13 cs =>
    refine (Atom.escape?_agree cs).bind (fun p => atom?_agree p.1 p.2) ?_ ?_
    · intro p q h
      rw [rest_pair, (atom?_rest h).1]
      exact List.suffix_rfl
    · rintro ⟨a, rest⟩ q hp h
      obtain ⟨hr, hf⟩ := atom?_rest h
      unfold PastStep Within
      rw [rest_pair, hr]
      exact hp.imp_right fun hd => ⟨hf, hd.2⟩
  | case14 c cs h₁ h₂ h₃ h₄ h₅ h₆ h₇ h₈ h₉ h₁₀ h₁₁ h₁₂ =>
    rw [List.cons_append, Reading.step?.eq_14 s c _ h₁ h₂ h₃ h₄ h₅ h₆ h₇ h₈ h₉ h₁₀ h₁₁ h₁₂]
    exact atom?_agree (.char c) cs

end LayeredSchema.Pattern

import LayeredSchema.Pattern.Bracket
import LayeredSchema.Proofs.Pattern.Locality
import LayeredSchema.Proofs.Text.Blank

/-!
Classes in brackets before the ending of an anchored pattern: as it has no bracket in it, a class
that is not closed before it is not closed in it either.
-/

namespace LayeredSchema.Pattern.Bracket

open Text Leaves

variable {v : Bool} {cs ds : List Char} {f : Flags} {items : Items} {frames : List Frame}

lemma dropWhile_ending {q : Char → Bool} (hq : ending.all q = true)
    (h : cs.dropWhile q = []) : (cs ++ ending).dropWhile q = [] := by
  rw [List.dropWhile_append, h]
  simpa using hq

def namedAfterSign? (negated : Bool) (cs : List Char) : Option (CharSet × Bool × List Char) := do
  let s ← namedSets.lookup (String.ofList (cs.takeWhile (· != ':')))
  match cs.dropWhile (· != ':') with
  | ':' :: ']' :: rest => return (s, negated, rest)
  | _ => none

lemma namedAfterSign?_ending (negated : Bool) (cs : List Char) :
    namedAfterSign? negated (cs ++ ending) = (namedAfterSign? negated cs).map (add · ending) := by
  unfold namedAfterSign?
  rcases h : cs.dropWhile (· != ':') with _ | ⟨d, more⟩
  · rw [dropWhile_ending (by rfl) h]
    simp
  · obtain ⟨ht, hd⟩ := takeWhile_of_dropWhile (w := ending) h
    rw [ht, hd]
    cases namedSets.lookup (String.ofList (cs.takeWhile (· != ':'))) with
    | none => rfl
    | some s =>
      by_cases hc : d = ':'
      · subst hc
        rcases more with _ | ⟨e, rest⟩
        · rfl
        · by_cases he : e = ']'
          · subst he
            rfl
          · simp [he]
      · simp [hc]

lemma namedAfterSign?_suffix {negated : Bool} {p : CharSet × Bool × List Char}
    (h : namedAfterSign? negated cs = some p) : rest p <:+ cs := by
  obtain ⟨s, -, h⟩ := Option.bind_eq_some_iff.mp h
  have hs := List.dropWhile_suffix (l := cs) (· != ':')
  split at h
  · rename_i after he
    obtain rfl := Option.some.inj h
    rw [he] at hs
    exact ((List.suffix_cons ']' after).trans (List.suffix_cons ':' _)).trans hs
  · contradiction

lemma named?_negated (cs : List Char) : named? (':' :: '^' :: cs) = namedAfterSign? true cs := rfl

lemma named?_of_ne (h : ∀ ds, cs ≠ '^' :: ds) : named? (':' :: cs) = namedAfterSign? false cs :=
  named?.eq_2 cs h

lemma named?_ending (cs : List Char) : named? (cs ++ ending) = (named? cs).map (add · ending) := by
  rcases cs with _ | ⟨c, cs⟩
  · rfl
  · by_cases hc : c = ':'
    · subst hc
      rcases cs with _ | ⟨d, ds⟩
      · exact namedAfterSign?_ending false []
      · by_cases hd : d = '^'
        · subst hd
          exact namedAfterSign?_ending true ds
        · rw [named?_of_ne (by simp [hd]), ← namedAfterSign?_ending]
          exact named?_of_ne (by simp [hd])
    · simp [named?, hc]

lemma named?_suffix {p : CharSet × Bool × List Char} (h : named? cs = some p) : rest p <:+ cs := by
  rcases cs with _ | ⟨c, cs⟩
  · contradiction
  · by_cases hc : c = ':'
    · subst hc
      refine .trans ?_ (List.suffix_cons ':' cs)
      by_cases hd : ∃ ds, cs = '^' :: ds
      · obtain ⟨ds, rfl⟩ := hd
        exact (namedAfterSign?_suffix (named?_negated ds ▸ h)).trans (List.suffix_cons '^' ds)
      · exact namedAfterSign?_suffix (named?_of_ne (not_exists.mp hd) ▸ h)
    · simp [named?, hc] at h

lemma dropHyphens_hyphen (v : Bool) (cs : List Char) : dropHyphens v ('-' :: cs) =
    ((dropHyphens v (skip v cs)).1 + 1, (dropHyphens v (skip v cs)).2) := by
  rw [dropHyphens]

lemma dropHyphens_of_ne (h : ∀ ds, cs ≠ '-' :: ds) : dropHyphens v cs = (0, cs) :=
  dropHyphens.eq_2 v cs h

lemma dropHyphens_suffix (v : Bool) (cs : List Char) : (dropHyphens v cs).2 <:+ cs := by
  induction cs using dropHyphens.induct v with
  | case1 cs _ _ _ ih =>
    rw [dropHyphens_hyphen]
    exact ih.trans ((skip_suffix v cs).trans (List.suffix_cons '-' cs))
  | case2 cs h =>
    rw [dropHyphens_of_ne h]

lemma ne_cons_ending {c : Char} (hc : c ≠ ')') (h : ∀ es, ds ≠ c :: es) (es : List Char) :
    ds ++ ending ≠ c :: es := by
  cases ds with
  | nil => simp [ending, hc.symm]
  | cons d ds =>
    intro he
    exact h ds (by rw [(List.cons.inj he).1])

lemma dropHyphens_agree (cs : List Char) :
    Agree (fun _ => False) (some (dropHyphens v cs)) (some (dropHyphens v (cs ++ ending))) := by
  induction cs using dropHyphens.induct v with
  | case1 cs _ _ _ ih =>
    rw [List.cons_append, dropHyphens_hyphen, dropHyphens_hyphen]
    have h := Agree.skipping (f := fun cs => some (dropHyphens v cs)) ih fun cs p hp => by
      obtain rfl := Option.some.inj hp
      exact dropHyphens_suffix v cs
    exact h.then_read (k := fun p => some (p.1 + 1, p.2)) (g := fun n => some (n + 1))
      (fun _ => rfl) fun _ _ _ h _ => h.elim
  | case2 cs h =>
    rw [dropHyphens_of_ne h, dropHyphens_of_ne (ne_cons_ending (by decide) h)]
    exact .left_over (0, cs)

def itemsAfterHyphens? (negated : Bool) : ℕ × List Char → Option (Bool × Items × List Char)
  | (_, []) => none
  | (0, ']' :: rest) => some (negated, ({} : Items).add (.single ']') 0, rest)
  | (n, rest) =>
    some (negated, (List.replicate n '-').foldl (fun is c => is.add (.single c) 0) {}, rest)

lemma itemsAfterHyphens?_suffix {negated : Bool} {p : ℕ × List Char} {q : Bool × Items × List Char}
    (h : itemsAfterHyphens? negated p = some q) : rest q <:+ p.2 := by
  unfold itemsAfterHyphens? at h
  split at h
  · contradiction
  · obtain rfl := Option.some.inj h
    exact List.suffix_cons _ _
  · obtain rfl := Option.some.inj h
    exact List.suffix_rfl

lemma itemsAfterHyphens?_agree (negated : Bool) (p : ℕ × List Char) :
    Agree (Within ending) (itemsAfterHyphens? negated p)
      (itemsAfterHyphens? negated (add p ending)) := by
  obtain ⟨n, cs⟩ := p
  rcases cs with _ | ⟨c, cs⟩
  · refine .falls_short fun q hq => ?_
    exact itemsAfterHyphens?_suffix hq
  · by_cases hc : n = 0 ∧ c = ']'
    · obtain ⟨rfl, rfl⟩ := hc
      exact .left_over (negated, ({} : Items).add (.single ']') 0, cs)
    · have he (es : List Char) := itemsAfterHyphens?.eq_3 negated n (c :: es) (by simp)
        (by rintro ds rfl he; exact hc ⟨rfl, (List.cons.inj he).1⟩)
      rw [he cs]
      refine (he (cs ++ ending)).symm ▸ ?_
      exact .left_over (_, _, c :: cs)

def startAfterSign? (v negated : Bool) (cs : List Char) : Option (Bool × Items × List Char) :=
  some (dropHyphens v cs) >>= itemsAfterHyphens? negated

lemma startAfterSign?_suffix {negated : Bool} {p : Bool × Items × List Char}
    (h : startAfterSign? v negated cs = some p) : rest p <:+ cs :=
  (itemsAfterHyphens?_suffix h).trans (dropHyphens_suffix v cs)

lemma startAfterSign?_agree (negated : Bool) (cs : List Char) :
    Agree (Within ending) (startAfterSign? v negated cs)
      (startAfterSign? v negated (cs ++ ending)) :=
  (dropHyphens_agree cs).bind (itemsAfterHyphens?_agree negated)
    (fun _ _ h => itemsAfterHyphens?_suffix h) nofun

lemma start?_of_sign (h : skip v cs = '^' :: ds) :
    start? v cs = startAfterSign? v true (skip v ds) := by
  unfold start?
  rw [h]
  rfl

lemma start?_of_ne (h : ∀ ds, skip v cs ≠ '^' :: ds) :
    start? v cs = startAfterSign? v false (skip v cs) := by
  unfold start?
  split
  rename_i negated es he
  split at he
  · rename_i ds hs
    exact absurd hs (h ds)
  · obtain ⟨rfl, rfl⟩ := Prod.mk.inj he
    rfl

lemma start?_suffix {p : Bool × Items × List Char} (h : start? v cs = some p) : rest p <:+ cs := by
  refine .trans ?_ (skip_suffix v cs)
  by_cases hc : ∃ ds, skip v cs = '^' :: ds
  · obtain ⟨ds, hc⟩ := hc
    rw [start?_of_sign hc] at h
    rw [hc]
    exact (startAfterSign?_suffix h).trans ((skip_suffix v ds).trans (List.suffix_cons '^' ds))
  · exact startAfterSign?_suffix (start?_of_ne (not_exists.mp hc) ▸ h)

lemma start?_agree (cs : List Char) :
    Agree (Within ending) (start? v cs) (start? v (cs ++ ending)) := by
  refine Agree.of_skip (v := v) ?_ (fun _ _ => start?_suffix) fun he => ?_
  · intro cs ds h
    unfold start?
    rw [h]
  · by_cases hc : ∃ ds, skip v cs = '^' :: ds
    · obtain ⟨ds, hc⟩ := hc
      have hc' : skip v (cs ++ ending) = '^' :: (ds ++ ending) := by rw [he, hc, List.cons_append]
      rw [start?_of_sign hc, start?_of_sign hc']
      exact Agree.skipping (startAfterSign?_agree true _) fun _ _ => startAfterSign?_suffix
    · have hc := not_exists.mp hc
      rw [start?_of_ne hc, start?_of_ne (by rw [he]; exact ne_cons_ending (by decide) hc), he]
      exact startAfterSign?_agree false _

lemma atom?_suffix {p : Atom × List Char} (h : atom? v cs = some p) : p.2 <:+ cs := by
  unfold atom? at h
  split at h
  · contradiction
  · exact (Atom.escape?_suffix h).trans (List.suffix_cons _ _)
  · obtain rfl := Option.some.inj h
    exact List.suffix_cons _ _

lemma atom?_agree (cs : List Char) :
    Agree (Atom.PastEscape v) (atom? v cs) (atom? v (cs ++ ending)) := by
  rcases cs with _ | ⟨c, cs⟩
  · refine .falls_short fun p hp => .inl ?_
    obtain rfl := Option.some.inj hp
    exact List.suffix_rfl
  · by_cases hc : c = '\\'
    · subst hc
      exact Atom.escape?_agree cs
    · simpa [atom?, hc] using Agree.left_over (Atom.char c, cs)

lemma head?_dropWhile_ending (cs : List Char) :
    ((cs ++ ending).dropWhile isBlank).head? = (cs.dropWhile isBlank).head?.or (some ')') := by
  rcases h : cs.dropWhile isBlank with _ | ⟨c, ds⟩
  · rw [List.dropWhile_append, h]
    rfl
  · rw [(takeWhile_of_dropWhile (w := ending) h).2]
    rfl

lemma peek?_ending (cs : List Char) : peek? v (cs ++ ending) = (peek? v cs).or (some ')') := by
  cases v with
  | false => cases cs <;> rfl
  | true =>
    have hh := head?_dropWhile_ending cs
    unfold peek?
    rcases h : cs.dropWhile isBlank with _ | ⟨c, ds⟩
    · rw [List.dropWhile_append, h]
      rfl
    · rw [(takeWhile_of_dropWhile (w := ending) h).2]
      by_cases hc : c = '#'
      · subst hc
        exact head?_dropWhile_ending ds
      · simp [hc]

def rangeOf? (f : Flags) (first last : Atom) : Option CharSet :=
  match first, last with
  | .literal a _, .literal b _ => do
    let _ ← f.member? first
    let _ ← f.member? last
    if a ≤ b then return .range a b else none
  | _, _ => none

def endsItem (v : Bool) (cs : List Char) : Bool :=
  peek? v cs == some ']' || peek? v cs == some '-'

lemma endsItem_ending : endsItem v (cs ++ ending) = endsItem v cs := by
  unfold endsItem
  rw [peek?_ending]
  cases peek? v cs <;> rfl

def itemAfter? (f : Flags) (p : Atom × List Char) : Option (CharSet × List Char) :=
  match skip f.verbose p.2 with
  | [] => none
  | '-' :: rest =>
    if endsItem f.verbose rest then (f.member? p.1).map (·, p.2)
    else atom? f.verbose (skip f.verbose rest) >>= fun q => (rangeOf? f p.1 q.1).map (·, q.2)
  | _ => (f.member? p.1).map (·, p.2)

lemma rangeOf?_map (first last : Atom) (cs : List Char) :
    (match first, last with
    | .literal a _, .literal b _ => do
      let _ ← f.member? first
      let _ ← f.member? last
      if a ≤ b then return (.range a b, cs) else none
    | _, _ => none) = (rangeOf? f first last).map (·, cs) := by
  cases first with
  | literal a byte =>
    cases last with
    | literal b byte' =>
      simp only [rangeOf?]
      cases f.member? (.literal a byte) with
      | none => rfl
      | some s =>
        cases f.member? (.literal b byte') with
        | none => rfl
        | some t => by_cases h : a ≤ b <;> simp [h]
    | _ => rfl
  | _ => rfl

lemma item?_eq : item? f cs = atom? f.verbose cs >>= itemAfter? f := by
  unfold item? itemAfter?
  refine bind_congr fun ⟨first, rest⟩ => ?_
  rcases hs : skip f.verbose rest with _ | ⟨c, ds⟩
  · simp [hs]
  · by_cases hc : c = '-'
    · subst hc
      simp only [hs]
      by_cases hn : endsItem f.verbose ds = true
      · rw [if_pos hn]
        exact if_pos hn
      · rw [if_neg hn]
        refine (if_neg hn).trans (bind_congr fun ⟨last, rest⟩ => ?_)
        exact rangeOf?_map first last rest
    · simp [hs, hc]

def IsOpen {β : Type} [Leaves β] (v : Bool) (p : β) : Prop := ']' ∉ skip v (rest p)

lemma isOpen_of_suffix (h : cs <:+ ending) : ']' ∉ skip v cs := by
  intro hm
  have := h.subset ((skip_suffix v cs).subset hm)
  revert this
  decide

lemma itemAfter?_suffix {p : Atom × List Char} {q : CharSet × List Char}
    (h : itemAfter? f p = some q) : q.2 <:+ p.2 := by
  have hs := skip_suffix f.verbose p.2
  unfold itemAfter? at h
  split at h
  · contradiction
  · rename_i ds he
    split at h
    · obtain ⟨s, -, rfl⟩ := Option.map_eq_some_iff.mp h
      exact List.suffix_rfl
    · obtain ⟨r, hr, h⟩ := Option.bind_eq_some_iff.mp h
      obtain ⟨s, -, rfl⟩ := Option.map_eq_some_iff.mp h
      rw [he] at hs
      exact (atom?_suffix hr).trans ((skip_suffix _ ds).trans ((List.suffix_cons '-' ds).trans hs))
  · obtain ⟨s, -, rfl⟩ := Option.map_eq_some_iff.mp h
    exact List.suffix_rfl

lemma rangeOf?_boundary (a : Atom) : rangeOf? f a Atom.wordBoundary = none := by
  cases a <;> rfl

lemma itemAfter?_boundary : itemAfter? f (Atom.wordBoundary, cs) = none := by
  unfold itemAfter?
  split
  · rfl
  · split
    · rfl
    · exact Option.bind_eq_none_iff.mpr fun q hq => rfl
  · rfl

lemma itemAfter?_past {p : Atom × List Char} {q : CharSet × List Char}
    (hp : Atom.PastEscape f.verbose p) (h : itemAfter? f p = some q) : IsOpen f.verbose q := by
  rcases hp with hp | ⟨hb, -⟩
  · exact isOpen_of_suffix ((itemAfter?_suffix h).trans (hp.trans (List.suffix_cons ')' ['$'])))
  · obtain ⟨a, cs⟩ := p
    obtain rfl : a = _ := hb
    rw [itemAfter?_boundary] at h
    contradiction

lemma range_agree (a : Atom) (cs : List Char) :
    Agree (IsOpen f.verbose)
      (atom? f.verbose (skip f.verbose cs) >>= fun q => (rangeOf? f a q.1).map (·, q.2))
      (atom? f.verbose (skip f.verbose (cs ++ ending)) >>= fun q =>
        (rangeOf? f a q.1).map (·, q.2)) := by
  have h : Agree (Atom.PastEscape f.verbose) (atom? f.verbose (skip f.verbose cs))
      (atom? f.verbose (skip f.verbose (cs ++ ending))) :=
    Agree.skipping (atom?_agree _) fun _ _ => atom?_suffix
  refine h.then_read (fun _ => rfl) fun b s rest hp hb => ?_
  rcases hp with hp | ⟨rfl, -⟩
  · exact isOpen_of_suffix (hp.trans (List.suffix_cons ')' ['$']))
  · rw [rangeOf?_boundary] at hb
    contradiction

lemma itemAfter?_agree (p : Atom × List Char) :
    Agree (IsOpen f.verbose) (itemAfter? f p) (itemAfter? f (add p ending)) := by
  obtain ⟨a, cs⟩ := p
  unfold itemAfter?
  simp only [add_pair, add_list]
  rcases skip_ending f.verbose cs with he | ⟨hn, he⟩
  · rw [he]
    rcases hs : skip f.verbose cs with _ | ⟨c, ds⟩
    · refine .falls_short fun q hq => ?_
      obtain ⟨s, -, rfl⟩ := Option.map_eq_some_iff.mp hq
      rw [IsOpen, rest_pair, rest_list, he, hs]
      decide
    · by_cases hc : c = '-'
      · subst hc
        simp only [List.cons_append, endsItem_ending]
        split
        · exact .read_here (f.member? a) cs
        · exact range_agree a ds
      · simpa [hc] using Agree.read_here (f.member? a) cs
  · rw [hn, he]
    exact .fails

lemma item?_suffix {q : CharSet × List Char} (h : item? f cs = some q) : q.2 <:+ cs := by
  rw [item?_eq] at h
  obtain ⟨p, hp, h⟩ := Option.bind_eq_some_iff.mp h
  exact (itemAfter?_suffix h).trans (atom?_suffix hp)

lemma item?_agree (cs : List Char) :
    Agree (IsOpen f.verbose) (item? f cs) (item? f (cs ++ ending)) := by
  rw [item?_eq, item?_eq]
  exact (atom?_agree cs).bind itemAfter?_agree (fun _ _ => itemAfter?_suffix)
    fun _ _ => itemAfter?_past

lemma step?_suffix {q : State × List Char} (h : step? f items frames cs = some q) : q.2 <:+ cs := by
  unfold step? at h
  split at h
  · rename_i ds
    refine .trans ?_ (List.suffix_cons '[' ds)
    split at h
    · rename_i s negated rest hn
      obtain ⟨t, -, h⟩ := Option.bind_eq_some_iff.mp h
      obtain rfl := Option.some.inj h
      exact named?_suffix hn
    · obtain ⟨⟨negated, inner, rest⟩, hs, h⟩ := Option.bind_eq_some_iff.mp h
      obtain rfl := Option.some.inj h
      exact start?_suffix hs
  · obtain ⟨st, -, h⟩ := Option.bind_eq_some_iff.mp h
    obtain rfl := Option.some.inj h
    exact List.suffix_cons _ _
  · obtain rfl := Option.some.inj h
    exact (List.suffix_cons _ _).trans (List.suffix_cons _ _)
  · obtain rfl := Option.some.inj h
    exact (List.suffix_cons _ _).trans (List.suffix_cons _ _)
  · obtain rfl := Option.some.inj h
    exact (List.suffix_cons _ _).trans (List.suffix_cons _ _)
  · obtain ⟨⟨s, rest⟩, hi, h⟩ := Option.bind_eq_some_iff.mp h
    obtain rfl := Option.some.inj h
    exact item?_suffix hi

lemma beginOperand_ne_complete {op : Operation} {m : Measured} :
    beginOperand f op items frames ≠ .complete m :=
  nofun

lemma eq_of_complete {m : Measured} (h : step? f items frames cs = some (.complete m, ds)) :
    cs = ']' :: ds := by
  unfold step? at h
  split at h
  · split at h
    · obtain ⟨t, -, h⟩ := Option.bind_eq_some_iff.mp h
      exact nomatch Option.some.inj h
    · obtain ⟨p, hs, h⟩ := Option.bind_eq_some_iff.mp h
      exact nomatch Option.some.inj h
  · obtain ⟨st, -, h⟩ := Option.bind_eq_some_iff.mp h
    obtain ⟨-, rfl⟩ := Prod.mk.inj (Option.some.inj h)
    rfl
  · exact absurd (Prod.mk.inj (Option.some.inj h)).1 beginOperand_ne_complete
  · exact absurd (Prod.mk.inj (Option.some.inj h)).1 beginOperand_ne_complete
  · exact absurd (Prod.mk.inj (Option.some.inj h)).1 beginOperand_ne_complete
  · obtain ⟨p, hi, h⟩ := Option.bind_eq_some_iff.mp h
    exact nomatch Option.some.inj h

lemma ne_cons_cons_ending {c d : Char} (hc : c ≠ ')') (hd : d ≠ ')') (h : ∀ es, ds ≠ c :: d :: es)
    (es : List Char) : ds ++ ending ≠ c :: d :: es := by
  intro he
  rcases ds with _ | ⟨a, _ | ⟨b, ds⟩⟩
  · exact hc (List.cons.inj he).1.symm
  · exact hd (List.cons.inj (List.cons.inj he).2).1.symm
  · obtain ⟨hca, he'⟩ := List.cons.inj he
    obtain ⟨hdb, -⟩ := List.cons.inj he'
    exact h ds (by rw [hca, hdb])

/-- What a step may do where its text is too short: it neither closes a class nor leaves a bracket
that does. -/
def PastStep (v : Bool) (q : State × List Char) : Prop :=
  ']' ∉ skip v q.2 ∧ ∀ m, q.1 ≠ .complete m

lemma step?_agree (cs : List Char) :
    Agree (PastStep f.verbose) (step? f items frames cs) (step? f items frames (cs ++ ending)) := by
  fun_cases step? f items frames cs with
  | case1 cs s negated rest hn =>
    rw [List.cons_append, step?, named?_ending, hn]
    exact .bind_here _ fun t => (State.within (items.add t 0) frames, rest)
  | case2 cs hn =>
    rw [List.cons_append, step?, named?_ending, hn]
    refine (start?_agree cs).bind (fun p => .left_over _) ?_ ?_
    · rintro ⟨negated, inner, rest⟩ q h
      obtain rfl := Option.some.inj h
      exact List.suffix_rfl
    · rintro ⟨negated, inner, rest⟩ q hp h
      obtain rfl := Option.some.inj h
      exact ⟨isOpen_of_suffix hp, nofun⟩
  | case3 cs => exact .bind_here (close? f items frames) fun st => (st, cs)
  | case4 cs => exact .left_over (beginOperand f .intersection items frames, cs)
  | case5 cs => exact .left_over (beginOperand f .difference items frames, cs)
  | case6 cs => exact .left_over (beginOperand f .symmetricDifference items frames, cs)
  | case7 _ h₁ h₂ h₃ h₄ h₅ =>
    rw [step?.eq_6 f items frames (cs ++ ending) (ne_cons_ending (by decide) h₁)
      (ne_cons_ending (by decide) h₂) (ne_cons_cons_ending (by decide) (by decide) h₃)
      (ne_cons_cons_ending (by decide) (by decide) h₄)
      (ne_cons_cons_ending (by decide) (by decide) h₅)]
    refine (item?_agree cs).then_read (g := fun s => some (.within (items.add s 0) frames)) ?_ ?_
    · exact fun _ => rfl
    · intro s st rest hp hs
      obtain rfl := Option.some.inj hs
      exact ⟨hp, nofun⟩

lemma run?_of_open (h : ']' ∉ skip f.verbose cs) : run? f items frames cs = none := by
  induction items, frames, cs using run?.induct f with
  | case1 items frames cs hs => rw [run?, hs]
  | case2 items frames cs m rest hs =>
    rw [eq_of_complete hs] at h
    exact absurd List.mem_cons_self h
  | case3 items frames cs items' frames' rest hs hl ih =>
    rw [run?, hs]
    dsimp only
    rw [if_pos hl]
    exact ih fun hm => h ((step?_suffix hs).subset ((skip_suffix _ rest).subset hm))
  | case4 items frames cs items' frames' rest hs hl =>
    rw [run?, hs]
    exact if_neg hl

lemma run?_suffix {q : Measured × List Char} (h : run? f items frames cs = some q) :
    q.2 <:+ cs := by
  induction items, frames, cs using run?.induct f with
  | case1 items frames cs hs =>
    rw [run?, hs] at h
    contradiction
  | case2 items frames cs m rest hs =>
    rw [run?, hs] at h
    obtain rfl := Option.some.inj h
    exact (step?_suffix hs).trans (skip_suffix _ cs)
  | case3 items frames cs items' frames' rest hs hl ih =>
    rw [run?, hs] at h
    dsimp only at h
    rw [if_pos hl] at h
    exact (ih h).trans ((step?_suffix hs).trans (skip_suffix _ cs))
  | case4 items frames cs items' frames' rest hs hl =>
    rw [run?, hs] at h
    dsimp only at h
    rw [if_neg hl] at h
    contradiction

lemma run?_of_complete {m : Measured} {rest : List Char}
    (h : step? f items frames (skip f.verbose cs) = some (.complete m, rest)) :
    run? f items frames cs = some (m, rest) := by
  rw [run?, h]

lemma run?_of_within {items' : Items} {frames' : List Frame} {rest : List Char}
    (h : step? f items frames (skip f.verbose cs) = some (.within items' frames', rest)) :
    run? f items frames cs =
      if rest.length < cs.length then run? f items' frames' rest else none := by
  rw [run?, h]

lemma run?_of_stuck (h : step? f items frames (skip f.verbose cs) = none) :
    run? f items frames cs = none := by
  rw [run?, h]

lemma run?_agree (cs : List Char) :
    Agree (fun _ => False) (run? f items frames cs) (run? f items frames (cs ++ ending)) := by
  have run_nil (items : Items) (frames : List Frame) : run? f items frames [] = none :=
    run?_of_open (by simp)
  induction hn : cs.length using Nat.strong_induction_on generalizing items frames cs with
  | h n ih =>
    have step : Agree (PastStep f.verbose) (step? f items frames (skip f.verbose cs))
        (step? f items frames (skip f.verbose (cs ++ ending))) :=
      Agree.skipping (step?_agree _) fun _ _ => step?_suffix
    rcases step with ⟨⟨st, more⟩, hx, hy⟩ | ⟨⟨st, more⟩, hm, hx, hy⟩ | ⟨hx, hy⟩
    · cases st with
      | complete m =>
        rw [run?_of_complete hx, run?_of_complete hy]
        exact .left_over (m, more)
      | within items' frames' =>
        rw [run?_of_within hx, run?_of_within hy]
        by_cases hl : more.length < cs.length
        · rw [if_pos hl, if_pos (by simpa using hl)]
          exact ih more.length (hn ▸ hl) more rfl
        · rw [if_neg hl, if_neg (by simpa using hl)]
          exact .fails
    · obtain rfl : more = [] := hm
      cases st with
      | complete m =>
        rw [run?_of_complete hx, run?_of_complete hy]
        exact .of_nil fun p hp => by
          obtain rfl := Option.some.inj hp
          rfl
      | within items' frames' =>
        rw [run?_of_within hx, run?_of_within hy, run_nil, ite_self, ite_self]
        exact .fails
    · rw [run?_of_stuck hx]
      rcases hs : step? f items frames (skip f.verbose (cs ++ ending)) with _ | ⟨st, more⟩
      · rw [run?_of_stuck hs]
        exact .fails
      · obtain ⟨hm, hst⟩ := hy _ hs
        cases st with
        | complete m => exact absurd rfl (hst m)
        | within items' frames' =>
          rw [run?_of_within hs, run?_of_open hm, ite_self]
          exact .fails

lemma read?_suffix {q : Measured × List Char} (h : read? f cs = some q) : q.2 <:+ cs := by
  obtain ⟨⟨negated, items, rest⟩, hs, h⟩ := Option.bind_eq_some_iff.mp h
  exact (run?_suffix h).trans (start?_suffix hs)

lemma read?_agree (cs : List Char) :
    Agree (fun _ => False) (read? f cs) (read? f (cs ++ ending)) := by
  refine (start?_agree cs).bind ?_ ?_ ?_
  · exact fun _ => run?_agree _
  · exact fun _ _ => run?_suffix
  · rintro ⟨negated, items, rest⟩ q hp h
    have hn : run? f items [.bracket {} negated] rest = none := run?_of_open (isOpen_of_suffix hp)
    exact nomatch hn.symm.trans h

end LayeredSchema.Pattern.Bracket

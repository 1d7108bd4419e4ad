import LayeredSchema.Proofs.Condition.Slicing
import LayeredSchema.Proofs.Outcome
import Mathlib

/-!
What the tokens of a condition take of its text: each takes a word that is the token by itself, the
words follow each other, and only blanks are between them. Main statements: `spans_cuts`,
`Spanned.pairwise`, `Spanned.covers`.
-/

namespace LayeredSchema.Condition

open Text

variable {position n : ℕ} {c d : Char} {before cs rest text w : List Char} {t : Token} {e : Error}
  {ss : List Span}

section Words

structure IsWord (w : List Char) (t : Token) : Prop where
  reads : ∃ c cs, w = c :: cs ∧ isBlank c = false ∧ token 0 c cs = .ok (t, [])
  last : ∃ c, w.getLast? = some c ∧ isBlank c = false

lemma IsWord.ne_nil (h : IsWord w t) : w ≠ [] := by
  obtain ⟨c, cs, rfl, -⟩ := h.reads
  exact List.cons_ne_nil c cs

lemma IsWord.trim_eq (h : IsWord w t) : trim w = w := by
  obtain ⟨c, cs, rfl, hb, -⟩ := h.reads
  obtain ⟨d, hd, hl⟩ := h.last
  exact trim_eq_self (fun e he => Option.some.inj he ▸ hb) hd hl

lemma IsWord.tokens_eq (h : IsWord w t) : tokens 0 w = .ok [(0, t)] := by
  obtain ⟨c, cs, rfl, hb, ht⟩ := h.reads
  rw [tokens_cons_of_token hb ht, tokens_nil]
  rfl

lemma word_of_token (hb : isBlank c = false) (h : token position c cs = .ok (t, rest)) :
    ∃ w, c :: cs = w ++ rest ∧ IsWord w t := by
  obtain ⟨w, rfl, hw⟩ := spells_of_token h
  -- nothing stands behind the word when it is read by itself
  have ha : Spells c w t [] := hw.of_head fun d hd => absurd hd (Option.some_ne_none d).symm
  have ht := ha.token_eq 0
  rw [List.append_nil] at ht
  exact ⟨c :: w, rfl, ⟨c, w, rfl, hb, ht⟩, hw.last hb⟩

end Words

section Cutting

variable {x : Sliced (List Span)} {y : Except Error (List (ℕ × Token))}

inductive Spanned : ℕ → List Char → List Span → Prop
  | nil {position : ℕ} : Spanned position [] []
  | blank {position : ℕ} {c : Char} {cs : List Char} {ss : List Span} (hb : isBlank c = true)
      (h : Spanned (position + c.utf8Size) cs ss) : Spanned position (c :: cs) ss
  | word {position : ℕ} {w rest : List Char} {t : Token} {ss : List Span} (hw : IsWord w t)
      (h : Spanned (position + byteLength w) rest ss) :
      Spanned position (w ++ rest) (⟨position, position + byteLength w, t⟩ :: ss)

inductive Cuts (position : ℕ) (cs : List Char) :
    Sliced (List Span) → Except Error (List (ℕ × Token)) → Prop
  | ok {ss : List Span} (h : Spanned position cs ss) :
      Cuts position cs (pure ss) (.ok (ss.map Span.place))
  | error {e : Error} {u w : List Char} {c : Char} (hc : cs = u ++ c :: w)
      (hb : isBlank c = false) (he : e.IsAt (position + byteLength u) c) :
      Cuts position cs (throw e) (.error e)

lemma Cuts.blank (hb : isBlank c = true) (h : Cuts (position + c.utf8Size) cs x y) :
    Cuts position (c :: cs) x y := by
  cases h with
  | ok h => exact .ok (.blank hb h)
  | @error e u w d hc hd he =>
    refine .error (u := c :: u) (congrArg (c :: ·) hc) hd ?_
    rwa [byteLength_cons, ← Nat.add_assoc]

lemma Cuts.word (hw : IsWord w t) (h : Cuts (position + byteLength w) rest x y) :
    Cuts position (w ++ rest)
      (x >>= fun more => pure (⟨position, position + byteLength w, t⟩ :: more))
      (y.map ((position, t) :: ·)) := by
  cases h with
  | ok h => exact .ok (.word hw h)
  | @error e u v d hc hd he =>
    have hr : w ++ rest = (w ++ u) ++ d :: v := by rw [hc, List.append_assoc]
    refine .error hr hd ?_
    rwa [byteLength_append, ← Nat.add_assoc]

lemma follow_self (position : ℕ) (cs : List Char) :
    follow position position cs = (position, cs) := by
  cases cs with
  | nil => rfl
  | cons c cs => exact if_neg (Nat.lt_irrefl position)

lemma follow_word (position : ℕ) (w rest : List Char) :
    follow (position + byteLength w) position (w ++ rest) = (position + byteLength w, rest) := by
  induction w generalizing position with
  | nil => exact follow_self position rest
  | cons c w ih =>
    have hc := c.utf8Size_pos
    have hb : position + byteLength (c :: w) = position + c.utf8Size + byteLength w := by
      rw [byteLength_cons, Nat.add_assoc]
    rw [List.cons_append, follow, if_pos (by omega), hb, ih]

lemma spansFrom_word (hs : splitAtByte? position text = some (before, c :: cs))
    (hb : isBlank c = false)
    (ih : ∀ w rest, c :: cs = w ++ rest → w ≠ [] → Cuts (position + byteLength w) rest
      (spansFrom text n (position + byteLength w) rest) (tokens (position + byteLength w) rest)) :
    Cuts position (c :: cs) (spansFrom text (n + 1) position (c :: cs))
      (tokens position (c :: cs)) := by
  have ha := slicedToken_agrees position c cs
  rw [spansFrom, if_neg (by simp [hb]), hs, lift_bind]
  dsimp only
  cases ht : token position c cs with
  | error e =>
    rw [ht] at ha
    generalize slicedToken position c (c :: cs) = x at ha
    cases ha with
    | error he =>
      rw [tokens_cons_of_error hb ht]
      exact .error (u := []) rfl hb he
  | ok y =>
    obtain ⟨t, rest⟩ := y
    rw [ht] at ha
    generalize slicedToken position c (c :: cs) = x at ha
    cases ha with
    | @ok _ w _ hw =>
      -- the word that is cut out by its length is the one that is a token by itself
      obtain ⟨u, hu, hi⟩ := word_of_token hb ht
      obtain rfl : u = w := List.append_cancel_right (hu.symm.trans hw)
      have hd : byteLength (c :: cs) - byteLength rest = byteLength u := by
        rw [hw, byteLength_append, Nat.add_sub_cancel_right]
      rw [tokens_cons_of_token hb ht, hd, pure_bind, hw]
      dsimp only
      rw [follow_word]
      exact .word hi (ih u rest hw hi.ne_nil)

lemma spansFrom_cuts (before : List Char) (ht : text = before ++ cs) (hn : cs.length < n) :
    Cuts (byteLength before) cs (spansFrom text n (byteLength before) cs)
      (tokens (byteLength before) cs) := by
  -- on the rounds that are left, which are more than the characters behind `before`
  induction n generalizing before cs with
  | zero => exact absurd hn (Nat.not_lt_zero _)
  | succ n ih =>
    cases cs with
    | nil =>
      rw [tokens_nil]
      exact .ok .nil
    | cons c cs =>
      cases hb : isBlank c with
      | true =>
        have hi := ih (before ++ [c]) (by simp [ht]) (Nat.lt_of_succ_lt_succ hn)
        have hc : byteLength (before ++ [c]) = byteLength before + c.utf8Size :=
          byteLength_append before [c]
        rw [hc] at hi
        rw [spansFrom, if_pos hb, tokens_cons_blank hb]
        exact hi.blank hb
      | false =>
        refine spansFrom_word (ht ▸ splitAtByte?_append before (c :: cs)) hb ?_
        intro w rest hw hne
        rw [← byteLength_append]
        apply ih
        · rw [ht, hw, List.append_assoc]
        · have hl := congrArg List.length hw
          have hp := List.length_pos_iff.mpr hne
          rw [List.length_append] at hl
          omega

lemma spans_cuts (text : List Char) : Cuts 0 text (spans text) (tokens 0 text) :=
  spansFrom_cuts [] rfl (Nat.lt_succ_self _)

end Cutting

section Covering

variable {s : Span} {u v : List Char}

def Span.Holds (s : Span) (i : ℕ) (c : Char) : Prop := s.start ≤ i ∧ i + c.utf8Size ≤ s.stop

def Span.Avoids (s : Span) (i : ℕ) (c : Char) : Prop := i + c.utf8Size ≤ s.start ∨ s.stop ≤ i

lemma Spanned.exists_word (h : Spanned position cs ss) (hs : s ∈ ss) :
    ∃ u w v, cs = u ++ (w ++ v) ∧ IsWord w s.token ∧ s.start = position + byteLength u ∧
      s.stop = position + byteLength u + byteLength w := by
  induction h with
  | nil => contradiction
  | @blank position c cs ss _ _ ih =>
    obtain ⟨u, w, v, rfl, hw, hi, hj⟩ := ih hs
    refine ⟨c :: u, w, v, rfl, hw, ?_, ?_⟩
    · rw [hi, byteLength_cons, Nat.add_assoc]
    · rw [hj, byteLength_cons, ← Nat.add_assoc position]
  | @word position w rest t ss hw _ ih =>
    rcases List.mem_cons.mp hs with rfl | hs
    · exact ⟨[], w, rest, rfl, hw, rfl, rfl⟩
    · obtain ⟨u, w', v, rfl, hw, hi, hj⟩ := ih hs
      refine ⟨w ++ u, w', v, (List.append_assoc w u _).symm, hw, ?_, ?_⟩
      · rw [hi, byteLength_append, Nat.add_assoc]
      · rw [hj, byteLength_append, ← Nat.add_assoc position]

lemma Spanned.le_start (h : Spanned position cs ss) (hs : s ∈ ss) : position ≤ s.start := by
  obtain ⟨u, w, v, -, -, hi, -⟩ := h.exists_word hs
  exact hi ▸ Nat.le_add_right position _

lemma Spanned.pairwise (h : Spanned position cs ss) : ss.Pairwise fun s t => s.stop ≤ t.start := by
  induction h with
  | nil => exact .nil
  | blank _ _ ih => exact ih
  | word _ h ih => exact .cons (fun t ht => h.le_start ht) ih

lemma append_eq_split (h : w ++ rest = u ++ c :: v) :
    (∃ w', w = u ++ c :: w') ∨ ∃ u', u = w ++ u' ∧ rest = u' ++ c :: v := by
  rcases List.append_eq_append_iff.mp h with hr | ⟨_ | ⟨d, w'⟩, rfl, hr⟩
  · exact Or.inr hr
  · exact Or.inr ⟨[], by simp, hr.symm⟩
  · obtain ⟨rfl, -⟩ := List.cons.inj hr
    exact Or.inl ⟨w', rfl⟩

lemma Spanned.covers (h : Spanned position cs ss) (hc : cs = u ++ c :: v) :
    (∃ s ∈ ss, s.Holds (position + byteLength u) c) ∨
      isBlank c = true ∧ ∀ s ∈ ss, s.Avoids (position + byteLength u) c := by
  induction h generalizing u with
  | nil => exact absurd hc (by simp)
  | @blank position d cs ss hb h ih =>
    cases u with
    | nil =>
      obtain ⟨rfl, rfl⟩ := List.cons.inj hc
      exact Or.inr ⟨hb, fun s hs => Or.inl (h.le_start hs)⟩
    | cons e u =>
      obtain ⟨rfl, hr⟩ := List.cons.inj (hc : d :: cs = e :: (u ++ c :: v))
      rw [byteLength_cons, ← Nat.add_assoc]
      exact ih hr
  | @word position w rest t ss hw h ih =>
    rcases append_eq_split hc with ⟨w', rfl⟩ | ⟨u, rfl, hr⟩
    · refine Or.inl ⟨_, List.mem_cons_self, Nat.le_add_right _ _, ?_⟩
      dsimp only
      rw [byteLength_append, byteLength_cons]
      omega
    · rw [byteLength_append, ← Nat.add_assoc]
      rcases ih hr with ⟨s, hs, hh⟩ | ⟨hb, ha⟩
      · exact Or.inl ⟨s, List.mem_cons_of_mem _ hs, hh⟩
      · exact Or.inr ⟨hb, List.forall_mem_cons.mpr ⟨Or.inr (Nat.le_add_right _ _), ha⟩⟩

lemma tokens_eq_nil_iff (position : ℕ) :
    tokens position cs = .ok [] ↔ ∀ c ∈ cs, isBlank c = true := by
  induction cs generalizing position with
  | nil => simp [tokens_nil]
  | cons c cs ih =>
    rw [List.forall_mem_cons]
    cases hb : isBlank c with
    | true =>
      rw [tokens_cons_blank hb, ih]
      exact (and_iff_right rfl).symm
    | false =>
      refine iff_of_false (fun h => ?_) fun h => Bool.false_ne_true h.1
      cases ht : token position c cs with
      | error e =>
        rw [tokens_cons_of_error hb ht] at h
        contradiction
      | ok y =>
        rw [tokens_cons_of_token hb ht] at h
        obtain ⟨qs, -, hq⟩ := Outcome.map_ok_iff.mp h
        contradiction

end Covering

end LayeredSchema.Condition

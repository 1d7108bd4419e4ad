import LayeredSchema.Condition.Token
import LayeredSchema.Proofs.Outcome
import LayeredSchema.Proofs.Text.Blank
import Mathlib

/-!
Tokens of conditions: the forms they are written in, and what a text is cut into, which does not
depend on its place, nor on what follows it behind a blank. Main statements: `spells_of_token`,
`Spells.token_eq`, `Tokenizes.append`.
-/

namespace LayeredSchema.Condition

open Text

variable {position : ℕ} {c d : Char} {cs rest more : List Char} {t : Token}
  {ts us : List Token} {v : Json}

lemma isBlank_of_isAlphanum (h : c.isAlphanum = true) : isBlank c = false := by
  simp only [Char.isAlphanum, Char.isAlpha, Char.isUpper, Char.isLower, Char.isDigit,
    Bool.or_eq_true, Bool.and_eq_true, decide_eq_true_eq, ge_iff_le, UInt32.le_iff_toNat_le] at h
  simp only [Char.reduceVal, UInt32.reduceToNat] at h
  have hc : c.toNat = c.val.toNat := rfl
  simp only [isBlank, Bool.or_eq_false_iff, Bool.and_eq_false_iff, decide_eq_false_iff_not,
    beq_eq_false_iff_ne]
  omega

lemma isBlank_of_isNumberChar (h : isNumberChar c = true) : isBlank c = false := by
  simp only [isNumberChar, Bool.or_eq_true, beq_iff_eq] at h
  rcases h with ((((h | rfl) | rfl) | rfl) | rfl) | rfl
  · exact isBlank_of_isDigit h
  all_goals rfl

lemma isBlank_of_pair? (h : pair? c d = some t) : isBlank d = false := by
  unfold pair? at h
  split at h
  all_goals first | contradiction | rfl

section Runs

variable {p : Char → Bool} {run : List Char}

structure IsRun (p : Char → Bool) (run rest : List Char) : Prop where
  all : ∀ d ∈ run, p d = true
  ends : ∀ d, rest.head? = some d → p d = false

lemma isRun_takeWhile (p : Char → Bool) (cs : List Char) :
    IsRun p (cs.takeWhile p) (cs.dropWhile p) where
  all d hd := List.mem_takeWhile_imp hd
  ends d hd := by
    have h := List.head?_dropWhile_not p cs
    rwa [hd] at h

lemma IsRun.takeWhile_eq (h : IsRun p run rest) : (run ++ rest).takeWhile p = run :=
  takeWhile_append h.all h.ends

lemma IsRun.dropWhile_eq (h : IsRun p run rest) : (run ++ rest).dropWhile p = rest :=
  dropWhile_append h.all h.ends

lemma IsRun.of_head (h : IsRun p run rest) (hp : ∀ d, p d = true → isBlank d = false)
    (hm : ∀ d, more.head? = some d → rest.head? = some d ∨ isBlank d = true) :
    IsRun p run more where
  all := h.all
  ends d hd := by
    rcases hm d hd with hr | hb
    · exact h.ends d hr
    · exact Bool.eq_false_iff.mpr fun ht => Bool.false_ne_true ((hp d ht).symm.trans hb)

lemma IsRun.last (h : IsRun p run rest) (hp : ∀ d, p d = true → isBlank d = false)
    (hc : isBlank c = false) : ∃ d, (c :: run).getLast? = some d ∧ isBlank d = false := by
  refine ⟨_, List.getLast?_eq_some_getLast (List.cons_ne_nil c run), ?_⟩
  rcases List.mem_cons.mp (List.getLast_mem (List.cons_ne_nil c run)) with hl | hl
  · rwa [hl]
  · exact hp _ (h.all _ hl)

end Runs

/-- The characters that make a token: the first, those after it, and what may stand behind them. -/
inductive Spells : Char → List Char → Token → List Char → Prop
  | pair {c d : Char} {t : Token} {rest : List Char} (h : pair? c d = some t) :
      Spells c [d] t rest
  | sign {c : Char} {t : Token} {rest : List Char} (h : sign? c = some t)
      (hr : rest.head?.bind (pair? c) = none) : Spells c [] t rest
  | named {name rest : List Char} (hi : '\x7d' ∉ name) (hn : (trim name).isEmpty = false) :
      Spells '$' ('\x7b' :: (name ++ ['\x7d'])) (.variable (String.ofList (trim name))) rest
  | string {c : Char} {inside rest : List Char} (hc : c = '\'' ∨ c = '"') (hi : c ∉ inside) :
      Spells c (inside ++ [c]) (.literal (.string (String.ofList inside))) rest
  | number {c : Char} {run rest : List Char} {x : Double}
      (hc : c.isDigit = true ∨ c = '-' ∨ c = '.') (hx : number? (c :: run) = some x)
      (hr : IsRun isNumberChar run rest) : Spells c run (.literal (.number (.double x))) rest
  | word {c : Char} {run rest : List Char} {v : Json} (hv : word? (c :: run) = some v)
      (hr : IsRun Char.isAlphanum run rest) : Spells c run (.literal v) rest

section Spelling

variable {w : List Char}

lemma eq_append_of_dropWhile (h : cs.dropWhile (· != c) = d :: rest) :
    cs = cs.takeWhile (· != c) ++ c :: rest ∧ c ∉ cs.takeWhile (· != c) := by
  have hr := isRun_takeWhile (· != c) cs
  rw [h] at hr
  obtain rfl : d = c := by simpa using hr.ends d rfl
  exact ⟨h ▸ List.takeWhile_append_dropWhile.symm, fun hm => by simpa using hr.all d hm⟩

lemma spells_of_symbol? (h : symbol? c cs = some (t, rest)) :
    ∃ w, cs = w ++ rest ∧ Spells c w t rest := by
  unfold symbol? at h
  cases hp : cs.head?.bind (pair? c) with
  | some u =>
    rw [hp] at h
    obtain ⟨rfl, rfl⟩ := Prod.mk.inj (Option.some.inj h)
    obtain ⟨d, hd, hc⟩ := Option.bind_eq_some_iff.mp hp
    obtain ⟨cs, rfl⟩ := List.head?_eq_some_iff.mp hd
    exact ⟨[d], rfl, .pair hc⟩
  | none =>
    rw [hp] at h
    obtain ⟨u, hs, h⟩ := Option.map_eq_some_iff.mp h
    obtain ⟨rfl, rfl⟩ := Prod.mk.inj h
    exact ⟨[], rfl, .sign hs hp⟩

lemma spells_of_variableToken (h : variableToken position cs = .ok (t, rest)) :
    ∃ w, cs = w ++ rest ∧ Spells '$' w t rest := by
  unfold variableToken at h
  split at h
  · dsimp only at h
    split at h
    · contradiction
    · rename_i hd
      split at h
      · contradiction
      · rename_i hn
        obtain ⟨rfl, rfl⟩ := Prod.mk.inj (Except.ok.inj h)
        obtain ⟨hs, hi⟩ := eq_append_of_dropWhile hd
        refine ⟨_, ?_, .named hi (Bool.eq_false_iff.mpr hn)⟩
        rw [List.cons_append, List.append_assoc]
        exact congrArg _ hs
  · contradiction

lemma spells_of_literalToken (h : literalToken position c cs = .ok (t, rest)) :
    ∃ w, cs = w ++ rest ∧ Spells c w t rest := by
  unfold literalToken at h
  split at h
  · rename_i hc
    split at h
    · contradiction
    · rename_i hd
      obtain ⟨rfl, rfl⟩ := Prod.mk.inj (Except.ok.inj h)
      obtain ⟨hs, hi⟩ := eq_append_of_dropWhile hd
      refine ⟨_, ?_, .string (by simpa using hc) hi⟩
      rwa [List.append_assoc]
  split at h
  · rename_i hc
    split at h
    · rename_i hx
      obtain ⟨rfl, rfl⟩ := Prod.mk.inj (Except.ok.inj h)
      exact ⟨_, List.takeWhile_append_dropWhile.symm,
        .number (by simpa [or_assoc] using hc) hx (isRun_takeWhile _ _)⟩
    · contradiction
  · split at h
    · rename_i hv
      obtain ⟨rfl, rfl⟩ := Prod.mk.inj (Except.ok.inj h)
      exact ⟨_, List.takeWhile_append_dropWhile.symm, .word hv (isRun_takeWhile _ _)⟩
    · contradiction

lemma spells_of_token (h : token position c cs = .ok (t, rest)) :
    ∃ w, cs = w ++ rest ∧ Spells c w t rest := by
  unfold token at h
  split at h
  · rename_i hs
    exact spells_of_symbol? (hs.trans (congrArg some (Except.ok.inj h)))
  · split at h
    · rename_i hc
      exact hc ▸ spells_of_variableToken h
    · exact spells_of_literalToken h

lemma symbol?_eq_none (h : c ∉ ['&', '|', '=', '!', '>', '<']) (cs : List Char) :
    symbol? c cs = none := by
  have hp : ∀ d, pair? c d = none := fun d => by
    unfold pair?
    split <;> simp_all
  have hs : sign? c = none := by
    unfold sign?
    split <;> simp_all
  rw [symbol?, hs]
  cases cs with
  | nil => rfl
  | cons d cs => rw [List.head?_cons, Option.bind_some, hp]; rfl

lemma token_of_literal (h : c ∉ ['&', '|', '=', '!', '>', '<', '$']) (position : ℕ)
    (cs : List Char) : token position c cs = literalToken position c cs := by
  rw [token, symbol?_eq_none (by simp_all)]
  exact if_neg (by simp_all)

lemma first_of_word? (h : word? (c :: cs) = some v) : c = 't' ∨ c = 'f' ∨ c = 'n' := by
  unfold word? at h
  split at h
  all_goals simp_all

lemma Spells.token_eq (h : Spells c w t rest) (position : ℕ) :
    token position c (w ++ rest) = .ok (t, rest) := by
  cases h with
  | pair h =>
    rw [token, symbol?, List.singleton_append, List.head?_cons, Option.bind_some, h]
    rfl
  | sign h hr =>
    rw [token, symbol?, List.nil_append, hr, h]
    rfl
  | @named name _ hi hn =>
    obtain ⟨ht, hd⟩ := takeWhile_closing hi rest
    rw [token, symbol?_eq_none (by decide), List.cons_append, List.append_assoc,
      List.singleton_append]
    dsimp only
    rw [if_pos rfl, variableToken, ht, hd]
    exact if_neg (Bool.eq_false_iff.mp hn)
  | @string _ inside _ hc hi =>
    obtain ⟨ht, hd⟩ := takeWhile_closing hi rest
    rw [token_of_literal (by rcases hc with rfl | rfl <;> decide), literalToken,
      if_pos (by simpa using hc), List.append_assoc, List.singleton_append, ht, hd]
  | number hc hx hr =>
    have hs : ∀ d ∈ ['&', '|', '=', '!', '>', '<', '$', '\'', '"'],
        ¬(d.isDigit = true ∨ d = '-' ∨ d = '.') := by simp
    have hn : c ∉ ['&', '|', '=', '!', '>', '<', '$', '\'', '"'] := fun hm => hs c hm hc
    rw [token_of_literal (by simp_all), literalToken, if_neg (by simp_all),
      if_pos (by simpa [or_assoc] using hc), hr.takeWhile_eq, hr.dropWhile_eq, hx]
  | word hv hr =>
    have hc := first_of_word? hv
    rw [token_of_literal (by rcases hc with rfl | rfl | rfl <;> decide), literalToken,
      if_neg (by rcases hc with rfl | rfl | rfl <;> decide),
      if_neg (by rcases hc with rfl | rfl | rfl <;> decide), hr.takeWhile_eq, hr.dropWhile_eq, hv]

end Spelling

lemma Spells.of_head (h : Spells c w t rest)
    (hm : ∀ d, more.head? = some d → rest.head? = some d ∨ isBlank d = true) :
    Spells c w t more := by
  cases h with
  | pair h => exact .pair h
  | named hi hn => exact .named hi hn
  | string hc hi => exact .string hc hi
  | number hc hx hr => exact .number hc hx (hr.of_head (fun d => isBlank_of_isNumberChar) hm)
  | word hv hr => exact .word hv (hr.of_head (fun d => isBlank_of_isAlphanum) hm)
  | sign h hr =>
    refine .sign h (Option.bind_eq_none_iff.mpr fun d hd => ?_)
    rcases hm d hd with hd | hb
    · exact Option.bind_eq_none_iff.mp hr d hd
    · exact Option.eq_none_iff_forall_ne_some.mpr fun u hu =>
        Bool.false_ne_true ((isBlank_of_pair? hu).symm.trans hb)

lemma Spells.last (h : Spells c w t rest) (hc : isBlank c = false) :
    ∃ d, (c :: w).getLast? = some d ∧ isBlank d = false := by
  cases h with
  | pair h => exact ⟨_, rfl, isBlank_of_pair? h⟩
  | sign => exact ⟨c, rfl, hc⟩
  | @named name => exact ⟨'\x7d', List.getLast?_concat (l := '$' :: '\x7b' :: name), rfl⟩
  | @string _ inside => exact ⟨c, List.getLast?_concat (l := c :: inside), hc⟩
  | number _ _ hr => exact hr.last (fun d => isBlank_of_isNumberChar) hc
  | word _ hr => exact hr.last (fun d => isBlank_of_isAlphanum) hc

lemma token_append (h : token position c cs = .ok (t, rest)) :
    token position c (cs ++ ' ' :: more) = .ok (t, rest ++ ' ' :: more) := by
  obtain ⟨w, rfl, hw⟩ := spells_of_token h
  rw [List.append_assoc]
  refine (hw.of_head fun d hd => ?_).token_eq position
  cases rest with
  | nil => exact Or.inr (Option.some.inj hd ▸ rfl)
  | cons e rest => exact Or.inl hd

lemma token_congr (h : token position c cs = .ok (t, rest)) (position' : ℕ) :
    token position' c cs = .ok (t, rest) := by
  obtain ⟨w, rfl, hw⟩ := spells_of_token h
  exact hw.token_eq position'

inductive Tokenizes : List Char → List Token → Prop
  | nil : Tokenizes [] []
  | blank {c : Char} {cs : List Char} {ts : List Token} :
      isBlank c = true → Tokenizes cs ts → Tokenizes (c :: cs) ts
  | token {c : Char} {cs rest : List Char} {t : Token} {ts : List Token} :
      isBlank c = false → (∀ position, token position c cs = .ok (t, rest)) →
        Tokenizes rest ts → Tokenizes (c :: cs) (t :: ts)

lemma tokens_nil (position : ℕ) : tokens position [] = .ok [] := by
  rw [tokens.eq_def]

lemma tokens_cons (position : ℕ) (c : Char) (cs : List Char) : tokens position (c :: cs) =
    if isBlank c then tokens (position + c.utf8Size) cs
    else
      match token position c cs with
      | .error e => .error e
      | .ok (t, rest) =>
        (tokens (position + (byteLength (c :: cs) - byteLength rest)) rest).map
          ((position, t) :: ·) := by
  rw [tokens.eq_def]
  refine if_congr Iff.rfl rfl ?_
  split <;> simp only [*]

lemma tokens_cons_blank (h : isBlank c = true) :
    tokens position (c :: cs) = tokens (position + c.utf8Size) cs := by
  rw [tokens_cons, if_pos h]

lemma tokens_cons_of_error {e : Error} (hb : isBlank c = false)
    (h : token position c cs = .error e) : tokens position (c :: cs) = .error e := by
  rw [tokens_cons, if_neg (Bool.eq_false_iff.mp hb), h]

lemma tokens_cons_of_token (hb : isBlank c = false) (h : token position c cs = .ok (t, rest)) :
    tokens position (c :: cs) = (tokens (position + (byteLength (c :: cs) - byteLength rest))
      rest).map ((position, t) :: ·) := by
  rw [tokens_cons, if_neg (Bool.eq_false_iff.mp hb), h]

lemma tokenizes_iff (position : ℕ) :
    Tokenizes cs ts ↔ ∃ ps, tokens position cs = .ok ps ∧ ps.map Prod.snd = ts := by
  constructor
  · intro h
    induction h generalizing position with
    | nil => exact ⟨[], tokens_nil position, rfl⟩
    | @blank c cs ts hb _ ih =>
      rw [tokens_cons_blank hb]
      exact ih _
    | @token c cs rest t ts hb ht _ ih =>
      obtain ⟨ps, hp, rfl⟩ := ih (position + (byteLength (c :: cs) - byteLength rest))
      refine ⟨(position, t) :: ps, ?_, rfl⟩
      rw [tokens_cons_of_token hb (ht position), hp]
      rfl
  · rintro ⟨ps, h, rfl⟩
    induction position, cs using tokens.induct generalizing ps with
    | case1 =>
      rw [tokens_nil] at h
      obtain rfl := Except.ok.inj h
      exact .nil
    | case2 position c cs hb ih =>
      rw [tokens_cons_blank hb] at h
      exact .blank hb (ih ps h)
    | case3 position c cs hb e he =>
      rw [tokens_cons_of_error (Bool.eq_false_iff.mpr hb) he] at h
      contradiction
    | case4 position c cs hb t rest ht _ ih =>
      have hb := Bool.eq_false_iff.mpr hb
      rw [tokens_cons_of_token hb ht] at h
      obtain ⟨qs, hq, rfl⟩ := Outcome.map_ok_iff.mp h
      exact .token hb (token_congr ht) (ih qs hq)

lemma Tokenizes.append (hs : Tokenizes cs ts) (hm : Tokenizes more us) :
    Tokenizes (cs ++ ' ' :: more) (ts ++ us) := by
  induction hs with
  | nil => exact .blank rfl hm
  | blank hb _ ih => exact .blank hb ih
  | token hb ht _ ih => exact .token hb (fun position => token_append (ht position)) ih

end LayeredSchema.Condition

import LayeredSchema.Condition.Basic
import LayeredSchema.Proofs.Condition.Token
import Mathlib

/-!
Conditions and their texts: a text is a condition if its tokens are comparisons that are joined by
`&&` to clauses, and those by `||`. Two conditions can be joined in their texts.
-/

namespace LayeredSchema

def Operand.token : Operand → Condition.Token
  | .variable name => .variable name
  | .literal v => .literal v

def Comparison.tokens (c : Comparison) : List Condition.Token :=
  [c.left.token, .operator c.op, c.right.token]

namespace Condition

variable {l o r : ℕ × Token} {ts : List (ℕ × Token)} {cmp : Comparison}
  {clause last first : List Comparison} {clauses : List (List Comparison)} {stop : ℕ}

def clauseTokens (clause : List Comparison) : List Token :=
  [.and].intercalate (clause.map Comparison.tokens)

def clausesTokens (clauses : List (List Comparison)) : List Token :=
  [.or].intercalate (clauses.map clauseTokens)

/-- Clauses as they are read, comparison by comparison: there is one, and none is empty. -/
inductive AreFilled : List (List Comparison) → Prop
  | one (cmp : Comparison) : AreFilled [[cmp]]
  | and (cmp : Comparison) {clause : List Comparison} {clauses : List (List Comparison)} :
      AreFilled (clause :: clauses) → AreFilled ((cmp :: clause) :: clauses)
  | or (cmp : Comparison) {clauses : List (List Comparison)} :
      AreFilled clauses → AreFilled ([cmp] :: clauses)

lemma areFilled_iff : AreFilled clauses ↔ clauses ≠ [] ∧ ∀ clause ∈ clauses, clause ≠ [] := by
  constructor
  · intro h
    induction h with
    | one cmp => simp
    | and cmp _ ih => simpa using (List.forall_mem_cons.mp ih.2).2
    | or cmp _ ih => simpa using ih.2
  · rintro ⟨hn, hs⟩
    induction clauses with
    | nil => contradiction
    | cons own others ih =>
      obtain ⟨ho, hs'⟩ := List.forall_mem_cons.mp hs
      induction own with
      | nil => contradiction
      | cons cmp own ih' =>
        by_cases hn : own = []
        · subst hn
          by_cases hn : others = []
          · subst hn
            exact .one cmp
          · exact .or cmp (ih hn hs')
        · exact .and cmp (ih' (List.cons_ne_nil _ _) (List.forall_mem_cons.mpr ⟨hn, hs'⟩) hn)

lemma AreFilled.ne_nil (h : AreFilled clauses) : clauses ≠ [] :=
  (areFilled_iff.mp h).1

lemma AreFilled.head_ne_nil (h : AreFilled (clause :: clauses)) : clause ≠ [] :=
  (areFilled_iff.mp h).2 clause List.mem_cons_self

lemma clauseTokens_cons (h : clause ≠ []) :
    clauseTokens (cmp :: clause) = cmp.tokens ++ .and :: clauseTokens clause := by
  obtain ⟨d, ds, rfl⟩ := List.exists_cons_of_ne_nil h
  simp [clauseTokens]

lemma clausesTokens_cons (h : clauses ≠ []) :
    clausesTokens (clause :: clauses) = clauseTokens clause ++ .or :: clausesTokens clauses := by
  obtain ⟨d, ds, rfl⟩ := List.exists_cons_of_ne_nil h
  simp [clausesTokens]

lemma clausesTokens_singleton : clausesTokens [clause] = clauseTokens clause := by
  simp [clausesTokens]

lemma clausesTokens_single : clausesTokens [[cmp]] = cmp.tokens := by
  simp [clausesTokens, clauseTokens]

lemma clausesTokens_and (h : clause ≠ []) :
    clausesTokens ((cmp :: clause) :: clauses) =
      cmp.tokens ++ .and :: clausesTokens (clause :: clauses) := by
  cases clauses with
  | nil => rw [clausesTokens_singleton, clausesTokens_singleton, clauseTokens_cons h]
  | cons d ds =>
    rw [clausesTokens_cons (List.cons_ne_nil d ds), clausesTokens_cons (List.cons_ne_nil d ds),
      clauseTokens_cons h]
    simp

lemma clausesTokens_or (h : clauses ≠ []) :
    clausesTokens ([cmp] :: clauses) = cmp.tokens ++ .or :: clausesTokens clauses := by
  rw [clausesTokens_cons h]
  simp [clauseTokens]

lemma operand_ok_iff {p : ℕ × Token} {a : Operand} : operand p = .ok a ↔ p.2 = a.token := by
  obtain ⟨i, t⟩ := p
  cases t <;> cases a <;> simp [operand, Operand.token]

lemma operator_ok_iff {p : ℕ × Token} {op : Operator} :
    operator p = .ok op ↔ p.2 = .operator op := by
  obtain ⟨i, t⟩ := p
  cases t <;> simp [operator]

lemma comparison_ok_iff : comparison l o r = .ok cmp ↔ [l.2, o.2, r.2] = cmp.tokens := by
  obtain ⟨left, op, right⟩ := cmp
  constructor
  · intro h
    obtain ⟨a, ha, h⟩ := Outcome.bind_ok_iff.mp h
    obtain ⟨b, hb, h⟩ := Outcome.bind_ok_iff.mp h
    obtain ⟨c, hc, h⟩ := Outcome.bind_ok_iff.mp h
    obtain ⟨rfl, rfl, rfl⟩ := Comparison.mk.inj (Except.ok.inj h)
    rw [operand_ok_iff.mp ha, operator_ok_iff.mp hb, operand_ok_iff.mp hc]
    rfl
  · intro h
    obtain ⟨hl, ho, hr⟩ : l.2 = left.token ∧ o.2 = .operator op ∧ r.2 = right.token := by
      simpa [Comparison.tokens] using h
    rw [comparison, operand_ok_iff.mpr hl, operator_ok_iff.mpr ho, operand_ok_iff.mpr hr]
    rfl

lemma incomplete_ne_ok {α : Type} {a : α} : incomplete stop ts ≠ .ok a := by
  unfold incomplete
  split <;> simp [Outcome.bind_ok_iff]

lemma tokens_of_readClauses {out : List (List Comparison)}
    (h : readClauses stop clause ts = .ok out) : ∃ own others, out = (clause ++ own) :: others ∧
      AreFilled (own :: others) ∧ ts.map Prod.snd = clausesTokens (own :: others) := by
  induction clause, ts using readClauses.induct generalizing out with
  | case1 clause l o r =>
    obtain ⟨cmp, hc, h⟩ := Outcome.bind_ok_iff.mp h
    obtain rfl := Outcome.pure_ok_iff.mp h
    refine ⟨[cmp], [], rfl, .one cmp, ?_⟩
    rw [clausesTokens_single]
    exact comparison_ok_iff.mp hc
  | case2 clause l o r i ts ih =>
    obtain ⟨cmp, hc, h⟩ := Outcome.bind_ok_iff.mp h
    obtain ⟨own, others, rfl, hf, ht⟩ := ih cmp h
    refine ⟨cmp :: own, others, by simp, .and cmp hf, ?_⟩
    rw [clausesTokens_and hf.head_ne_nil, ← comparison_ok_iff.mp hc, ← ht]
    rfl
  | case3 clause l o r i ts ih =>
    obtain ⟨cmp, hc, h⟩ := Outcome.bind_ok_iff.mp h
    obtain ⟨rest, hr, h⟩ := Outcome.bind_ok_iff.mp h
    obtain rfl := Outcome.pure_ok_iff.mp h
    obtain ⟨own, others, rfl, hf, ht⟩ := ih hr
    refine ⟨[cmp], own :: others, by simp, .or cmp hf, ?_⟩
    rw [clausesTokens_or hf.ne_nil, ← comparison_ok_iff.mp hc, ← ht]
    rfl
  | case4 clause l o r i t ts ha ho =>
    rw [readClauses.eq_4 _ _ _ _ _ _ _ _ ha ho] at h
    obtain ⟨cmp, -, h⟩ := Outcome.bind_ok_iff.mp h
    contradiction
  | case5 clause ts h₁ h₂ h₃ h₄ =>
    rw [readClauses.eq_5 _ _ _ h₁ h₂ h₃ h₄] at h
    exact absurd h incomplete_ne_ok

lemma exists_of_tokens {us : List Token} (h : ts.map Prod.snd = cmp.tokens ++ us) :
    ∃ l o r vs, ts = l :: o :: r :: vs ∧ comparison l o r = .ok cmp ∧ vs.map Prod.snd = us := by
  obtain ⟨l, ts, rfl, hl, h⟩ := List.map_eq_cons_iff.mp h
  obtain ⟨o, ts, rfl, ho, h⟩ := List.map_eq_cons_iff.mp h
  obtain ⟨r, ts, rfl, hr, h⟩ := List.map_eq_cons_iff.mp h
  refine ⟨l, o, r, ts, rfl, comparison_ok_iff.mpr ?_, h⟩
  rw [hl, ho, hr]
  rfl

lemma readClauses_of_tokens (stop : ℕ) (clause : List Comparison) (hf : AreFilled clauses)
    (ht : ts.map Prod.snd = clausesTokens clauses) :
    ∃ own others, clauses = own :: others ∧
      readClauses stop clause ts = .ok ((clause ++ own) :: others) := by
  induction hf generalizing clause ts with
  | one cmp =>
    rw [clausesTokens_single, ← List.append_nil cmp.tokens] at ht
    obtain ⟨l, o, r, vs, rfl, hc, hv⟩ := exists_of_tokens ht
    obtain rfl := List.map_eq_nil_iff.mp hv
    refine ⟨[cmp], [], rfl, ?_⟩
    rw [readClauses, hc]
    rfl
  | @and cmp own others hf ih =>
    rw [clausesTokens_and hf.head_ne_nil] at ht
    obtain ⟨l, o, r, vs, rfl, hc, hv⟩ := exists_of_tokens ht
    obtain ⟨⟨i, t⟩, vs, rfl, rfl, hu⟩ := List.map_eq_cons_iff.mp hv
    obtain ⟨_, _, he, h⟩ := ih (clause ++ [cmp]) hu
    obtain ⟨rfl, rfl⟩ := List.cons.inj he
    refine ⟨cmp :: own, others, rfl, ?_⟩
    rw [← List.append_cons] at h
    rw [readClauses]
    exact Outcome.bind_ok_iff.mpr ⟨cmp, hc, h⟩
  | @or cmp others hf ih =>
    rw [clausesTokens_or hf.ne_nil] at ht
    obtain ⟨l, o, r, vs, rfl, hc, hv⟩ := exists_of_tokens ht
    obtain ⟨⟨i, t⟩, vs, rfl, rfl, hu⟩ := List.map_eq_cons_iff.mp hv
    obtain ⟨first, others, rfl, h⟩ := ih [] hu
    refine ⟨[cmp], first :: others, rfl, ?_⟩
    rw [readClauses]
    exact Outcome.bind_ok_iff.mpr ⟨cmp, hc, Outcome.bind_ok_iff.mpr ⟨_, h, rfl⟩⟩

lemma parse_ok_iff {text : String} {c : Condition} :
    parse text = .ok c ↔ AreFilled c.clauses ∧ Tokenizes text.toList (clausesTokens c.clauses) := by
  constructor
  · intro h
    obtain ⟨ts, ht, h⟩ := Outcome.bind_ok_iff.mp h
    split at h
    · contradiction
    · obtain ⟨out, hr, h⟩ := Outcome.bind_ok_iff.mp h
      obtain rfl := Outcome.pure_ok_iff.mp h
      obtain ⟨own, others, rfl, hf, hs⟩ := tokens_of_readClauses hr
      exact ⟨hf, (tokenizes_iff 0).mpr ⟨ts, ht, hs⟩⟩
  · rintro ⟨hf, h⟩
    obtain ⟨ts, ht, hs⟩ := (tokenizes_iff 0).mp h
    obtain ⟨clauses⟩ := c
    obtain ⟨own, others, rfl, hr⟩ := readClauses_of_tokens (Text.byteLength text.toList) [] hf hs
    have hn : ts.isEmpty = false := by
      cases ts with
      | nil => contradiction
      | cons t ts => rfl
    rw [parse, ht, Outcome.bind_ok_iff]
    refine ⟨ts, rfl, ?_⟩
    rw [hn, hr]
    rfl

lemma clausesTokens_append {as bs : List (List Comparison)} (ha : as ≠ []) (hb : bs ≠ []) :
    clausesTokens (as ++ bs) = clausesTokens as ++ .or :: clausesTokens bs := by
  induction as with
  | nil => contradiction
  | cons a as ih =>
    by_cases hn : as = []
    · subst hn
      rw [List.singleton_append, clausesTokens_cons hb, clausesTokens_singleton]
    · rw [List.cons_append, clausesTokens_cons (List.append_ne_nil_of_left_ne_nil hn bs), ih hn,
        clausesTokens_cons hn]
      simp

lemma clauseTokens_append (hl : last ≠ []) (hf : first ≠ []) :
    clauseTokens (last ++ first) = clauseTokens last ++ .and :: clauseTokens first := by
  induction last with
  | nil => contradiction
  | cons cmp last ih =>
    by_cases hn : last = []
    · subst hn
      rw [List.singleton_append, clauseTokens_cons hf]
      rfl
    · rw [List.cons_append, clauseTokens_cons (List.append_ne_nil_of_left_ne_nil hn first), ih hn,
        clauseTokens_cons hn]
      simp

lemma clausesTokens_join {as bs : List (List Comparison)} (hl : last ≠ []) (hf : first ≠ []) :
    clausesTokens (as ++ (last ++ first) :: bs) =
      clausesTokens (as ++ [last]) ++ .and :: clausesTokens (first :: bs) := by
  induction as with
  | nil =>
    cases bs with
    | nil => simp only [List.nil_append, clausesTokens_singleton, clauseTokens_append hl hf]
    | cons b bs =>
      rw [List.nil_append, List.nil_append, clausesTokens_singleton,
        clausesTokens_cons (List.cons_ne_nil b bs), clausesTokens_cons (List.cons_ne_nil b bs),
        clauseTokens_append hl hf]
      simp
  | cons a as ih =>
    rw [List.cons_append, List.cons_append, clausesTokens_cons (by simp),
      clausesTokens_cons (by simp), ih]
    simp

lemma tokenizes_or_join {s t : String} {ts us : List Token} (hs : Tokenizes s.toList ts)
    (ht : Tokenizes t.toList us) : Tokenizes (s ++ " || " ++ t).toList (ts ++ .or :: us) := by
  rw [String.toList_append, String.toList_append, List.append_assoc]
  exact hs.append (.token rfl (fun _ => rfl) (.blank rfl ht))

lemma tokenizes_and_join {s t : String} {ts us : List Token} (hs : Tokenizes s.toList ts)
    (ht : Tokenizes t.toList us) : Tokenizes (s ++ " && " ++ t).toList (ts ++ .and :: us) := by
  rw [String.toList_append, String.toList_append, List.append_assoc]
  exact hs.append (.token rfl (fun _ => rfl) (.blank rfl ht))

lemma parse_or {s t : String} {a b : Condition} (hs : parse s = .ok a) (ht : parse t = .ok b) :
    parse (s ++ " || " ++ t) = .ok ⟨a.clauses ++ b.clauses⟩ := by
  obtain ⟨ha, hs⟩ := parse_ok_iff.mp hs
  obtain ⟨hb, ht⟩ := parse_ok_iff.mp ht
  refine parse_ok_iff.mpr ⟨?_, ?_⟩
  · obtain ⟨hn, ha⟩ := areFilled_iff.mp ha
    refine areFilled_iff.mpr ⟨List.append_ne_nil_of_left_ne_nil hn _, ?_⟩
    exact List.forall_mem_append.mpr ⟨ha, (areFilled_iff.mp hb).2⟩
  · rw [clausesTokens_append ha.ne_nil hb.ne_nil]
    exact tokenizes_or_join hs ht

lemma parse_and {s t : String} {as bs : List (List Comparison)}
    (hs : parse s = .ok ⟨as ++ [last]⟩) (ht : parse t = .ok ⟨first :: bs⟩) :
    parse (s ++ " && " ++ t) = .ok ⟨as ++ (last ++ first) :: bs⟩ := by
  obtain ⟨ha, hs⟩ := parse_ok_iff.mp hs
  obtain ⟨hb, ht⟩ := parse_ok_iff.mp ht
  obtain ⟨ha, hl⟩ := List.forall_mem_append.mp (areFilled_iff.mp ha).2
  have hl : last ≠ [] := hl last List.mem_cons_self
  have hs' := (List.forall_mem_cons.mp (areFilled_iff.mp hb).2).2
  refine parse_ok_iff.mpr ⟨areFilled_iff.mpr ⟨by simp, ?_⟩, ?_⟩
  · exact List.forall_mem_append.mpr ⟨ha, List.forall_mem_cons.mpr
      ⟨List.append_ne_nil_of_left_ne_nil hl first, hs'⟩⟩
  · rw [clausesTokens_join hl hb.head_ne_nil]
    exact tokenizes_and_join hs ht

lemma holds_append {as bs : List (List Comparison)} {record : Table Json} :
    holds ⟨as ++ bs⟩ record = (holds ⟨as⟩ record || holds ⟨bs⟩ record) :=
  List.any_append

lemma holds_eq_false_of_missing {record : Table Json} {name : String} (h : record.get? name = none)
    (hn : cmp.left = .variable name ∨ cmp.right = .variable name) :
    Comparison.holds record cmp = false := by
  unfold Comparison.holds
  rcases hn with hn | hn
  · rw [hn, Operand.value?, h]
  · rw [hn, Operand.value?, h]
    cases Operand.value? record cmp.left <;> rfl

/-- Texts of conditions are joined as Boolean expressions are, where `&&` binds tighter. -/
theorem parse_composes :
    (∀ s t a b, parse s = .ok a → parse t = .ok b →
      (∃ c, parse (s ++ " || " ++ t) = .ok c ∧ c.clauses = a.clauses ++ b.clauses ∧
        c.variableNames = a.variableNames ++ b.variableNames ∧
        ∀ record, c.holds record = (a.holds record || b.holds record)) ∧
      ∃ c as last first bs, parse (s ++ " && " ++ t) = .ok c ∧ a.clauses = as ++ [last] ∧
        b.clauses = first :: bs ∧ c.clauses = as ++ (last ++ first) :: bs ∧
        c.variableNames = a.variableNames ++ b.variableNames) ∧
    (∀ text c, parse text = .ok c ↔ c.clauses ≠ [] ∧ (∀ clause ∈ c.clauses, clause ≠ []) ∧
      ∃ ts, tokens 0 text.toList = .ok ts ∧ ts.map Prod.snd = clausesTokens c.clauses) ∧
    (∀ c record, holds c record = true ↔
      ∃ clause ∈ c.clauses, ∀ cmp ∈ clause, Comparison.holds record cmp = true) ∧
    ∀ record cmp name, record.get? name = none →
      cmp.left = .variable name ∨ cmp.right = .variable name →
      Comparison.holds record cmp = false := by
  refine ⟨?_, ?_, ?_, ?_⟩
  · intro s t ⟨as⟩ ⟨bs⟩ hs ht
    refine ⟨⟨_, parse_or hs ht, rfl, by simp [variableNames], fun record => holds_append⟩, ?_⟩
    have ha : as ≠ [] := (parse_ok_iff.mp hs).1.ne_nil
    obtain ⟨as, last, rfl⟩ := (List.eq_nil_or_concat' as).resolve_left ha
    obtain ⟨first, bs, rfl⟩ := List.exists_cons_of_ne_nil (parse_ok_iff.mp ht).1.ne_nil
    exact ⟨_, as, last, first, bs, parse_and hs ht, rfl, rfl, rfl, by simp [variableNames]⟩
  · intro text c
    rw [parse_ok_iff, areFilled_iff, tokenizes_iff 0, and_assoc]
  · intro c record
    simp [holds]
  · intro record cmp name h hn
    exact holds_eq_false_of_missing h hn

theorem parse_composes_quoted :
    (∃ c, parse ("$\x7ba\x7d == 'x || $\x7bb\x7d'" ++ " || " ++ "$\x7bc\x7d != null") = .ok c ∧
      c.variableNames = ["a", "c"]) ∧
    Comparison.holds ∅ ⟨.variable "c", .ne, .literal .null⟩ = false := by
  have hs : parse "$\x7ba\x7d == 'x || $\x7bb\x7d'" =
      .ok ⟨[[⟨.variable "a", .eq, .literal (.string "x || $\x7bb\x7d")⟩]]⟩ := by
    decide +kernel
  have ht : parse "$\x7bc\x7d != null" =
      .ok ⟨[[⟨.variable "c", .ne, .literal .null⟩]]⟩ := by
    decide +kernel
  obtain ⟨c, hc, -, hv, -⟩ := (parse_composes.1 _ _ _ _ hs ht).1
  exact ⟨⟨c, hc, hv⟩, parse_composes.2.2.2 ∅ _ "c" rfl (.inl rfl)⟩

end Condition

end LayeredSchema

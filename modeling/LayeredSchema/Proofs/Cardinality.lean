import LayeredSchema.Cardinality
import LayeredSchema.Proofs.Text.Blank
import Mathlib

/-!
Ranges: the texts that stand for one, and what counting and requiring make of it. Main statement:
`text_and_checks_agree`.
-/

namespace LayeredSchema

open Text

namespace Cardinality

variable {cs : List Char} {m n : ℕ} {r : Cardinality} {upper : Option ℕ}

/-- Decimal digits of a number that 64 bits hold. -/
structure Numeral (cs : List Char) (n : ℕ) : Prop where
  filled : cs ≠ []
  digits : ∀ c ∈ cs, c.isDigit = true
  value : Nat.ofDigitChars 10 cs 0 = n
  fits : n < 2 ^ 64

/-- The range that a text without white space around it stands for. -/
inductive Denotes : List Char → Cardinality → Prop
  | exactly {cs : List Char} {n : ℕ} (h : Numeral cs n) : Denotes cs ⟨n, some n⟩
  | between {cs ds : List Char} {m n : ℕ} (hm : Numeral cs m) (hn : Numeral ds n) (hle : m ≤ n) :
      Denotes (cs ++ ['.', '.'] ++ ds) ⟨m, some n⟩
  | atLeast {cs : List Char} {m : ℕ} (hm : Numeral cs m) :
      Denotes (cs ++ ['.', '.'] ++ ['*']) ⟨m, none⟩

def counts (r : Cardinality) : Set ℕ :=
  match r.max with
  | some n => Set.Icc r.min n
  | none => Set.Ici r.min

lemma bound?_eq_some_iff : bound? cs = some n ↔ Numeral cs n := by
  have hv : digitsValue cs = Nat.ofDigitChars 10 cs 0 := rfl
  rw [bound?, natural?, Option.filter_eq_some_iff]
  constructor
  · rintro ⟨h, hn⟩
    split at h
    · rename_i hd
      rw [Bool.and_eq_true, Bool.not_eq_true', List.isEmpty_eq_false_iff] at hd
      exact ⟨hd.1, List.all_eq_true.mp hd.2, hv ▸ Option.some.inj h, of_decide_eq_true hn⟩
    · contradiction
  · rintro ⟨hf, hd, hn, ht⟩
    have ha : cs.all Char.isDigit = true := List.all_eq_true.mpr hd
    exact ⟨by simp [hf, ha, hv, hn], decide_eq_true ht⟩

lemma Numeral.not_mem {c : Char} (h : Numeral cs n) (hc : c.isDigit = false) : c ∉ cs := by
  intro hm
  rw [h.digits c hm] at hc
  contradiction

lemma upperBound?_eq_some_iff : upperBound? cs = some upper ↔
    (cs = ['*'] ∧ upper = none) ∨ ∃ n, Numeral cs n ∧ upper = some n := by
  rw [upperBound?.eq_def]
  split
  · have hn (n : ℕ) : ¬Numeral ['*'] n := fun h => h.not_mem (c := '*') rfl (by simp)
    simp [hn, eq_comm]
  · rename_i hs
    rw [Option.map_eq_some_iff]
    constructor
    · rintro ⟨n, hn, rfl⟩
      exact Or.inr ⟨n, bound?_eq_some_iff.mp hn, rfl⟩
    · rintro (⟨h, -⟩ | ⟨n, hn, rfl⟩)
      · exact absurd h hs
      · exact ⟨n, bound?_eq_some_iff.mpr hn, rfl⟩

lemma contains_min_iff : r.contains r.min = true ↔ ∀ n, r.max = some n → r.min ≤ n := by
  rw [contains]
  cases r.max <;> simp

lemma parseChars?_eq_some_iff : parseChars? cs = some r ↔ Denotes cs r := by
  constructor
  · intro h
    rw [parseChars?] at h
    split at h
    · obtain ⟨n, hn, rfl⟩ := Option.map_eq_some_iff.mp h
      exact .exactly (bound?_eq_some_iff.mp hn)
    · rename_i lower upper hs
      obtain rfl := eq_append_of_splitOnce? hs
      simp only [Option.bind_eq_bind, Option.bind_eq_some_iff, bound?_eq_some_iff,
        upperBound?_eq_some_iff] at h
      obtain ⟨m, hm, mx, hmx, h⟩ := h
      split at h
      · rename_i hc
        obtain rfl := Option.some.inj h
        rcases hmx with ⟨rfl, rfl⟩ | ⟨n, hn, rfl⟩
        · exact .atLeast hm
        · exact .between hm hn (contains_min_iff.mp hc n rfl)
      · contradiction
  · intro h
    rw [parseChars?]
    cases h with
    | exactly h =>
      rw [splitOnce?_eq_none (h.not_mem rfl)]
      simp [bound?_eq_some_iff.mpr h]
    | between hm hn hle =>
      rw [splitOnce?_append (hm.not_mem rfl)]
      simp [bound?_eq_some_iff.mpr hm, upperBound?_eq_some_iff.mpr (.inr ⟨_, hn, rfl⟩), contains,
        hle]
    | atLeast hm =>
      rw [splitOnce?_append (hm.not_mem rfl)]
      simp [bound?_eq_some_iff.mpr hm, upperBound?_eq_some_iff.mpr (.inl ⟨rfl, rfl⟩), contains]

lemma parse_ok_iff {s : String} : parse s = .ok r ↔ Denotes (trim s.toList) r := by
  rw [← parseChars?_eq_some_iff, ← parse?, parse]
  cases parse? s <;> simp

lemma nonempty_counts (h : Denotes cs r) : r.counts.Nonempty := by
  cases h with
  | exactly => exact Set.nonempty_Icc.mpr le_rfl
  | between _ _ hle => exact Set.nonempty_Icc.mpr hle
  | atLeast => exact Set.nonempty_Ici

lemma numeral_toDigits (h : n < 2 ^ 64) : Numeral (Nat.toDigits 10 n) n where
  filled := Nat.toDigits_ne_nil
  digits _ hc := Nat.isDigit_of_mem_toDigits (by decide) le_rfl hc
  value := Nat.ofDigitChars_toDigits (by decide) le_rfl
  fits := h

lemma denotes_text (hm : r.min < 2 ^ 64) (hn : ∀ n, r.max = some n → r.min ≤ n ∧ n < 2 ^ 64) :
    Denotes r.text.toList r := by
  obtain ⟨m, upper⟩ := r
  rw [text, String.toList_ofList]
  cases upper with
  | none =>
    have hd : Denotes (Nat.toDigits 10 m ++ ['.', '.'] ++ ['*']) ⟨m, none⟩ :=
      .atLeast (numeral_toDigits hm)
    simpa using hd
  | some n =>
    obtain ⟨hle, hn⟩ := hn n rfl
    have hd : Denotes (Nat.toDigits 10 m ++ ['.', '.'] ++ Nat.toDigits 10 n) ⟨m, some n⟩ :=
      .between (numeral_toDigits hm) (numeral_toDigits hn) hle
    simpa using hd

lemma Denotes.isBlank (h : Denotes cs r) : ∀ c ∈ cs, isBlank c = false := by
  have hb {cs : List Char} {n : ℕ} (h : Numeral cs n) : ∀ c ∈ cs, Text.isBlank c = false :=
    fun c hc => isBlank_of_isDigit (h.digits c hc)
  have hs : ∀ c ∈ ['.', '.'], Text.isBlank c = false :=
    List.forall_mem_cons.mpr ⟨by decide, List.forall_mem_singleton.mpr (by decide)⟩
  have ha : ∀ c ∈ ['*'], Text.isBlank c = false := List.forall_mem_singleton.mpr (by decide)
  cases h with
  | exactly h => exact hb h
  | between hm hn =>
    exact List.forall_mem_append.mpr ⟨List.forall_mem_append.mpr ⟨hb hm, hs⟩, hb hn⟩
  | atLeast hm =>
    exact List.forall_mem_append.mpr ⟨List.forall_mem_append.mpr ⟨hb hm, hs⟩, ha⟩

lemma contains_iff (count : ℕ) : r.contains count = true ↔ count ∈ r.counts := by
  rw [contains, counts]
  cases r.max <;> simp

lemma isRequired_iff : r.isRequired = true ↔ 0 ∉ r.counts := by
  rw [isRequired, counts, decide_eq_true_eq, Nat.one_le_iff_ne_zero]
  cases r.max <;> simp

/-- A text is read just if it is a number or a range of numbers, white space around it aside, and
then as the range that it says. Counting and requiring are both about the counts in the range. -/
theorem text_and_checks_agree :
    (∀ s r, parse s = .ok r ↔ Denotes (trim s.toList) r) ∧
    (∀ s r, parse s = .ok r → r.counts.Nonempty) ∧
    (∀ r : Cardinality, r.min < 2 ^ 64 → (∀ n, r.max = some n → r.min ≤ n ∧ n < 2 ^ 64) →
      parse r.text = .ok r) ∧
    ∀ s r, parse s = .ok r → (∀ count, r.contains count = true ↔ count ∈ r.counts) ∧
      (r.isRequired = true ↔ 0 ∉ r.counts) := by
  refine ⟨fun _ _ => parse_ok_iff, fun _ _ h => nonempty_counts (parse_ok_iff.mp h), ?_, ?_⟩
  · intro r hm hn
    have hd := denotes_text hm hn
    rwa [parse_ok_iff, trim_eq_self_of_forall hd.isBlank]
  · exact fun s r _ => ⟨contains_iff, isRequired_iff⟩

theorem text_and_checks_agree_padded :
    ∃ r, parse "\u3000 002..10\t" = .ok r ∧ parse r.text = .ok r ∧ r.text = "2..10" ∧
      (r.contains 10 = true ↔ 10 ∈ r.counts) ∧ r.counts.Nonempty ∧
      (r.isRequired = true ↔ 0 ∉ r.counts) := by
  obtain ⟨hread, hnonempty, hback, hchecks⟩ := text_and_checks_agree
  have hd : Denotes ("002".toList ++ ['.', '.'] ++ "10".toList) ⟨2, some 10⟩ :=
    .between ⟨by decide, List.all_eq_true.mp rfl, by decide, by decide⟩
      ⟨by decide, List.all_eq_true.mp rfl, by decide, by decide⟩ (by decide)
  have h : parse "\u3000 002..10\t" = .ok ⟨2, some 10⟩ := (hread _ _).mpr hd
  obtain ⟨hcontains, hrequired⟩ := hchecks _ _ h
  refine ⟨_, h, hback _ (by decide) ?_, rfl, hcontains 10, hnonempty _ _ h, hrequired⟩
  rintro _ ⟨⟩
  decide

end Cardinality

end LayeredSchema

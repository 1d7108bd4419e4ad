import LayeredSchema.Pattern.Regex
import Mathlib.Logic.Function.Iterate
import Mathlib.Tactic.Common

/-!
What regular expressions match: the sets of places that are computed are those that matches, which
are pairs of places, lead to. Main statements: `moves_advance`, `spans_iff` and `finds_iff`.
-/

namespace LayeredSchema.Pattern.Regex

def Times (R : ℕ → ℕ → Prop) : ℕ → ℕ → ℕ → Prop
  | 0, i, j => i = j
  | n + 1, i, k => ∃ j, R i j ∧ Times R n j k

def before (text : List Char) : ℕ → Option Char
  | 0 => none
  | i + 1 => text[i]?

/-- The expression matches what is between two places of the text. -/
def Matches (text : List Char) : Regex → ℕ → ℕ → Prop
  | .empty, i, j => i = j
  | .chars s, i, j => j = i + 1 ∧ ∃ c, text[i]? = some c ∧ s.contains c = true
  | .look l, i, j => i = j ∧ l.holds (before text i) text[i]? = true
  | .seq a b, i, k => ∃ j, Matches text a i j ∧ Matches text b j k
  | .alt a b, i, j => Matches text a i j ∨ Matches text b i j
  | .rep r least most, i, j =>
    ∃ more, (∀ k ∈ most, more ≤ k - least) ∧ Times (Matches text r) (least + more) i j

variable {text : List Char} {r : Regex} {ms ns : Marks} {R : ℕ → ℕ → Prop} {i j k m n : ℕ}

/-! ### Relations that go on in a text -/

/-- Steps from place to place that never go back, nor beyond the end of a text of `n` characters. -/
def IsForward (n : ℕ) (R : ℕ → ℕ → Prop) : Prop :=
  ∀ i j, i ≤ n → R i j → i ≤ j ∧ j ≤ n

lemma IsForward.times (h : IsForward n R) : IsForward n (Times R k) := by
  induction k with
  | zero =>
    rintro i j hi rfl
    exact ⟨Nat.le_refl i, hi⟩
  | succ k ih =>
    rintro i j hi ⟨l, hl, hj⟩
    obtain ⟨hil, hln⟩ := h i l hi hl
    obtain ⟨hlj, hjn⟩ := ih l j hln hj
    exact ⟨Nat.le_trans hil hlj, hjn⟩

lemma times_add : Times R (m + n) i k ↔ ∃ j, Times R m i j ∧ Times R n j k := by
  induction m generalizing i with
  | zero => simp [Times]
  | succ m ih =>
    rw [Nat.succ_add]
    simp only [Times, ih]
    constructor
    · rintro ⟨l, hl, j, hj, hk⟩
      exact ⟨j, ⟨l, hl, hj⟩, hk⟩
    · rintro ⟨j, ⟨l, hl, hj⟩, hk⟩
      exact ⟨l, hl, j, hj, hk⟩

lemma times_or_eq : Times (fun i j => i = j ∨ R i j) k i j ↔ ∃ l ≤ k, Times R l i j := by
  induction k generalizing i with
  | zero => simp [Times]
  | succ k ih =>
    simp only [Times, ih]
    constructor
    · rintro ⟨m, rfl | hm, l, hl, hj⟩
      · exact ⟨l, Nat.le_succ_of_le hl, hj⟩
      · exact ⟨l + 1, Nat.succ_le_succ hl, m, hm, hj⟩
    · rintro ⟨l, hl, hj⟩
      cases l with
      | zero => exact ⟨i, .inl rfl, 0, Nat.zero_le k, hj⟩
      | succ l =>
        obtain ⟨m, hm, hj⟩ := hj
        exact ⟨m, .inr hm, l, Nat.le_of_succ_le_succ hl, hj⟩

lemma IsForward.exists_times_le (h : IsForward n R) (hi : i ≤ n) (ht : Times R k i j) :
    ∃ l ≤ j - i, Times R l i j := by
  induction k generalizing i with
  | zero => exact ⟨0, Nat.zero_le _, ht⟩
  | succ k ih =>
    obtain ⟨m, hm, hj⟩ := ht
    obtain ⟨him, hmn⟩ := h i m hi hm
    obtain ⟨l, hl, ht⟩ := ih hmn hj
    by_cases he : i = m
    · subst he
      exact ⟨l, hl, ht⟩
    · have hmj := (h.times m j hmn hj).1
      exact ⟨l + 1, by omega, m, hm, ht⟩

lemma isForward_matches (text : List Char) (r : Regex) :
    IsForward text.length (Matches text r) := by
  induction r with
  | empty =>
    rintro i j hi rfl
    exact ⟨Nat.le_refl i, hi⟩
  | chars s =>
    rintro i j hi ⟨rfl, c, hc, -⟩
    obtain ⟨hi, -⟩ := List.getElem?_eq_some_iff.mp hc
    omega
  | look l =>
    rintro i j hi ⟨rfl, -⟩
    exact ⟨Nat.le_refl i, hi⟩
  | seq a b iha ihb =>
    rintro i k hi ⟨j, hj, hk⟩
    obtain ⟨hij, hjn⟩ := iha i j hi hj
    obtain ⟨hjk, hkn⟩ := ihb j k hjn hk
    exact ⟨Nat.le_trans hij hjk, hkn⟩
  | alt a b iha ihb =>
    rintro i j hi (h | h)
    · exact iha i j hi h
    · exact ihb i j hi h
  | rep r least most ih =>
    rintro i j hi ⟨more, -, h⟩
    exact ih.times i j hi h

/-! ### Marks -/

def IsMarked (ms : Marks) (i : ℕ) : Prop := ms[i]? = some true

lemma isMarked_union (h : ms.length = ns.length) :
    IsMarked (ms.union ns) i ↔ IsMarked ms i ∨ IsMarked ns i := by
  unfold IsMarked Marks.union
  by_cases hi : i < ms.length
  · simp [List.getElem?_zipWith, List.getElem?_eq_getElem hi, List.getElem?_eq_getElem (h ▸ hi)]
  · simp [List.getElem?_zipWith, List.getElem?_eq_none (Nat.not_lt.mp hi),
      List.getElem?_eq_none (h ▸ Nat.not_lt.mp hi)]

lemma length_union (h : ms.length = ns.length) : (ms.union ns).length = ms.length := by
  simp [Marks.union, h]

lemma IsMarked.lt_length (h : IsMarked ms i) : i < ms.length :=
  (List.getElem?_eq_some_iff.mp h).1

lemma length_contexts (b : Option Char) (text : List Char) :
    (contexts b text).length = text.length + 1 := by
  induction text generalizing b with
  | nil => rfl
  | cons c cs ih => simp [contexts, ih]

lemma getElem?_contexts (hi : i ≤ text.length) :
    (contexts none text)[i]? = some (before text i, text[i]?) := by
  have general (b : Option Char) (text : List Char) (i : ℕ) (hi : i ≤ text.length) :
      (contexts b text)[i]? = some (if i = 0 then b else before text i, text[i]?) := by
    induction text generalizing b i with
    | nil =>
      obtain rfl : i = 0 := by simpa using hi
      rfl
    | cons c cs ih =>
      cases i with
      | zero => rfl
      | succ i =>
        have hi : i ≤ cs.length := by simpa using hi
        cases i with
        | zero => simpa [contexts, before] using ih (some c) 0 hi
        | succ i => simpa [contexts, before] using ih (some c) (i + 1) hi
  rw [general none text i hi]
  cases i <;> rfl

lemma iterate_eq {α : Type} [DecidableEq α] (f : α → α) (k : ℕ) (a : α) :
    iterate f k a = f^[k] a := by
  induction k generalizing a with
  | zero => rfl
  | succ k ih =>
    unfold iterate
    split
    · rename_i h
      rw [Function.iterate_fixed h]
    · rw [ih]
      rfl

def Moves (n : ℕ) (f : Marks → Marks) (R : ℕ → ℕ → Prop) : Prop :=
  ∀ ms : Marks, ms.length = n + 1 →
    (f ms).length = n + 1 ∧ ∀ j, IsMarked (f ms) j ↔ ∃ i, IsMarked ms i ∧ R i j

lemma Moves.comp {f g : Marks → Marks} {S : ℕ → ℕ → Prop} (hf : Moves n f R) (hg : Moves n g S) :
    Moves n (g ∘ f) fun i k => ∃ j, R i j ∧ S j k := by
  intro ms hm
  obtain ⟨hl, hf⟩ := hf ms hm
  obtain ⟨hl, hg⟩ := hg (f ms) hl
  refine ⟨hl, fun k => ?_⟩
  rw [Function.comp_apply, hg]
  constructor
  · rintro ⟨j, hj, hk⟩
    obtain ⟨i, hi, hj⟩ := (hf j).mp hj
    exact ⟨i, hi, j, hj, hk⟩
  · rintro ⟨i, hi, j, hj, hk⟩
    exact ⟨j, (hf j).mpr ⟨i, hi, hj⟩, hk⟩

lemma Moves.union {f g : Marks → Marks} {S : ℕ → ℕ → Prop} (hf : Moves n f R) (hg : Moves n g S) :
    Moves n (fun ms => (f ms).union (g ms)) fun i j => R i j ∨ S i j := by
  intro ms hm
  obtain ⟨hl, hf⟩ := hf ms hm
  obtain ⟨hl', hg⟩ := hg ms hm
  have he := hl.trans hl'.symm
  refine ⟨(length_union he).trans hl, fun j => ?_⟩
  rw [isMarked_union he, hf, hg, ← exists_or]
  simp only [← and_or_left]

lemma Moves.id : Moves n (fun ms => ms) Eq :=
  fun ms hm => ⟨hm, by simp⟩

lemma Moves.iterate {f : Marks → Marks} (h : Moves n f R) (k : ℕ) : Moves n f^[k] (Times R k) := by
  induction k with
  | zero => exact Moves.id
  | succ k ih => exact h.comp ih

lemma moves_chars {s : CharSet} :
    Moves text.length (advance text (.chars s)) (Matches text (.chars s)) := by
  intro ms hm
  refine ⟨by simp [advance, hm], fun j => ?_⟩
  cases j with
  | zero => simp [IsMarked, advance, Matches]
  | succ j =>
    simp only [IsMarked, advance, Matches, List.getElem?_cons_succ, List.getElem?_zipWith]
    constructor
    · intro h
      refine ⟨j, ?_⟩
      revert h
      cases ms[j]? <;> cases text[j]? <;> simp
    · rintro ⟨i, hi, he, c, hc, hs⟩
      obtain rfl := Nat.succ.inj he
      simp [hi, hc, hs]

lemma moves_look {l : Look} :
    Moves text.length (advance text (.look l)) (Matches text (.look l)) := by
  intro ms hm
  refine ⟨by simp [advance, hm, length_contexts], fun j => ?_⟩
  simp only [IsMarked, advance, Matches, List.getElem?_zipWith]
  by_cases hj : j ≤ text.length
  · obtain ⟨m, hm⟩ : ∃ m, ms[j]? = some m := ⟨_, List.getElem?_eq_getElem (by omega)⟩
    rw [getElem?_contexts hj, hm]
    constructor
    · intro h
      obtain ⟨rfl, hl⟩ : m = true ∧ l.holds (before text j) text[j]? = true := by simpa using h
      exact ⟨j, hm, rfl, hl⟩
    · rintro ⟨i, hi, rfl, hl⟩
      simp_all
  · have hn : ms[j]? = none := List.getElem?_eq_none (by omega)
    rw [hn]
    constructor
    · intro h
      contradiction
    · rintro ⟨i, hi, rfl, -⟩
      rw [hn] at hi
      contradiction

lemma moves_rep {f : Marks → Marks} (least : ℕ) (most : Option ℕ) (hr : IsForward n R)
    (h : Moves n f R) :
    Moves n
      (fun ms => iterate (fun ms => ms.union (f ms)) (most.elim n (· - least)) (iterate f least ms))
      fun i j => ∃ more, (∀ k ∈ most, more ≤ k - least) ∧ Times R (least + more) i j := by
  intro ms hm
  simp only [iterate_eq]
  obtain ⟨hl, hs⟩ :=
    (h.iterate least).comp ((Moves.id.union h).iterate (most.elim n (· - least))) ms hm
  refine ⟨hl, fun j => (hs j).trans (exists_congr fun i => and_congr_right fun hi => ?_)⟩
  have hi : i ≤ n := by
    have := hi.lt_length
    omega
  simp only [times_or_eq, times_add]
  constructor
  · rintro ⟨m, hm, l, hl, hj⟩
    refine ⟨l, ?_, m, hm, hj⟩
    rintro k rfl
    exact hl
  · rintro ⟨l, hl, m, hm, hj⟩
    refine ⟨m, hm, ?_⟩
    cases most with
    | some k => exact ⟨l, hl k rfl, hj⟩
    | none =>
      obtain ⟨-, hmn⟩ := hr.times i m hi hm
      obtain ⟨-, hjn⟩ := hr.times m j hmn hj
      obtain ⟨l, hl, hj⟩ := hr.exists_times_le hmn hj
      exact ⟨l, Nat.le_trans hl (Nat.le_trans (Nat.sub_le j m) hjn), hj⟩

lemma moves_advance (text : List Char) (r : Regex) :
    Moves text.length (advance text r) (Matches text r) := by
  induction r with
  | empty => exact Moves.id
  | chars s => exact moves_chars
  | look l => exact moves_look
  | seq a b iha ihb => exact iha.comp ihb
  | alt a b iha ihb => exact iha.union ihb
  | rep r least most ih =>
    have hm := moves_rep least most (isForward_matches text r) ih
    cases most with
    | none => exact hm
    | some k => exact hm

lemma spans_iff : r.spans text = true ↔ Matches text r 0 text.length := by
  obtain ⟨hl, hm⟩ := moves_advance text r (true :: List.replicate text.length false) (by simp)
  have hs (i : ℕ) : IsMarked (true :: List.replicate text.length false) i ↔ i = 0 := by
    cases i with
    | zero => simp [IsMarked]
    | succ i => simp [IsMarked, List.getElem?_replicate]
  have he := hm text.length
  simp only [hs, exists_eq_left] at he
  rw [← he, spans, IsMarked, List.getLast?_eq_getElem?, hl, Nat.add_sub_cancel]
  cases (advance text r (true :: List.replicate text.length false))[text.length]? <;> simp

lemma finds_iff : r.finds text = true ↔ ∃ i ≤ text.length, ∃ j, Matches text r i j := by
  obtain ⟨hl, hm⟩ := moves_advance text r (List.replicate (text.length + 1) true) (by simp)
  have hs (i : ℕ) : IsMarked (List.replicate (text.length + 1) true) i ↔ i ≤ text.length := by
    rw [IsMarked, List.getElem?_replicate, ← Nat.lt_add_one_iff]
    simp
  simp only [hs] at hm
  rw [finds, List.any_eq_true]
  constructor
  · rintro ⟨m, hi, rfl⟩
    obtain ⟨j, hj⟩ := List.mem_iff_getElem?.mp hi
    obtain ⟨i, hi, hj⟩ := (hm j).mp hj
    exact ⟨i, hi, j, hj⟩
  · rintro ⟨i, hi, j, hj⟩
    exact ⟨true, List.mem_iff_getElem?.mpr ⟨j, (hm j).mpr ⟨i, hi, hj⟩⟩, rfl⟩

lemma finds_anchored : (Regex.seq (.seq (.look .textStart) r) (.look .textEnd)).finds text = true ↔
    r.spans text = true := by
  rw [finds_iff, spans_iff]
  constructor
  · rintro ⟨i, hi, k, j, ⟨_, ⟨rfl, hs⟩, hm⟩, rfl, he⟩
    have hi : i = 0 := by
      cases i with
      | zero => rfl
      | succ i => simp [Look.holds, before, Nat.lt_iff_add_one_le.mpr hi] at hs
    have hj : text.length ≤ j := by simpa [Look.holds] using he
    have hjn := (isForward_matches text r i j ‹_› hm).2
    rwa [hi, Nat.le_antisymm hjn hj] at hm
  · intro h
    refine ⟨0, Nat.zero_le _, text.length, text.length, ⟨0, ⟨rfl, rfl⟩, h⟩, rfl, ?_⟩
    simp [Look.holds]

end LayeredSchema.Pattern.Regex

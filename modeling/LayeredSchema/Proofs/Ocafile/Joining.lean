import LayeredSchema.Proofs.Ocafile.Layout
import Mathlib

/-!
The lines that logical lines are joined from. Main statement: `mem_logicalLines_iff`.
-/

namespace LayeredSchema.Ocafile

open Text

def part (l : List Char) : List Char := (continued? l).getD l

def joined (text : List Char) (more : List (List Char)) : List Char :=
  text ++ more.flatMap fun l => ' ' :: trim (part l)

/-- Lines of which each is continued by the next, up to one that is not, or up to the end of the
text; and the lines after them. -/
inductive Chained : List (List Char) → List (List Char) → Prop
  | last {l : List Char} {after : List (List Char)} (h : continued? l = none) : Chained [l] after
  | cut {l : List Char} (h : (continued? l).isSome = true) : Chained [l] []
  | more {l : List Char} {ls after : List (List Char)} (h : (continued? l).isSome = true)
      (hs : Chained ls after) : Chained (l :: ls) after

/-- A logical line starts on a line that continues none and is no comment, and is joined with those
that continue it. The first line of all is number `n`, and continues one before it or not. -/
def StartsFrom (n : ℕ) (c : Bool) (ls : List (List Char)) (k : LogicalLine) : Prop :=
  ∃ before first more after, ls = before ++ (first :: more ++ after) ∧
    before.foldl continues c = false ∧ isComment first = false ∧ Chained (first :: more) after ∧
      k = ⟨n + before.length, joined (part first) more⟩

def Completes (q : LogicalLine) (ls : List (List Char)) (k : LogicalLine) : Prop :=
  ∃ more after, ls = more ++ after ∧ (more = [] ∧ after = [] ∨ Chained more after) ∧
    k = ⟨q.number, joined q.text more⟩

variable {n : ℕ} {c : Bool} {l : List Char} {ls : List (List Char)} {k q : LogicalLine}
  {p : Option LogicalLine}

lemma part_eq {start : List Char} (h : continued? l = some start) : part l = start := by
  rw [part, h, Option.getD_some]

lemma StartsFrom.cons (h : StartsFrom (n + 1) (continues c l) ls k) :
    StartsFrom n c (l :: ls) k := by
  obtain ⟨before, first, more, after, rfl, hb, hf, hc, rfl⟩ := h
  refine ⟨l :: before, first, more, after, rfl, hb, hf, hc, ?_⟩
  rw [List.length_cons, Nat.add_assoc, Nat.add_comm 1]

lemma startsFrom_last (hc : isComment l = false) (h : continued? l = none) :
    StartsFrom n false (l :: ls) ⟨n, l⟩ := by
  refine ⟨[], l, [], ls, rfl, rfl, hc, .last h, ?_⟩
  simp [joined, part, h]

lemma Completes.startsFrom {start : List Char} (hc : isComment l = false)
    (hl : continued? l = some start) (h : Completes ⟨n, start⟩ ls k) :
    StartsFrom n false (l :: ls) k := by
  obtain ⟨more, after, rfl, hm, rfl⟩ := h
  have hp := part_eq hl
  have hs : (continued? l).isSome = true := by rw [hl, Option.isSome_some]
  refine ⟨[], l, more, after, rfl, rfl, hc, ?_, by rw [hp]; rfl⟩
  rcases hm with ⟨rfl, rfl⟩ | hm
  · exact .cut hs
  · exact .more hs hm

lemma joined_cons (text l : List Char) (more : List (List Char)) :
    joined (text ++ ' ' :: trim (part l)) more = joined text (l :: more) := by
  rw [joined, joined, List.flatMap_cons, List.append_assoc]

lemma Completes.cons (hl : (continued? l).isSome = true) (h : Completes (q.append (part l)) ls k) :
    Completes q (l :: ls) k := by
  obtain ⟨more, after, rfl, hm, rfl⟩ := h
  refine ⟨l :: more, after, rfl, Or.inr ?_, congrArg _ (joined_cons q.text l more)⟩
  rcases hm with ⟨rfl, rfl⟩ | hm
  · exact .cut hl
  · exact .more hl hm

lemma completes_last (hl : continued? l = none) : Completes q (l :: ls) (q.append l) := by
  refine ⟨[l], ls, rfl, Or.inr (.last hl), ?_⟩
  simp [LogicalLine.append, joined, part, hl]

lemma startsFrom_of_takeLine (h : k ∈ (takeLine n none l).1 ∨
    ∃ q, (takeLine n none l).2 = some q ∧ Completes q ls k) : StartsFrom n false (l :: ls) k := by
  rw [takeLine] at h
  by_cases hc : isComment l = true
  · simp [hc] at h
  rw [if_neg hc] at h
  rw [Bool.not_eq_true] at hc
  cases hl : continued? l with
  | none =>
    obtain rfl : k = ⟨n, l⟩ := by simpa [hl] using h
    exact startsFrom_last hc hl
  | some start =>
    obtain h : Completes ⟨n, start⟩ ls k := by simpa [hl] using h
    exact h.startsFrom hc hl

lemma completes_of_takeLine (h : k ∈ (takeLine n (some q) l).1 ∨
    ∃ r, (takeLine n (some q) l).2 = some r ∧ Completes r ls k) : Completes q (l :: ls) k := by
  rw [takeLine] at h
  cases hl : continued? l with
  | none =>
    obtain rfl : k = q.append l := by simpa [hl] using h
    exact completes_last hl
  | some start =>
    obtain h : Completes (q.append start) ls k := by simpa [hl] using h
    have hp := part_eq hl
    exact .cons (by rw [hl, Option.isSome_some]) (hp ▸ h)

lemma of_mem_joinLines (h : k ∈ joinLines n p ls) :
    (∃ q, p = some q ∧ Completes q ls k) ∨ StartsFrom n p.isSome ls k := by
  induction ls generalizing n p with
  | nil =>
    obtain rfl : p = some k := by simpa [joinLines] using h
    exact Or.inl ⟨k, rfl, [], [], rfl, Or.inl ⟨rfl, rfl⟩, by simp [joined]⟩
  | cons l ls ih =>
    rw [joinLines_cons, List.mem_append] at h
    suffices hk : StartsFrom (n + 1) (continues p.isSome l) ls k ∨ k ∈ (takeLine n p l).1 ∨
        ∃ q, (takeLine n p l).2 = some q ∧ Completes q ls k by
      rcases hk with hk | hk
      · exact Or.inr hk.cons
      · cases p with
        | none => exact Or.inr (startsFrom_of_takeLine hk)
        | some q => exact Or.inl ⟨q, rfl, completes_of_takeLine hk⟩
    rcases h with h | h
    · exact Or.inr (Or.inl h)
    · rcases ih h with hk | hk
      · exact Or.inr (Or.inr hk)
      · exact Or.inl (isSome_takeLine n p l ▸ hk)

lemma mem_joinLines_of_chained {more after : List (List Char)} (h : Chained more after) :
    ⟨q.number, joined q.text more⟩ ∈ joinLines n (some q) (more ++ after) := by
  induction h generalizing n q with
  | last hl => simp [joinLines, hl, LogicalLine.append, joined, part]
  | @cut l hl =>
    obtain ⟨start, hs⟩ := Option.isSome_iff_exists.mp hl
    simp [joinLines, hs, LogicalLine.append, joined, part]
  | @more l ls after hl _ ih =>
    obtain ⟨start, hs⟩ := Option.isSome_iff_exists.mp hl
    have hp := part_eq hs
    rw [List.cons_append, joinLines, hs, ← joined_cons, hp]
    exact ih

lemma mem_joinLines_of_first {first : List Char} {more after : List (List Char)}
    (hc : isComment first = false) (h : Chained (first :: more) after) :
    ⟨n, joined (part first) more⟩ ∈ joinLines n none (first :: more ++ after) := by
  rw [List.cons_append, joinLines, hc, if_neg Bool.false_ne_true]
  cases h with
  | last hl => simp [hl, joined, part]
  | cut hl =>
    obtain ⟨start, hs⟩ := Option.isSome_iff_exists.mp hl
    simp [joinLines, hs, joined, part]
  | more hl hm =>
    obtain ⟨start, hs⟩ := Option.isSome_iff_exists.mp hl
    have hp := part_eq hs
    rw [hs, hp]
    exact mem_joinLines_of_chained (q := ⟨n, start⟩) hm

lemma mem_joinLines_of_startsFrom (h : StartsFrom n p.isSome ls k) : k ∈ joinLines n p ls := by
  obtain ⟨before, first, more, after, rfl, hb, hc, hm, rfl⟩ := h
  induction before generalizing n p with
  | nil =>
    obtain rfl := Option.isNone_iff_eq_none.mp (Option.isSome_eq_false_iff.mp hb)
    exact mem_joinLines_of_first hc hm
  | cons l before ih =>
    have hi := ih (n := n + 1) (p := (takeLine n p l).2) (isSome_takeLine n p l ▸ hb)
    rw [List.cons_append, joinLines_cons, List.length_cons, Nat.add_comm before.length,
      ← Nat.add_assoc]
    exact List.mem_append_right _ hi

lemma mem_logicalLines_iff {text : List Char} :
    k ∈ logicalLines text ↔ StartsFrom 1 false (lines text) k := by
  constructor
  · intro h
    rcases of_mem_joinLines h with ⟨q, hq, -⟩ | h
    · contradiction
    · exact h
  · exact mem_joinLines_of_startsFrom (p := none)

def firstNumber (n : ℕ) (p : Option LogicalLine) : ℕ := p.elim n LogicalLine.number

lemma takeLine_number (n : ℕ) (p : Option LogicalLine) (l : List Char) :
    ((takeLine n p l).1 = [] ∧ ∀ q, (takeLine n p l).2 = some q → q.number = firstNumber n p) ∨
      ∃ k, takeLine n p l = ([k], none) ∧ k.number = firstNumber n p := by
  cases p with
  | none =>
    rw [takeLine]
    split
    · exact Or.inl ⟨rfl, fun q hq => absurd hq.symm (Option.some_ne_none q)⟩
    · cases continued? l with
      | none => exact Or.inr ⟨_, rfl, rfl⟩
      | some start => exact Or.inl ⟨rfl, fun q hq => Option.some.inj hq ▸ rfl⟩
  | some p =>
    rw [takeLine]
    cases continued? l with
    | none => exact Or.inr ⟨_, rfl, rfl⟩
    | some more => exact Or.inl ⟨rfl, fun q hq => Option.some.inj hq ▸ rfl⟩

lemma joinLines_numbers (hp : firstNumber n p ≤ n) :
    (joinLines n p ls).Pairwise (·.number < ·.number) ∧
      ∀ k ∈ joinLines n p ls, firstNumber n p ≤ k.number := by
  induction ls generalizing n p with
  | nil => cases p <;> simp [joinLines, firstNumber]
  | cons l ls ih =>
    rw [joinLines_cons]
    rcases takeLine_number n p l with ⟨hk, hq⟩ | ⟨k, hk, hn⟩
    · have hle : firstNumber n p ≤ firstNumber (n + 1) (takeLine n p l).2 ∧
          firstNumber (n + 1) (takeLine n p l).2 ≤ n + 1 := by
        cases ht : (takeLine n p l).2 with
        | none => exact ⟨hp.trans (Nat.le_succ n), le_rfl⟩
        | some q =>
          have hn : firstNumber (n + 1) (some q) = firstNumber n p := hq q ht
          rw [hn]
          exact ⟨le_rfl, hp.trans (Nat.le_succ n)⟩
      obtain ⟨hs, hl⟩ := ih hle.2
      rw [hk]
      exact ⟨hs, fun k hk => hle.1.trans (hl k hk)⟩
    · have hle : firstNumber (n + 1) none ≤ n + 1 := le_rfl
      obtain ⟨hs, hl⟩ := ih hle
      have hlt : ∀ m ∈ joinLines (n + 1) none ls, firstNumber n p < m.number := fun m hm =>
        (Nat.lt_succ_of_le hp).trans_le (hl m hm)
      rw [hk]
      refine ⟨List.pairwise_cons.mpr ⟨fun m hm => hn ▸ hlt m hm, hs⟩, ?_⟩
      exact List.forall_mem_cons.mpr ⟨hn.ge, fun m hm => (hlt m hm).le⟩

lemma logicalLines_numbers (text : List Char) :
    ((logicalLines text).map LogicalLine.number).Pairwise (· < ·) :=
  List.pairwise_map.mpr (joinLines_numbers (p := none) le_rfl).1

end LayeredSchema.Ocafile

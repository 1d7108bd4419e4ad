import LayeredSchema.Proofs.Format.Shape
import LayeredSchema.Proofs.Pattern.Growth

/-!
How large the expressions of date patterns get: they nest three levels deep, and a character of the
pattern takes at most 128 bytes of a machine. Main statement: `isSome_shape`.
-/

namespace LayeredSchema

namespace Pattern.CharSet

def surrogates : Interval := ⟨0xD800, 0xDFFF⟩

lemma scalars_eq (s : CharSet) :
    Layout.scalars s = (ofIntervals (s.complement.intervals ++ [surrogates])).complement := by
  have ht : CharSet.complement (CharSet.complement ⟨[surrogates]⟩) = ⟨[surrogates]⟩ := by decide
  exact congrArg (fun t => (s.complement.union t).complement) ht

lemma ofIntervals_around {n : ℕ} (h0 : 0 < n) (hl : n < lastCodePoint)
    (hn : n < 0xD800 ∨ 0xDFFF < n) :
    ofIntervals ([⟨0, n - 1⟩, ⟨n + 1, lastCodePoint⟩] ++ [surrogates]) =
      ⟨[⟨0, n - 1⟩, ⟨n + 1, lastCodePoint⟩]⟩ := by
  unfold lastCodePoint surrogates at *
  rw [ofIntervals, List.cons_append, List.cons_append, List.nil_append]
  rcases hn with hn | hn
  · have hs : [(⟨0, n - 1⟩ : Interval), ⟨n + 1, 0x10FFFF⟩, ⟨0xD800, 0xDFFF⟩].mergeSort
        (fun i j => i.first ≤ j.first) = [⟨0, n - 1⟩, ⟨n + 1, 0x10FFFF⟩, ⟨0xD800, 0xDFFF⟩] :=
      List.mergeSort_of_pairwise (by simp; omega)
    rw [hs, join, joinFrom, if_neg (by simp; omega), joinFrom, if_pos (by simp), joinFrom]
    rfl
  · have hs : [(⟨0, n - 1⟩ : Interval), ⟨n + 1, 0x10FFFF⟩, ⟨0xD800, 0xDFFF⟩].mergeSort
        (fun i j => i.first ≤ j.first) = [⟨0, n - 1⟩, ⟨0xD800, 0xDFFF⟩, ⟨n + 1, 0x10FFFF⟩] := by
      have hlt : ¬n + 1 ≤ 0xD800 := by omega
      simp [List.mergeSort, List.MergeSort.Internal.splitInTwo, hlt]
    have hm : max (n - 1) 0xDFFF = n - 1 := by omega
    rw [hs, join, joinFrom, if_pos (by simp; omega), hm, joinFrom, if_neg (by simp; omega),
      joinFrom]

lemma scalars_single (c : Char) :
    (Layout.scalars (single c)).intervals = [⟨c.toNat, c.toNat⟩] := by
  have hv : c.toNat < 0xD800 ∨ 0xDFFF < c.toNat ∧ c.toNat < 0x110000 := c.valid
  rw [scalars_eq, single]
  generalize c.toNat = n at hv ⊢
  by_cases h0 : n = 0
  · subst h0
    cbv
  · by_cases hl : n = lastCodePoint
    · subst hl
      cbv
    · have hlt : n < lastCodePoint := by
        unfold lastCodePoint at *
        omega
      have h1 : n - 1 + 1 = n := by omega
      have hc : (complement ⟨[⟨n, n⟩]⟩).intervals = [⟨0, n - 1⟩, ⟨n + 1, lastCodePoint⟩] := by
        simp [complement, gaps, Nat.pos_of_ne_zero h0, Nat.succ_le_of_lt hlt]
      rw [hc, ofIntervals_around (Nat.pos_of_ne_zero h0) hlt (by omega)]
      simp [complement, gaps, h1]

end Pattern.CharSet

namespace DatePattern

open Pattern Text

variable {items : List DateItem} {cs : List Char} {f : DateField} {c : Char} {l : Layout}
  {ls : List Layout} {ks : List ℕ} {k : ℕ}

inductive IsPlain : Layout → ℕ → Prop
  | look (l : Look) : IsPlain (.look l) 32
  | bytes (bs : List UInt8) : IsPlain (.bytes bs) (32 * bs.length)
  | digits {n : ℕ} (pos : 0 < n) : IsPlain (.rep (.chars digitSet) n (some n) true) (72 * n)

lemma IsPlain.takes (h : IsPlain l k) : l.Takes k := by
  intro d
  cases h with
  | look l => exact Growth.takes_add 1 0 0
  | bytes bs => exact Growth.takes_add bs.length 0 0
  | @digits n pos =>
    have hd : (d.growth (.chars digitSet)).Takes 72 := Growth.takes_add 2 1 0
    have hr : d.growth (.rep (.chars digitSet) n (some n) true) =
        (d.growth (.chars digitSet)).times n := by
      obtain ⟨m, rfl⟩ := Nat.exists_eq_succ_of_ne_zero pos.ne'
      simp [Direction.growth, Direction.ofRepetition]
    rw [hr, Nat.mul_comm]
    exact hd.times n

lemma joinTexts_plain (h : List.Forall₂ IsPlain ls ks) :
    ∃ ks', List.Forall₂ IsPlain (Layout.joinTexts ls) ks' ∧ ks'.sum = ks.sum := by
  induction h with
  | nil => exact ⟨[], .nil, rfl⟩
  | @cons l k ls ks hl _ ih =>
    obtain ⟨ks', hs, he⟩ := ih
    unfold Layout.joinTexts
    split
    · rename_i a b rest hj
      rw [hj] at hs
      cases hl
      cases hs with
      | cons hb hrest =>
        cases hb
        refine ⟨_, .cons (.bytes (a ++ b)) hrest, ?_⟩
        rw [List.sum_cons, List.sum_cons, ← he, List.sum_cons, List.length_append]
        omega
    · exact ⟨k :: ks', .cons hl hs, by rw [List.sum_cons, List.sum_cons, he]⟩

lemma partsOf_plain (h : List.Forall₂ IsPlain ls ks) : ls.flatMap Layout.partsOf = ls := by
  induction h with
  | nil => rfl
  | cons hl _ ih =>
    rw [List.flatMap_cons, ih]
    cases hl <;> rfl

lemma sequence_takes (h : List.Forall₂ IsPlain ls ks) :
    (Layout.sequence ls).Takes (ks.sum + 32) := by
  obtain ⟨ks', hs, he⟩ := joinTexts_plain h
  have ht : List.Forall₂ Layout.Takes (Layout.joinTexts ls) ks' := hs.imp fun _ _ hl => hl.takes
  rw [Layout.sequence, partsOf_plain h, ← he]
  intro d
  split
  · exact (Growth.takes_add 1 0 0).mono (by omega)
  · rename_i l hj
    rw [hj] at ht
    cases ht with
    | cons hl hr =>
      cases hr
      exact (hl d).mono (by simp)
  · exact (takes_seq ht d).mono (by omega)

lemma layout_field (f : DateField) :
    (partOf (.field f)).layout = .rep (.chars digitSet) f.width (some f.width) true := by
  have hs : (Layout.scalars digitSet).intervals = [⟨48, 57⟩] := by cbv
  have ha : Layout.ofAtom (.chars digitSet) = .chars digitSet := by
    rw [Layout.ofAtom, Layout.ofSet, hs]
    rfl
  change (Layout.ofAtom (.chars digitSet)).repeated f.width (some f.width) true = _
  rw [ha]
  cases f <;> rfl

lemma layout_literal (c : Char) :
    (partOf (.literal c)).layout = .bytes (String.utf8EncodeChar c) := by
  change Layout.ofAtom (.chars (.single c)) = _
  rw [Layout.ofAtom, Layout.ofSet, CharSet.scalars_single]
  simp

lemma Spells.plain (h : Spells items cs) :
    ∃ ks, List.Forall₂ IsPlain (items.map fun i => (partOf i).layout) ks ∧
      ks.sum ≤ 128 * cs.length := by
  induction h with
  | nil => exact ⟨[], .nil, Nat.le_refl _⟩
  | literal c _ ih =>
    obtain ⟨ks, hs, hl⟩ := ih
    have hp : IsPlain (partOf (.literal c)).layout (32 * (String.utf8EncodeChar c).length) :=
      layout_literal c ▸ .bytes _
    refine ⟨_, .cons hp hs, ?_⟩
    have hc : (String.utf8EncodeChar c).length ≤ 4 := by
      rw [String.length_utf8EncodeChar]
      exact c.utf8Size_le_four
    rw [List.sum_cons, List.length_cons]
    omega
  | field f token ht _ ih =>
    obtain ⟨ks, hs, hl⟩ := ih
    have hw : 0 < f.width := by cases f <;> decide
    have hp : IsPlain (partOf (.field f)).layout (72 * f.width) := layout_field f ▸ .digits hw
    refine ⟨_, .cons hp hs, ?_⟩
    rw [List.sum_cons, List.length_append, ht]
    omega

lemma maxDepth_le {parts : List Part} {n : ℕ} (h : ∀ p ∈ parts, p.depth ≤ n) :
    Part.maxDepth parts ≤ n := by
  have general (m : ℕ) (hm : m ≤ n) : (parts.map (·.depth)).foldl max m ≤ n := by
    induction parts generalizing m with
    | nil => exact hm
    | cons p parts ih =>
      obtain ⟨hp, h⟩ := List.forall_mem_cons.mp h
      exact ih h _ (Nat.max_le.mpr ⟨hm, hp⟩)
  exact general 0 (Nat.zero_le n)

lemma shapePart_eq (items : List DateItem) :
    (shapePart items).layout =
      .sequence ((startPart :: (items.map partOf ++ [endPart])).map (·.layout)) ∧
    (shapePart items).depth = Part.maxDepth (startPart :: (items.map partOf ++ [endPart])) + 1 := by
  cases items <;> exact ⟨rfl, rfl⟩

lemma depth_shapePart (items : List DateItem) : (shapePart items).depth ≤ 3 := by
  rw [(shapePart_eq items).2]
  refine Nat.succ_le_succ (maxDepth_le fun p hp => ?_)
  simp only [List.mem_cons, List.mem_append, List.mem_map, List.not_mem_nil, or_false] at hp
  obtain rfl | ⟨item, -, rfl⟩ | rfl := hp
  · exact Nat.zero_le 2
  · cases item with
    | field f => exact Nat.le_refl 2
    | literal c => exact Nat.zero_le 2
  · exact Nat.zero_le 2

lemma isSome_shape {pattern : List Char} (h : pattern.length ≤ 1 <<< 16) :
    (regex? (shapeOf (itemsOf pattern))).isSome = true := by
  obtain ⟨ks, hs, hl⟩ := (spells_itemsOf pattern).plain
  have hp : List.Forall₂ IsPlain
      ((startPart :: ((itemsOf pattern).map partOf ++ [endPart])).map (·.layout))
      (32 :: (ks ++ [32])) := by
    rw [List.map_cons, List.map_append, List.map_map]
    exact .cons (.look .textStart) (List.rel_append hs (.cons (.look .textEnd) .nil))
  have ht := sequence_takes hp
  rw [← (shapePart_eq _).1] at ht
  have hf : (shapePart (itemsOf pattern)).layout.fits = true := by
    refine fits_of_takes ht ?_
    simp only [List.sum_cons, List.sum_append, List.sum_nil, Footprint.limit]
    omega
  have hd := depth_shapePart (itemsOf pattern)
  exact Option.isSome_iff_exists.mpr ⟨_, regex?_eq_some_iff.mpr
    ⟨_, part?_shapeOf _, hd.trans (by decide), hf, rfl⟩⟩

end DatePattern

end LayeredSchema

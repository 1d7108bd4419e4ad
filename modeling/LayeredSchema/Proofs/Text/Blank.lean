import LayeredSchema.Text.Blank
import Mathlib.Data.List.TakeWhile
import Mathlib.Tactic.Common

/-! Trimming, splitting and lines: what is trimmed off, and where a text is split or a line ends. -/

namespace LayeredSchema.Text

variable {c d : Char} {cs u w l t : List Char}

/-- The characters of a text that is written out, without decoding its bytes. -/
lemma toList_of_eq_ofList {s : String} (h : s = String.ofList cs) : s.toList = cs := by
  rw [h, String.toList_ofList]

lemma takeWhile_append {α : Type} {q : α → Bool} {xs ys : List α} (hx : ∀ a ∈ xs, q a = true)
    (hy : ∀ a, ys.head? = some a → q a = false) : (xs ++ ys).takeWhile q = xs := by
  rw [List.takeWhile_append_of_pos hx]
  cases ys with
  | nil => simp
  | cons y ys => simp [hy y rfl]

lemma dropWhile_append {α : Type} {q : α → Bool} {xs ys : List α} (hx : ∀ a ∈ xs, q a = true)
    (hy : ∀ a, ys.head? = some a → q a = false) : (xs ++ ys).dropWhile q = ys := by
  rw [List.dropWhile_append_of_pos hx]
  cases ys with
  | nil => rfl
  | cons y ys => rw [List.dropWhile_cons, hy y rfl]; rfl

lemma takeWhile_of_dropWhile {q : Char → Bool} (h : cs.dropWhile q = d :: t) :
    (cs ++ w).takeWhile q = cs.takeWhile q ∧ (cs ++ w).dropWhile q = d :: (t ++ w) := by
  induction cs with
  | nil => contradiction
  | cons c cs ih =>
    cases hc : q c with
    | true => simpa [hc] using ih (by simpa [hc] using h)
    | false =>
      obtain ⟨rfl, rfl⟩ : c = d ∧ cs = t := by simpa [hc] using h
      simp [hc]

lemma takeWhile_closing {inside : List Char} (h : d ∉ inside) (after : List Char) :
    (inside ++ d :: after).takeWhile (· != d) = inside ∧
      (inside ++ d :: after).dropWhile (· != d) = d :: after := by
  have hi : ∀ c ∈ inside, (c != d) = true := fun c hc => bne_iff_ne.mpr fun hd => h (hd ▸ hc)
  have hd : ∀ c, (d :: after).head? = some c → (c != d) = false := by simp
  exact ⟨takeWhile_append hi hd, dropWhile_append hi hd⟩

lemma isBlank_of_isDigit (h : c.isDigit = true) : isBlank c = false := by
  have hc : 48 ≤ c.toNat ∧ c.toNat ≤ 57 := Char.isDigit_iff_toNat.mp h
  simp only [isBlank, Bool.or_eq_false_iff, Bool.and_eq_false_iff, decide_eq_false_iff_not,
    beq_eq_false_iff_ne]
  omega

lemma trimLeft_cons (h : isBlank c = false) : trimLeft (c :: cs) = c :: cs := by
  rw [trimLeft, List.dropWhile_cons_of_neg (by simp [h])]

lemma trimLeft_append (h : ∀ c ∈ u, isBlank c = true) : trimLeft (u ++ cs) = trimLeft cs :=
  List.dropWhile_append_of_pos h

lemma trimLeft_append_of_ne (h : trimLeft cs ≠ []) : trimLeft (cs ++ u) = trimLeft cs ++ u := by
  rw [trimLeft, List.dropWhile_append, if_neg (by simpa [trimLeft] using h)]
  rfl

lemma forall_isBlank (h : isAllBlank u = true) : ∀ c ∈ u, isBlank c = true := List.all_eq_true.mp h

lemma forall_not_isBlank (h : l.all (fun c => !isBlank c) = true) : ∀ c ∈ l, isBlank c = false := by
  simpa using h

lemma trimLeft_space : trimLeft (' ' :: cs) = trimLeft cs := rfl

lemma trimLeft_eq_self (h : ∀ c, cs.head? = some c → isBlank c = false) : trimLeft cs = cs := by
  cases cs with
  | nil => rfl
  | cons c cs => exact trimLeft_cons (h c rfl)

lemma trimLeft_eq_nil (h : ∀ c ∈ cs, isBlank c = true) : trimLeft cs = [] :=
  List.dropWhile_eq_nil_iff.mpr h

lemma trimRight_eq_nil (h : ∀ c ∈ cs, isBlank c = true) : trimRight cs = [] := by
  induction cs with
  | nil => rfl
  | cons c cs ih =>
    rw [trimRight, ih fun d hd => h d (List.mem_cons_of_mem c hd)]
    exact if_pos (h c List.mem_cons_self)

lemma trimRight_concat (h : isBlank c = false) : trimRight (cs ++ [c]) = cs ++ [c] := by
  induction cs with
  | nil => simp [trimRight, h]
  | cons d cs ih =>
    rw [List.cons_append, trimRight, ih]
    cases cs <;> rfl

lemma trimRight_of_last (h : cs.getLast? = some c) (hc : isBlank c = false) :
    trimRight cs = cs := by
  obtain ⟨ds, rfl⟩ := List.getLast?_eq_some_iff.mp h
  exact trimRight_concat hc

lemma trimRight_append (h : ∀ c ∈ u, isBlank c = true) : trimRight (cs ++ u) = trimRight cs := by
  induction cs with
  | nil => exact trimRight_eq_nil h
  | cons c cs ih => rw [List.cons_append, trimRight, ih, trimRight]

lemma trimRight_append_of_ne (h : trimRight cs ≠ []) : trimRight (u ++ cs) = u ++ trimRight cs := by
  induction u with
  | nil => rfl
  | cons c u ih =>
    obtain ⟨d, ds, hd⟩ := List.exists_cons_of_ne_nil (List.append_ne_nil_of_right_ne_nil u h)
    rw [List.cons_append, trimRight, ih, hd, List.cons_append, hd]

lemma trim_eq_self (h : ∀ c, cs.head? = some c → isBlank c = false)
    (hl : cs.getLast? = some c) (hc : isBlank c = false) : trim cs = cs := by
  rw [trim, trimLeft_eq_self h, trimRight_of_last hl hc]

lemma last_trimRight (h : (trimRight cs).getLast? = some c) : isBlank c = false := by
  induction cs with
  | nil => simp [trimRight] at h
  | cons d cs ih =>
    rw [trimRight] at h
    split at h
    · split at h
      · simp at h
      · simp_all
    · rename_i he
      rw [List.getLast?_cons_cons, ← he] at h
      exact ih h

lemma trimRight_isPrefix (cs : List Char) : trimRight cs <+: cs := by
  induction cs with
  | nil => simp [trimRight]
  | cons c cs ih =>
    rw [trimRight]
    split
    · split <;> simp
    · rename_i h
      rw [← h]
      exact (List.prefix_cons_inj c).mpr ih

lemma head_trimLeft (h : (trimLeft cs).head? = some c) : isBlank c = false := by
  have := List.head?_dropWhile_not isBlank cs
  rw [trimLeft] at h
  simpa [h] using this

lemma isEmpty_trim (cs : List Char) : (trim cs).isEmpty = isAllBlank cs := by
  cases ht : trimLeft cs with
  | nil =>
    have hb : isAllBlank cs = true := List.all_eq_true.mpr (List.dropWhile_eq_nil_iff.mp ht)
    rw [trim, ht, hb]
    rfl
  | cons c ds =>
    have hc : isBlank c = false := head_trimLeft (by rw [ht, List.head?_cons])
    have hm : c ∈ cs := by
      apply (List.dropWhile_suffix isBlank).subset
      exact (congrArg (c ∈ ·) ht).mpr List.mem_cons_self
    have hb : isAllBlank cs = false := List.all_eq_false.mpr ⟨c, hm, by simp [hc]⟩
    rw [trim, ht, hb, trimRight]
    split <;> simp [hc]

lemma trimLeft_trimLeft (cs : List Char) : trimLeft (trimLeft cs) = trimLeft cs :=
  trimLeft_eq_self fun _ => head_trimLeft

lemma ends_of_trim_eq_self (h : trim cs = cs) (hn : cs ≠ []) :
    (∀ c, cs.head? = some c → isBlank c = false) ∧
      ∃ c, cs.getLast? = some c ∧ isBlank c = false := by
  have hl : trimLeft cs = cs := by
    refine (List.dropWhile_suffix isBlank).eq_of_length_le ?_
    calc cs.length = (trimRight (trimLeft cs)).length := by rw [← trim, h]
      _ ≤ (trimLeft cs).length := length_trimRight_le _
  have hr : trimRight cs = cs := by rwa [trim, hl] at h
  refine ⟨fun c hc => head_trimLeft (by rwa [hl]), ?_⟩
  obtain ⟨c, hc⟩ : ∃ c, cs.getLast? = some c := ⟨_, List.getLast?_eq_some_getLast hn⟩
  exact ⟨c, hc, last_trimRight (by rwa [hr])⟩

lemma trim_padded (hp : ∀ c ∈ u, isBlank c = true) (hq : ∀ c ∈ w, isBlank c = true)
    (h : ∀ c ∈ l, isBlank c = false) : trim (u ++ l ++ w) = l := by
  rw [List.append_assoc, trim, trimLeft_append hp]
  cases l with
  | nil => rw [List.nil_append, trimLeft_eq_nil hq, trimRight]
  | cons c l =>
    obtain ⟨d, hd⟩ : ∃ d, (c :: l).getLast? = some d := ⟨_, List.getLast?_eq_some_getLast (by simp)⟩
    rw [List.cons_append, trimLeft_cons (h c List.mem_cons_self), ← List.cons_append,
      trimRight_append hq, trimRight_of_last hd (h d (List.mem_of_getLast? hd))]

lemma trim_eq_self_of_forall (h : ∀ c ∈ l, isBlank c = false) : trim l = l := by
  simpa using trim_padded (u := []) (w := []) (by simp) (by simp) h

lemma trim_eq_trimLeft (h : cs.getLast? = some c) (hc : isBlank c = false) :
    trim cs = trimLeft cs := by
  obtain ⟨ds, rfl⟩ := List.getLast?_eq_some_iff.mp h
  rw [trim]
  by_cases hd : trimLeft ds = []
  · rw [trimLeft_append (List.dropWhile_eq_nil_iff.mp hd), trimLeft_cons hc]
    exact trimRight_of_last rfl hc
  · rw [trimLeft_append_of_ne hd]
    exact trimRight_concat hc

lemma dropLastChar?_concat : dropLastChar? d (cs ++ [c]) = if c = d then some cs else none := by
  induction cs with
  | nil => rfl
  | cons e cs ih =>
    obtain ⟨f, fs, hf⟩ := List.exists_cons_of_ne_nil (List.append_ne_nil_of_right_ne_nil cs
      (List.cons_ne_nil c []))
    rw [List.cons_append, hf, dropLastChar?, ← hf, ih]
    · split <;> rfl
    · simp

lemma eq_concat_of_dropLastChar? (h : dropLastChar? d cs = some l) : cs = l ++ [d] := by
  rcases List.eq_nil_or_concat cs with rfl | ⟨ds, c, rfl⟩
  · contradiction
  · rw [List.concat_eq_append] at h ⊢
    rw [dropLastChar?_concat] at h
    split at h
    · rename_i hc
      rw [hc, Option.some.inj h]
    · contradiction

lemma dropLastChar?_append (h : cs ≠ []) :
    dropLastChar? d (u ++ cs) = (dropLastChar? d cs).map (u ++ ·) := by
  obtain ⟨ds, c, rfl⟩ := (List.eq_nil_or_concat cs).resolve_left h
  rw [List.concat_eq_append, ← List.append_assoc, dropLastChar?_concat, dropLastChar?_concat]
  split <;> rfl

lemma isSome_dropStem? {stem : List Char} : (dropStem? stem cs).isSome ↔ stem <+: cs := by
  induction stem generalizing cs with
  | nil => simp [dropStem?]
  | cons p ps ih =>
    cases cs with
    | nil => simp [dropStem?]
    | cons c cs =>
      rw [dropStem?, List.cons_prefix_cons]
      split
      · simp [*]
      · simp [*]

section Split

variable {stem sep rest : List Char}

lemma dropStem?_append (stem rest : List Char) : dropStem? stem (stem ++ rest) = some rest := by
  induction stem with
  | nil => rfl
  | cons p ps ih => rw [List.cons_append, dropStem?, if_pos rfl, ih]

lemma eq_append_of_dropStem? (h : dropStem? stem cs = some rest) : cs = stem ++ rest := by
  induction stem generalizing cs with
  | nil => exact Option.some.inj h
  | cons p ps ih =>
    cases cs with
    | nil => contradiction
    | cons c cs =>
      rw [dropStem?] at h
      split at h
      · rename_i hp
        rw [hp, ih h, List.cons_append]
      · contradiction

lemma eq_append_of_splitOnce? (h : splitOnce? sep cs = some (u, w)) : cs = u ++ sep ++ w := by
  induction cs generalizing u with
  | nil =>
    rw [splitOnce?] at h
    split at h
    · rename_i hs
      obtain ⟨rfl, rfl⟩ := Prod.mk.inj (Option.some.inj h)
      simpa using hs
    · contradiction
  | cons c cs ih =>
    rw [splitOnce?] at h
    split at h
    · rename_i rest hr
      obtain ⟨rfl, rfl⟩ := Prod.mk.inj (Option.some.inj h)
      exact eq_append_of_dropStem? hr
    · obtain ⟨⟨x, y⟩, hs, he⟩ := Option.map_eq_some_iff.mp h
      obtain ⟨rfl, rfl⟩ := Prod.mk.inj he
      rw [ih hs, List.cons_append, List.cons_append]

lemma splitOnce?_eq_none (h : d ∉ cs) : splitOnce? (d :: sep) cs = none := by
  induction cs with
  | nil => rfl
  | cons c cs ih =>
    obtain ⟨hc, hs⟩ := not_or.mp (mt List.mem_cons.mpr h)
    rw [splitOnce?, dropStem?, if_neg hc, ih hs]
    rfl

lemma splitOnce?_append (h : d ∉ u) :
    splitOnce? (d :: sep) (u ++ (d :: sep) ++ w) = some (u, w) := by
  induction u with
  | nil =>
    have hd : dropStem? (d :: sep) (d :: (sep ++ w)) = some w := dropStem?_append (d :: sep) w
    rw [List.nil_append, List.cons_append, splitOnce?, hd]
  | cons c u ih =>
    obtain ⟨hc, hs⟩ := not_or.mp (mt List.mem_cons.mpr h)
    rw [List.cons_append, List.cons_append, splitOnce?, dropStem?, if_neg hc, ih hs]
    rfl

end Split

lemma lines_line (hn : '\n' ∉ l) (hl : l.getLast? ≠ some '\r') :
    lines (l ++ '\n' :: t) = l :: lines t := by
  induction l with
  | nil => rw [List.nil_append, lines]
  | cons c l ih =>
    rw [List.mem_cons, not_or] at hn
    cases l with
    | nil =>
      have hc : c ≠ '\r' := by simpa using hl
      simp [lines, Ne.symm hn.1, hc]
    | cons d l =>
      rw [List.getLast?_cons_cons] at hl
      have hd : d ≠ '\n' := fun h => hn.2 (h ▸ List.mem_cons_self)
      rw [List.cons_append, lines, ih hn.2 hl]
      · exact fun h => hn.1 h.symm
      · simp [hd]

end LayeredSchema.Text

import LayeredSchema.Table
import Mathlib.Data.List.Nodup
import Mathlib.Data.List.Pairwise
import Mathlib.Data.String.Basic
import Mathlib.Tactic.Common

/-! Sorted entries: appending, look-up, and tables that are made from their own entries. -/

namespace LayeredSchema

namespace Entries

variable {α β : Type}

lemma insert_of_lt {k : String} {a : α} {es : Entries α} (h : ∀ e ∈ es, e.1 < k) :
    insert k a es = es ++ [(k, a)] := by
  induction es with
  | nil => rfl
  | cons e es ih =>
    obtain ⟨l, b⟩ := e
    have hl : l < k := h (l, b) List.mem_cons_self
    rw [insert, if_neg (lt_asymm hl), if_neg hl.ne', ih fun e he => h e (List.mem_cons_of_mem _ he)]
    rfl

lemma Sorted.lt_of_append {es fs : Entries α} (h : Sorted (es ++ fs)) {e f : String × α}
    (he : e ∈ es) (hf : f ∈ fs) : e.1 < f.1 :=
  (List.pairwise_append.mp h).2.2 e he f hf

lemma foldl_insert {es fs : Entries α} (h : Sorted (es ++ fs)) :
    fs.foldl (fun t e => insert e.1 e.2 t) es = es ++ fs := by
  induction fs generalizing es with
  | nil => simp
  | cons f fs ih =>
    rw [List.foldl_cons, insert_of_lt fun e he => h.lt_of_append he List.mem_cons_self]
    have hf : es ++ [(f.1, f.2)] ++ fs = es ++ f :: fs := by simp
    rw [ih (hf ▸ h), hf]

lemma ofList_eq_self {es : Entries α} (h : Sorted es) : ofList es = es := foldl_insert h

lemma mem_of_mem_ofList {es : Entries α} {e : String × α} (h : e ∈ ofList es) : e ∈ es := by
  have hf : ∀ t : Entries α, e ∈ es.foldl (fun t e => insert e.1 e.2 t) t → e ∈ t ∨ e ∈ es := by
    clear h
    induction es with
    | nil => exact fun t h => Or.inl h
    | cons f es ih =>
      intro t ht
      rcases ih _ ht with h | h
      · rcases mem_insert h with rfl | h
        · exact Or.inr List.mem_cons_self
        · exact Or.inl h
      · exact Or.inr (List.mem_cons_of_mem _ h)
  exact (hf [] h).resolve_left (by simp)

lemma Sorted.map {es : Entries α} (h : Sorted es) (f : String × α → β) :
    Sorted (es.map fun e => (e.1, f e)) := by
  rw [Sorted, List.pairwise_map]
  exact h

lemma Sorted.nodup_names {es : Entries α} (h : Sorted es) : es.names.Nodup := by
  rw [names, List.nodup_iff_pairwise_ne, List.pairwise_map]
  exact h.imp fun h => h.ne

lemma mem_of_get? {es : Entries α} {k : String} {a : α} (h : es.get? k = some a) :
    (k, a) ∈ es := by
  simp only [get?, Option.map_eq_some_iff] at h
  obtain ⟨e, he, rfl⟩ := h
  obtain rfl : e.1 = k := by simpa using List.find?_some he
  exact List.mem_of_find?_eq_some he

lemma get?_eq_none_iff {es : Entries α} {k : String} : es.get? k = none ↔ k ∉ es.names := by
  simp only [get?, Option.map_eq_none_iff, List.find?_eq_none, names, List.mem_map, beq_iff_eq]
  constructor
  · rintro h ⟨e, he, hk⟩
    exact h e he hk
  · intro h e he hk
    exact h ⟨e, he, hk⟩

lemma mem_names_iff {es : Entries α} {k : String} : k ∈ es.names ↔ ∃ a, es.get? k = some a := by
  rw [← Option.ne_none_iff_exists', ne_eq, get?_eq_none_iff, not_not]

lemma mem_names_insert {k l : String} {a : α} {es : Entries α} :
    l ∈ (insert k a es).names ↔ l = k ∨ l ∈ es.names := by
  rw [← not_iff_not, not_or, ← get?_eq_none_iff, ← get?_eq_none_iff, get?_insert]
  by_cases h : k = l
  · simp [h]
  · simp [h, Ne.symm h]

lemma mem_names_ofList {k : String} {es : Entries α} : k ∈ (ofList es).names ↔ k ∈ es.names := by
  have hf : ∀ t : Entries α,
      k ∈ names (es.foldl (fun t e => insert e.1 e.2 t) t) ↔ k ∈ t.names ∨ k ∈ es.names := by
    induction es with
    | nil => simp [names]
    | cons e es ih =>
      intro t
      rw [List.foldl_cons, ih, mem_names_insert]
      simp only [names, List.map_cons, List.mem_cons]
      tauto
  exact (hf []).trans (by simp [names])

lemma not_mem_of_nodup_append {es fs : Entries α} {e : String × α}
    (h : (es ++ e :: fs).names.Nodup) : e.1 ∉ es.names := by
  simp only [names, List.map_append, List.map_cons] at h
  exact fun he => (List.nodup_append.mp h).2.2 _ he _ List.mem_cons_self rfl

lemma get?_append (es fs : Entries α) (k : String) :
    (es ++ fs).get? k = (es.get? k).or (fs.get? k) := by
  simp only [get?, List.find?_append]
  cases es.find? (·.1 == k) <;> rfl

lemma get?_of_mem {es : Entries α} {k : String} {a : α} (h : es.names.Nodup)
    (ha : (k, a) ∈ es) : es.get? k = some a := by
  induction es with
  | nil => simp at ha
  | cons e es ih =>
    obtain ⟨he, hs⟩ := List.nodup_cons.mp h
    rw [get?_cons]
    rcases List.mem_cons.mp ha with rfl | ha
    · simp
    · rw [if_neg, ih hs ha]
      rintro rfl
      exact he (List.mem_map.mpr ⟨_, ha, rfl⟩)

lemma get?_foldl_insert {es t : Entries α} (h : es.names.Nodup) (k : String) :
    (es.foldl (fun t e => insert e.1 e.2 t) t).get? k = (es.get? k).or (t.get? k) := by
  induction es generalizing t with
  | nil => simp
  | cons e es ih =>
    obtain ⟨he, hs⟩ := List.nodup_cons.mp h
    rw [List.foldl_cons, ih hs, get?_insert, get?_cons]
    by_cases hk : e.1 = k
    · subst hk
      simp [get?_eq_none_iff.mpr he]
    · simp [hk]

lemma get?_ofList {es : Entries α} (h : es.names.Nodup) (k : String) :
    (ofList es).get? k = es.get? k := by
  rw [ofList, get?_foldl_insert h, get?_nil, Option.or_none]

lemma get?_ofList_append {xs ys : Entries α} (hx : xs.names.Nodup) (hy : ys.names.Nodup)
    (k : String) : (ofList (xs ++ ys)).get? k = (ys.get? k).or (xs.get? k) := by
  rw [ofList, List.foldl_append, get?_foldl_insert hy]
  exact congrArg _ (get?_ofList hx k)

lemma get?_foldl_insert_of_not_mem {es t : Entries α} {k : String} (h : k ∉ es.names) :
    (es.foldl (fun t e => insert e.1 e.2 t) t).get? k = t.get? k := by
  induction es generalizing t with
  | nil => rfl
  | cons e es ih =>
    simp only [names, List.map_cons, List.mem_cons, not_or] at h
    rw [List.foldl_cons, ih h.2, get?_insert, if_neg (Ne.symm h.1)]

lemma get?_ofList_append_cons {before after : Entries α} {e : String × α}
    (h : e.1 ∉ names after) : (ofList (before ++ e :: after)).get? e.1 = some e.2 := by
  rw [ofList, List.foldl_append, List.foldl_cons, get?_foldl_insert_of_not_mem h, get?_insert,
    if_pos rfl]

lemma perm_insert {k : String} {a : α} {es : Entries α} (h : k ∉ es.names) :
    List.Perm (insert k a es) ((k, a) :: es) := by
  induction es with
  | nil => exact .rfl
  | cons e es ih =>
    obtain ⟨l, b⟩ := e
    simp only [names, List.map_cons, List.mem_cons, not_or] at h
    rw [insert]
    split
    · exact .rfl
    · rw [if_neg h.1]
      exact ((ih h.2).cons _).trans (.swap _ _ _)

lemma perm_foldl_insert {es t : Entries α} (h : (es ++ t).names.Nodup) :
    List.Perm (es.foldl (fun t e => insert e.1 e.2 t) t) (es ++ t) := by
  induction es generalizing t with
  | nil => exact .rfl
  | cons e es ih =>
    obtain ⟨he, hs⟩ := List.nodup_cons.mp h
    have hp : List.Perm (insert e.1 e.2 t) (e :: t) :=
      perm_insert fun hm => he (List.map_append ▸ List.mem_append_right _ hm)
    have hm : List.Perm (es ++ insert e.1 e.2 t) (e :: (es ++ t)) :=
      (hp.append_left es).trans List.perm_middle
    exact (ih ((hm.map _).nodup_iff.mpr h)).trans hm

lemma perm_ofList {es : Entries α} (h : es.names.Nodup) : List.Perm (ofList es) es := by
  simpa [ofList] using perm_foldl_insert (t := []) (by simpa using h)

lemma Sorted.eq_of_perm {es fs : Entries α} (he : es.Sorted) (hf : fs.Sorted)
    (h : List.Perm es fs) : es = fs :=
  h.eq_of_pairwise (fun _ _ _ _ hab hba => absurd hba (lt_asymm hab)) he hf

lemma perm_of_get?_eq {es fs : Entries α} (he : es.names.Nodup) (hf : fs.names.Nodup)
    (h : ∀ k, es.get? k = fs.get? k) : List.Perm es fs := by
  refine (List.perm_ext_iff_of_nodup (List.Nodup.of_map _ he) (List.Nodup.of_map _ hf)).mpr
    fun e => ?_
  constructor
  · exact fun hm => mem_of_get? ((h e.1).symm.trans (get?_of_mem he hm))
  · exact fun hm => mem_of_get? ((h e.1).trans (get?_of_mem hf hm))

lemma Sorted.eq_of_get?_eq {es fs : Entries α} (he : es.Sorted) (hf : fs.Sorted)
    (h : ∀ k, es.get? k = fs.get? k) : es = fs :=
  he.eq_of_perm hf (perm_of_get?_eq he.nodup_names hf.nodup_names h)

lemma get?_map (es : Entries α) (f : α → β) (k : String) :
    get? (es.map fun e => (e.1, f e.2)) k = (es.get? k).map f := by
  induction es with
  | nil => rfl
  | cons e es ih =>
    rw [List.map_cons, get?_cons, get?_cons, ih]
    split <;> rfl

lemma get?_eq_lookup (es : Entries α) (k : String) : es.get? k = es.lookup k := by
  induction es with
  | nil => rfl
  | cons e es ih =>
    rw [get?_cons, List.lookup_cons, ih]
    by_cases h : e.1 = k
    · simp [h]
    · rw [if_neg h, beq_false_of_ne (Ne.symm h)]

lemma contains_iff {es : Entries α} {k : String} : es.contains k = true ↔ k ∈ es.names := by
  simp [contains, names]

lemma contains_of_lt {es : Entries α} {k : String} (h : ∀ e ∈ es, e.1 < k) :
    es.contains k = false := by
  rw [← Bool.not_eq_true, contains_iff]
  intro hm
  obtain ⟨e, he, hk⟩ := List.mem_map.mp hm
  exact (h e he).ne hk

end Entries

namespace Table

variable {α β : Type}

lemma ext {s t : Table α} (h : s.entries = t.entries) : s = t := by
  cases s
  cases t
  simpa using h

lemma ofList_entries (t : Table α) : Table.ofList t.entries = t :=
  ext (Entries.ofList_eq_self t.sorted)

lemma ext_get? {s t : Table α} (h : ∀ k, s.get? k = t.get? k) : s = t :=
  ext (s.sorted.eq_of_get?_eq t.sorted h)

end Table

end LayeredSchema

import LayeredSchema.Proofs.Registry.Tags
import Mathlib

/-!
Look-ups by type tag. Names and versions may contain the slash that a tag separates them with, and
then definitions whose names are apart can have one tag. Main statement: `tags_tell_apart`.
-/

namespace LayeredSchema

namespace Kind

lemma customTag_toList (name version : String) : (customTag name version).toList =
    tagStem ++ ((customSlug name).toList ++ '/' :: version.toList) := by
  rw [customTag, tagOf, String.toList_append, String.toList_append, String.toList_append,
    List.append_assoc, List.append_assoc]
  rfl

lemma slash_mem_customSlug {name : String} :
    '/' ∈ (customSlug name).toList ↔ '/' ∈ name.toList := by
  rw [customSlug, String.toList_ofList, List.mem_map]
  have hc (c : Char) : (if decide (c = '-') || decide (c = ' ') then '_' else c.toLower) = '/' ↔
      c = '/' := by
    split
    · rename_i h
      rw [Bool.or_eq_true, decide_eq_true_eq, decide_eq_true_eq] at h
      rcases h with rfl | rfl <;> decide
    · rw [← beq_iff_eq, toLower_beq rfl, beq_iff_eq]
  simp only [hc, exists_eq_right]

end Kind

namespace Definition

/-- One text is cut into name and version of the one at a slash, and of the other at a later one. -/
def Recut (d e : Definition) : Prop :=
  ∃ s, Kind.customSlug e.name = Kind.customSlug d.name ++ "/" ++ s ∧
    d.version = s ++ "/" ++ e.version

/-- A built-in kind is defined under its own name, in its own version. -/
def IsGenuine (d : Definition) : Prop :=
  d.kind ≠ .custom → d.name = d.kind.name ∧ d.version = Kind.builtinVersion

variable {d e : Definition}

lemma customTag_eq_iff : Kind.customTag d.name d.version = Kind.customTag e.name e.version ↔
    (Kind.customSlug d.name = Kind.customSlug e.name ∧ d.version = e.version) ∨
      Recut d e ∨ Recut e d := by
  have hr (d e : Definition) : Recut d e ↔ ∃ s : List Char,
      (Kind.customSlug e.name).toList = (Kind.customSlug d.name).toList ++ '/' :: s ∧
        d.version.toList = s ++ '/' :: e.version.toList := by
    constructor
    · rintro ⟨s, hs, hv⟩
      exact ⟨s.toList, by simp [hs], by simp [hv]⟩
    · rintro ⟨s, hs, hv⟩
      exact ⟨String.ofList s, String.toList_injective (by simp [hs]),
        String.toList_injective (by simp [hv])⟩
  rw [hr, hr, ← String.toList_inj, Kind.customTag_toList, Kind.customTag_toList,
    List.append_cancel_left_eq, List.append_eq_append_iff, ← String.toList_inj, ← String.toList_inj]
  -- What the longer slug has on top of the shorter one is nothing, or starts with the slash.
  constructor
  · rintro (⟨_ | ⟨c, s⟩, hs, hv⟩ | ⟨_ | ⟨c, s⟩, hs, hv⟩)
    · simp_all
    · obtain ⟨rfl, ht⟩ := List.cons.inj hv
      exact Or.inr (Or.inl ⟨s, hs, ht⟩)
    · simp_all
    · obtain ⟨rfl, ht⟩ := List.cons.inj hv
      exact Or.inr (Or.inr ⟨s, hs, ht⟩)
  · rintro (⟨hs, hv⟩ | ⟨s, hs, hv⟩ | ⟨s, hs, hv⟩)
    · exact Or.inl ⟨[], by simp [hs], by simp [hv]⟩
    · exact Or.inl ⟨'/' :: s, hs, by simp [hv]⟩
    · exact Or.inr ⟨'/' :: s, hs, by simp [hv]⟩

lemma Recut.slash_mem (h : Recut d e) : '/' ∈ d.version.toList ∧ '/' ∈ e.name.toList := by
  obtain ⟨s, hs, hv⟩ := h
  refine ⟨by simp [hv], Kind.slash_mem_customSlug.mp ?_⟩
  simp [hs]

lemma not_recut_self : ¬Recut d d := by
  rintro ⟨s, hs, -⟩
  have hl := congrArg (fun s => s.toList.length) hs
  simp only [String.toList_append, List.length_append] at hl
  have hp : 0 < "/".toList.length := by decide
  omega

lemma IsGenuine.not_slash_mem (h : d.IsGenuine) (hk : d.kind ≠ .custom) :
    '/' ∉ d.name.toList ∧ '/' ∉ d.version.toList := by
  have hn (k : Kind) : '/' ∉ k.name.toList := by cases k <;> decide
  have hv : '/' ∉ Kind.builtinVersion.toList := by decide
  obtain ⟨hname, hversion⟩ := h hk
  rw [hname, hversion]
  exact ⟨hn _, hv⟩

lemma ofTag?_tag (hk : d.kind ≠ .custom) : Kind.ofTag? d.tag = some d.kind := by
  have ht : d.tag = Kind.tagOf d.kind.slug Kind.builtinVersion := by
    rw [tag, Kind.tag?.eq_def]
    split
    · contradiction
    · rfl
  rw [ht, Kind.ofTag?_tagOf hk]

end Definition

namespace Registry

open Definition

variable {r : Registry} {calls : List Call} {c : Call} {d e : Definition} {i j : ℕ}

lemma genuine_pushAliases (h : ∀ d ∈ r.definitions, d.IsGenuine) (i : ℕ) (aliases : List String) :
    ∀ d ∈ (r.pushAliases i aliases).1.definitions, d.IsGenuine := by
  induction aliases generalizing r with
  | nil => exact h
  | cons other aliases ih =>
    rw [pushAliases]
    split
    · apply ih
      intro d hd
      obtain ⟨j, hj⟩ := List.mem_iff_getElem?.mp hd
      rw [pushAlias, List.getElem?_modify] at hj
      obtain ⟨e, he, rfl⟩ := Option.map_eq_some_iff.mp hj
      have hg := h e (List.mem_of_getElem? he)
      split
      · exact hg
      · exact hg
    · split
      · exact ih h
      · exact h

lemma genuine_call (h : ∀ d ∈ r.definitions, d.IsGenuine) (hc : c.IsCustom) :
    ∀ d ∈ (r.call c).1.definitions, d.IsGenuine := by
  cases c with
  | insert e =>
    rw [call]
    split
    · rename_i hs
      obtain ⟨-, rfl⟩ := insert_ok_iff.mp hs
      exact List.forall_mem_append.mpr ⟨h, List.forall_mem_singleton.mpr fun hk => absurd hc hk⟩
    · exact h
  | addAliases name aliases =>
    rw [call, addAliases]
    split
    · exact h
    · exact genuine_pushAliases h _ aliases

lemma genuine_run (h : ∀ d ∈ r.definitions, d.IsGenuine) (hc : ∀ c ∈ calls, c.IsCustom) :
    ∀ d ∈ (r.run calls).definitions, d.IsGenuine := by
  induction calls generalizing r with
  | nil => exact h
  | cons c calls ih =>
    obtain ⟨hc, hs⟩ := List.forall_mem_cons.mp hc
    exact ih (genuine_call h hc) hs

lemma genuine_builtin : ∀ d ∈ builtin.definitions, d.IsGenuine := by
  intro d hd
  obtain ⟨k, -, rfl⟩ := List.mem_map.mp hd
  exact fun _ => ⟨rfl, rfl⟩

lemma Distinct.resolveTag_eq_some_iff (hr : r.Distinct) (hi : r.definitions[i]? = some d) :
    r.resolveTag d.tag = some d ↔
      ∀ j < i, ∀ e, r.definitions[j]? = some e → e.tag ≠ d.tag := by
  obtain ⟨hl, hd⟩ := List.getElem?_eq_some_iff.mp hi
  rw [resolveTag, List.find?_eq_some_iff_getElem]
  constructor
  · rintro ⟨-, k, hk, hkd, hb⟩ j hj e he
    obtain rfl : k = i := hr.isUnambiguous.single k i d d
      (List.getElem?_eq_some_iff.mpr ⟨hk, hkd⟩) hi d.name List.mem_cons_self d.name
      List.mem_cons_self rfl
    obtain ⟨hl, rfl⟩ := List.getElem?_eq_some_iff.mp he
    simpa using hb j hj
  · intro h
    refine ⟨beq_self_eq_true _, i, hl, hd, fun j hj => ?_⟩
    have hn := h j hj _ (List.getElem?_eq_getElem (Nat.lt_trans hj hl))
    simpa using hn

lemma tag_ne (hc : ∀ c ∈ calls, c.IsCustom) (hi : (builtin.run calls).definitions[i]? = some d)
    (hj : (builtin.run calls).definitions[j]? = some e) (hij : i ≠ j) (hk : d.kind ≠ .custom) :
    d.tag ≠ e.tag := by
  intro h
  have hd := List.mem_of_getElem? hi
  have he := List.mem_of_getElem? hj
  by_cases hek : e.kind = .custom
  · have hn := ofTag?_of_custom hc he hek
    rw [← h, ofTag?_tag hk] at hn
    contradiction
  · have hke : d.kind = e.kind := by
      apply Option.some.inj
      rw [← ofTag?_tag hk, ← ofTag?_tag hek, h]
    have hg := genuine_run genuine_builtin hc
    have hn : d.name = e.name := by rw [(hg d hd hk).1, (hg e he hek).1, hke]
    exact hij ((distinct_builtin.run_calls hc).isUnambiguous.single i j d e hi hj d.name
      List.mem_cons_self e.name List.mem_cons_self (congrArg normalName hn))

lemma tag_eq_iff (hc : ∀ c ∈ calls, c.IsCustom) (hi : (builtin.run calls).definitions[i]? = some d)
    (hj : (builtin.run calls).definitions[j]? = some e) (hij : i ≠ j) :
    d.tag = e.tag ↔ Recut d e ∨ Recut e d := by
  have hg := genuine_run genuine_builtin hc
  have hgd := hg d (List.mem_of_getElem? hi)
  have hge := hg e (List.mem_of_getElem? hj)
  by_cases hdk : d.kind = .custom
  · by_cases hek : e.kind = .custom
    · have ht : d.tag = e.tag ↔
          Kind.customTag d.name d.version = Kind.customTag e.name e.version := by
        rw [tag, tag, hdk, hek]
        rfl
      rw [ht, customTag_eq_iff, or_iff_right]
      rintro ⟨h, -⟩
      have hn : normalName d.name = normalName e.name := by
        rw [← Kind.normalName_customSlug, h, Kind.normalName_customSlug]
      exact hij ((distinct_builtin.run_calls hc).isUnambiguous.single i j d e hi hj d.name
        List.mem_cons_self e.name List.mem_cons_self hn)
    · exact iff_of_false (tag_ne hc hj hi hij.symm hek).symm (not_or.mpr
        ⟨fun h => (hge.not_slash_mem hek).1 h.slash_mem.2,
          fun h => (hge.not_slash_mem hek).2 h.slash_mem.1⟩)
  · exact iff_of_false (tag_ne hc hi hj hij hdk) (not_or.mpr
      ⟨fun h => (hgd.not_slash_mem hdk).2 h.slash_mem.1,
        fun h => (hgd.not_slash_mem hdk).1 h.slash_mem.2⟩)

/-- Two definitions have one tag just if it can be cut into name and version in two places. Of those
with one tag the first is found by it. -/
theorem tags_tell_apart (hc : ∀ c ∈ calls, c.IsCustom) :
    (∀ (i j : ℕ) d e, (builtin.run calls).definitions[i]? = some d →
      (builtin.run calls).definitions[j]? = some e → i ≠ j →
        (d.tag = e.tag ↔ Recut d e ∨ Recut e d)) ∧
    (∀ (i : ℕ) d, (builtin.run calls).definitions[i]? = some d →
      ((builtin.run calls).resolveTag d.tag = some d ↔
        ∀ j < i, ∀ e, (builtin.run calls).definitions[j]? = some e → ¬Recut d e ∧ ¬Recut e d)) ∧
    (∀ d ∈ (builtin.run calls).definitions, d.kind ≠ .custom →
      (builtin.run calls).resolveTag d.tag = some d) ∧
    [(builtin.run calls).definitions.Pairwise (·.tag ≠ ·.tag),
      ∀ d ∈ (builtin.run calls).definitions, (builtin.run calls).resolveTag d.tag = some d,
      ∀ n d, (builtin.run calls).resolve n = some d →
        (builtin.run calls).resolveTag d.tag = some d,
      ∀ d ∈ (builtin.run calls).definitions, ∀ e ∈ (builtin.run calls).definitions,
        ¬Recut d e].TFAE := by
  have hr := distinct_builtin.run_calls hc
  have hfound : ∀ (i : ℕ) d, (builtin.run calls).definitions[i]? = some d →
      ((builtin.run calls).resolveTag d.tag = some d ↔
        ∀ j < i, ∀ e, (builtin.run calls).definitions[j]? = some e →
          ¬Recut d e ∧ ¬Recut e d) := by
    intro i d hi
    rw [hr.resolveTag_eq_some_iff hi]
    refine forall₄_congr fun j hj e he => ?_
    rw [ne_comm, ne_eq, tag_eq_iff hc hi he (by omega), not_or]
  refine ⟨fun _ _ _ _ => tag_eq_iff hc, hfound, ?_, ?_⟩
  · intro d hd hk
    obtain ⟨i, hi⟩ := List.mem_iff_getElem?.mp hd
    rw [hr.resolveTag_eq_some_iff hi]
    exact fun j hj e he => (tag_ne hc hi he (by omega) hk).symm
  · tfae_have 1 → 4 := by
      intro h d hd e he hde
      obtain ⟨i, hi⟩ := List.mem_iff_getElem?.mp hd
      obtain ⟨j, hj⟩ := List.mem_iff_getElem?.mp he
      obtain ⟨hil, rfl⟩ := List.getElem?_eq_some_iff.mp hi
      obtain ⟨hjl, rfl⟩ := List.getElem?_eq_some_iff.mp hj
      rw [List.pairwise_iff_getElem] at h
      rcases Nat.lt_trichotomy i j with hij | rfl | hij
      · exact h i j hil hjl hij ((tag_eq_iff hc hi hj hij.ne).mpr (.inl hde))
      · exact not_recut_self hde
      · exact h j i hjl hil hij ((tag_eq_iff hc hj hi hij.ne).mpr (.inr hde))
    tfae_have 4 → 2 := by
      intro h d hd
      obtain ⟨i, hi⟩ := List.mem_iff_getElem?.mp hd
      rw [hfound i d hi]
      exact fun j _ e he => ⟨h d hd e (List.mem_of_getElem? he), h e (List.mem_of_getElem? he) d hd⟩
    tfae_have 2 → 3 := fun h n d hd => h d (mem_of_resolve hd)
    tfae_have 3 → 1 := by
      intro h
      rw [List.pairwise_iff_getElem]
      intro i j hi hj hij ht
      have hd := List.getElem?_eq_getElem hj
      have hn := hr.isUnambiguous.own _ (List.getElem_mem hj) _ List.mem_cons_self
      exact (hr.resolveTag_eq_some_iff hd).mp (h _ _ hn) i hij _ (List.getElem?_eq_getElem hi) ht
    tfae_finish

def slashedCalls : List Call :=
  [.insert (.custom "a/1" "1" true []), .insert (.custom "a" "1/1" false [])]

theorem tags_tell_apart_slashed :
    (∀ c ∈ slashedCalls, c.IsCustom) ∧
      ∃ d e, (builtin.run slashedCalls).resolve "a/1" = some d ∧
        (builtin.run slashedCalls).resolve "a" = some e ∧ d.tag = e.tag ∧
        (builtin.run slashedCalls).resolveTag d.tag = some d ∧
        (builtin.run slashedCalls).resolveTag e.tag ≠ some e := by
  have hc : ∀ c ∈ slashedCalls, c.IsCustom := by
    simp [slashedCalls, Call.IsCustom, Definition.custom]
  obtain ⟨htag, hfound, -, -⟩ := tags_tell_apart hc
  have hr : (builtin.run slashedCalls).definitions =
      builtin.definitions ++ [.custom "a/1" "1" true [], .custom "a" "1/1" false []] := by
    decide +kernel
  have hd : (builtin.run slashedCalls).definitions[16]? = some (.custom "a/1" "1" true []) := by
    rw [hr]
    rfl
  have he : (builtin.run slashedCalls).definitions[17]? = some (.custom "a" "1/1" false []) := by
    rw [hr]
    rfl
  have hn : (builtin.run slashedCalls).Distinct := distinct_builtin.run_calls hc
  have hdn := hn.resolve_of_mem (List.mem_of_getElem? hd) (isNamed_self List.mem_cons_self)
  have hen := hn.resolve_of_mem (List.mem_of_getElem? he) (isNamed_self List.mem_cons_self)
  have hcut : Recut (.custom "a" "1/1" false []) (.custom "a/1" "1" true []) :=
    ⟨"1", by decide +kernel, by decide +kernel⟩
  have ht := (htag 16 17 _ _ hd he (by decide)).mpr (.inr hcut)
  refine ⟨hc, _, _, hdn, hen, ht, by decide +kernel, fun h => ?_⟩
  exact ((hfound 17 _ he).mp h 16 (by decide) _ hd).1 hcut

end Registry

end LayeredSchema

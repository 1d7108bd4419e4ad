import LayeredSchema.Proofs.Overlay.Payload
import LayeredSchema.Proofs.Registry.Runs
import Mathlib

/-!
Type tags of custom definitions. The slug in a tag has the normal form of the name that it is made
from, so a registry in which no name belongs to two definitions, and to which the built-in ones
belong, gives no custom definition the tag of a built-in kind.
-/

namespace LayeredSchema

lemma toLower_beq {c d : Char} (hd : d.isAlpha = false) : (c.toLower == d) = (c == d) := by
  by_cases hc : c.isUpper
  · have hl : c.toLower.isAlpha = true := by simp [Char.isAlpha, hc]
    have hn : c.toLower ≠ d := by
      rintro rfl
      exact absurd (hl.symm.trans hd) nofun
    have hn' : c ≠ d := by
      rintro rfl
      simp [Char.isAlpha, hc] at hd
    simp [hn, hn']
  · rw [Char.toLower_eq_of_not_isUpper hc]

namespace Kind

lemma customSlug_of_tag {name version : String} {k : Kind}
    (h : customTag name version = tagOf k.slug builtinVersion) : customSlug name = k.slug := by
  have hs : '/' ∉ k.slug.toList := by cases k <;> decide
  have hv : '/' ∉ builtinVersion.toList := by decide
  have hl := congrArg String.toList h
  simp only [customTag, tagOf, String.toList_append, List.append_assoc,
    List.append_cancel_left_eq] at hl
  have hl : k.slug.toList ++ '/' :: builtinVersion.toList =
      (customSlug name).toList ++ '/' :: version.toList := hl.symm
  exact (String.toList_injective ((List.append_cons_inj_of_notMem hs hv).mp hl).1).symm

lemma normalName_customSlug (name : String) : normalName (customSlug name) = normalName name := by
  have hf (c : Char) (hc : ¬(c = '-' ∨ c = ' ')) :
      (!(c.toLower == '_' || c.toLower == '-' || c.toLower == ' ')) =
        !(c == '_' || c == '-' || c == ' ') := by
    rw [toLower_beq rfl, toLower_beq rfl, toLower_beq rfl]
  rw [normalName, normalName, customSlug, String.toList_ofList]
  congr 1
  induction name.toList with
  | nil => rfl
  | cons c cs ih =>
    rw [List.map_cons, List.filter_cons, List.filter_cons]
    by_cases hc : c = '-' ∨ c = ' '
    · rcases hc with rfl | rfl <;> exact ih
    · have hd : (decide (c = '-') || decide (c = ' ')) = false := by simpa using hc
      simp only [hd, Bool.false_eq_true, if_false, hf c hc]
      split
      · rw [List.map_cons, List.map_cons, Char.toLower_toLower_eq_toLower]
        exact congrArg _ ih
      · exact ih

lemma mem_builtin {k : Kind} (hk : k ≠ .custom) : k ∈ builtin := by
  cases k with
  | custom => contradiction
  | _ => decide

lemma normalName_slug {k : Kind} (hk : k ≠ .custom) : normalName k.slug = normalName k.name := by
  cases k with
  | custom => contradiction
  | _ => decide +kernel

end Kind

namespace Registry

variable {calls : List Call} {d : Definition}

lemma ofTag?_of_custom (hc : ∀ c ∈ calls, c.IsCustom) (hd : d ∈ (builtin.run calls).definitions)
    (hk : d.kind = .custom) : Kind.ofTag? d.tag = none := by
  by_contra hn
  obtain ⟨k, hkt⟩ := Option.ne_none_iff_exists'.mp hn
  obtain ⟨ht, hkc⟩ := Kind.of_ofTag? hkt
  have ht : Kind.customTag d.name d.version = Kind.tagOf k.slug Kind.builtinVersion := by
    rwa [Definition.tag, hk] at ht
  have hname : normalName d.name = normalName k.name := by
    rw [← Kind.normalName_customSlug, Kind.customSlug_of_tag ht, Kind.normalName_slug hkc]
  obtain ⟨i, hi⟩ := List.mem_iff_getElem?.mp (Kind.mem_builtin hkc)
  have hb : builtin.definitions[i]? = some (Definition.builtin k) := by
    simp [builtin, List.getElem?_map, hi]
  obtain ⟨more, hm⟩ := extends_run calls i _ hb
  obtain ⟨j, hj⟩ := List.mem_iff_getElem?.mp hd
  have hu := (distinct_builtin.run_calls hc).isUnambiguous
  have hij := hu.single j i d _ hj hm d.name List.mem_cons_self k.name List.mem_cons_self hname
  rw [← hij, hj, Option.some.injEq] at hm
  exact hkc (hk ▸ congrArg Definition.kind hm.symm)

end Registry

end LayeredSchema

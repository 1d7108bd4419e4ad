import LayeredSchema.Proofs.Outcome
import LayeredSchema.Registry.Basic
import Mathlib.Logic.Relation
import Mathlib.Tactic.Common

/-!
Registries over a run of changes: no name ever belongs to two definitions, so every definition
answers to its own name.
-/

namespace LayeredSchema.Registry

inductive Step : Registry → Registry → Prop
  | insert {r s : Registry} {d : Definition} (hd : d.kind = .custom) (h : r.insert d = .ok s) :
      Step r s
  | addAliases (r : Registry) (name : String) (aliases : List String) :
      Step r (r.addAliases name aliases).1

def Reachable (r : Registry) : Prop :=
  Relation.ReflTransGen Step builtin r ∨ Relation.ReflTransGen Step empty r

def Apart (d e : Definition) : Prop := ∀ n ∈ d.names, e.isNamed n = false

def Distinct (r : Registry) : Prop := r.definitions.Pairwise Apart

lemma isNamed_iff {d : Definition} {name : String} :
    d.isNamed name = true ↔ ∃ n ∈ d.names, normalName n = normalName name := by
  simp [Definition.isNamed]

lemma isNamed_self {d : Definition} {name : String} (h : name ∈ d.names) : d.isNamed name = true :=
  isNamed_iff.mpr ⟨name, h, rfl⟩

lemma Apart.symm {d e : Definition} (h : Apart d e) : Apart e d := by
  intro n hn
  by_contra hd
  obtain ⟨m, hm, he⟩ := isNamed_iff.mp (Bool.not_eq_false _ ▸ hd)
  exact Bool.false_ne_true ((h m hm).symm.trans (isNamed_iff.mpr ⟨n, hn, he.symm⟩))

lemma resolve_eq_none_iff {r : Registry} {name : String} :
    r.resolve name = none ↔ ∀ d ∈ r.definitions, d.isNamed name = false := by
  simp [resolve]

lemma insert_ok_iff {r s : Registry} {d : Definition} :
    r.insert d = .ok s ↔
      (∀ n ∈ d.names, r.resolve n = none) ∧ s = ⟨r.definitions ++ [d]⟩ := by
  unfold insert
  split
  · rename_i n hn
    have hr := List.find?_some hn
    have hm := List.mem_of_find?_eq_some hn
    simp only [reduceCtorEq, false_iff, not_and]
    intro h
    simp [h n hm] at hr
  · rename_i hn
    simp only [List.find?_eq_none, Bool.not_eq_true, Option.isSome_eq_false_iff,
      Option.isNone_iff_eq_none] at hn
    simp only [Except.ok.injEq, eq_comm (b := s)]
    exact ⟨fun h => ⟨hn, h⟩, fun h => h.2⟩

lemma distinct_builtin : builtin.Distinct := by
  unfold Distinct Apart
  decide +kernel

lemma distinct_empty : empty.Distinct := List.Pairwise.nil

lemma Distinct.insert {r s : Registry} {d : Definition} (hr : r.Distinct)
    (h : r.insert d = .ok s) : s.Distinct := by
  obtain ⟨hn, rfl⟩ := insert_ok_iff.mp h
  refine List.pairwise_append.mpr ⟨hr, List.pairwise_singleton _ _, fun e he d' hd => ?_⟩
  obtain rfl := List.mem_singleton.mp hd
  exact Apart.symm fun n hd => resolve_eq_none_iff.mp (hn n hd) e he

lemma Apart.addAlias {d e : Definition} {other : String} (h : Apart d e)
    (ho : e.isNamed other = false) : Apart { d with aliases := d.aliases ++ [other] } e := by
  intro n hn
  simp only [Definition.names, List.mem_cons, List.mem_append, List.mem_nil_iff, or_false] at hn
  rcases hn with hn | hn | rfl
  · exact h n (List.mem_cons.mpr (Or.inl hn))
  · exact h n (List.mem_cons.mpr (Or.inr hn))
  · exact ho

lemma Distinct.pushAlias {r : Registry} (hr : r.Distinct) (i : ℕ) {other : String}
    (ho : ∀ d ∈ r.definitions, d.isNamed other = false) : (r.pushAlias i other).Distinct := by
  simp only [Distinct, Registry.pushAlias, List.pairwise_iff_getElem, List.length_modify,
    List.getElem_modify]
  intro j k hj hk hjk
  have ha := List.pairwise_iff_getElem.mp hr j k hj hk hjk
  split
  · rw [if_neg (by omega)]
    exact ha.addAlias (ho _ (List.getElem_mem hk))
  · split
    · exact (ha.symm.addAlias (ho _ (List.getElem_mem hj))).symm
    · exact ha

lemma Distinct.pushAliases {r : Registry} (hr : r.Distinct) (i : ℕ) (aliases : List String) :
    (r.pushAliases i aliases).1.Distinct := by
  induction aliases generalizing r with
  | nil => exact hr
  | cons other aliases ih =>
    rw [Registry.pushAliases]
    split
    · rename_i hn
      exact ih (hr.pushAlias i (by simpa using hn))
    · split
      · exact ih hr
      · exact hr

lemma Distinct.step {r s : Registry} (hr : r.Distinct) (h : Step r s) : s.Distinct := by
  cases h with
  | insert hd h => exact hr.insert h
  | addAliases name aliases =>
    rw [Registry.addAliases]
    split
    · exact hr
    · exact hr.pushAliases _ aliases

lemma Distinct.run {r s : Registry} (hr : r.Distinct) (h : Relation.ReflTransGen Step r s) :
    s.Distinct := by
  induction h with
  | refl => exact hr
  | tail _ hs ih => exact ih.step hs

lemma Reachable.distinct {r : Registry} (h : r.Reachable) : r.Distinct := by
  rcases h with h | h
  · exact distinct_builtin.run h
  · exact distinct_empty.run h

lemma Apart.not_isNamed {d e : Definition} {name : String} (h : Apart d e)
    (hd : d.isNamed name = true) : e.isNamed name = false := by
  obtain ⟨n, hn, hd⟩ := isNamed_iff.mp hd
  have he := h n hn
  simpa only [Definition.isNamed, hd] using he

lemma Distinct.resolve_of_mem {r : Registry} (hr : r.Distinct) {d : Definition} {name : String}
    (hd : d ∈ r.definitions) (hn : d.isNamed name = true) : r.resolve name = some d := by
  obtain ⟨as, bs, hab⟩ := List.append_of_mem hd
  refine List.find?_eq_some_iff_append.mpr ⟨hn, as, bs, hab, fun e he => ?_⟩
  rw [Distinct, hab] at hr
  have ha : Apart d e := ((List.pairwise_append.mp hr).2.2 e he d List.mem_cons_self).symm
  simp [ha.not_isNamed hn]

lemma mem_of_resolve {r : Registry} {d : Definition} {name : String}
    (h : r.resolve name = some d) : d ∈ r.definitions :=
  List.mem_of_find?_eq_some h

lemma resolveTag_of_mem {r : Registry} {d : Definition} (hd : d ∈ r.definitions) :
    ∃ e ∈ r.definitions, e.tag = d.tag ∧ r.resolveTag d.tag = some e := by
  cases h : r.resolveTag d.tag with
  | none =>
    have hn := List.find?_eq_none.mp h d hd
    simp at hn
  | some e =>
    exact ⟨e, List.mem_of_find?_eq_some h, by simpa using List.find?_some h, rfl⟩

end LayeredSchema.Registry

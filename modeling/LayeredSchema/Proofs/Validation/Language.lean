import LayeredSchema.Proofs.Overlay.Payload
import LayeredSchema.Validation.Semantic
import Mathlib.Data.List.Count
import Mathlib.Tactic.Common

/-!
What is found on the languages of overlays: which overlays lack one, how many share a tag and a
language, and which enforced languages a tag is without. Findings name a tag by its title, which no
other tag has.
-/

namespace LayeredSchema

namespace Kind

lemma isOverlayTag_name (k : Kind) : isOverlayTag k.name = false := by
  cases k <;> rfl

lemma name_injective : Function.Injective name := by
  let named (n : String) : Kind := ((.custom :: builtin).find? (·.name == n)).getD .custom
  have hn : Function.LeftInverse named name := by
    intro k
    cases k <;> rfl
  exact hn.injective

end Kind

lemma Body.ofTag?_tag (b : Body) :
    Kind.ofTag? b.tag = if b.kind = .custom then none else some b.kind := by
  by_cases hb : b.kind = .custom
  · cases b with
    | custom t ps => exact t.notBuiltin
    | _ => contradiction
  · rw [if_neg hb, Body.tag_of_kind hb]
    exact Kind.ofTag?_tagOf hb

namespace Overlay

variable {o p : Overlay}

lemma kind_eq_of_tag (h : o.tag = p.tag) : o.kind = p.kind := by
  have hk := o.body.ofTag?_tag.symm.trans ((congrArg Kind.ofTag? h).trans p.body.ofTag?_tag)
  change o.body.kind = p.body.kind
  by_cases ho : o.body.kind = .custom
  · by_cases hp : p.body.kind = .custom
    · exact ho.trans hp.symm
    · simp [ho, hp] at hk
  · by_cases hp : p.body.kind = .custom
    · simp [ho, hp] at hk
    · simpa [ho, hp] using hk

lemma title_of_custom (h : o.kind = .custom) : o.title = o.tag := by
  rw [title, h]

lemma title_of_builtin (h : o.kind ≠ .custom) : o.title = o.kind.name := by
  unfold title
  split
  · contradiction
  · rfl

lemma isOverlayTag_of_custom (h : o.kind = .custom) : Kind.isOverlayTag o.tag = true := by
  obtain ⟨_, _, _, body⟩ := o
  cases body with
  | custom t ps => exact t.isOverlayTag
  | _ => contradiction

lemma tag_of_builtin (h : o.kind ≠ .custom) :
    o.tag = Kind.tagOf o.kind.slug Kind.builtinVersion :=
  Body.tag_of_kind h

lemma title_eq_iff : o.title = p.title ↔ o.tag = p.tag := by
  constructor
  · intro h
    by_cases ho : o.kind = .custom
    · by_cases hp : p.kind = .custom
      · rwa [title_of_custom ho, title_of_custom hp] at h
      · rw [title_of_custom ho, title_of_builtin hp] at h
        have ht := isOverlayTag_of_custom ho
        rw [h, Kind.isOverlayTag_name] at ht
        contradiction
    · by_cases hp : p.kind = .custom
      · rw [title_of_builtin ho, title_of_custom hp] at h
        have ht := isOverlayTag_of_custom hp
        rw [← h, Kind.isOverlayTag_name] at ht
        contradiction
      · rw [title_of_builtin ho, title_of_builtin hp] at h
        rw [tag_of_builtin ho, tag_of_builtin hp, Kind.name_injective h]
  · intro h
    have hk := kind_eq_of_tag h
    by_cases ho : o.kind = .custom
    · rw [title_of_custom ho, title_of_custom (hk ▸ ho), h]
    · rw [title_of_builtin ho, title_of_builtin (hk ▸ ho), hk]

def isIn (tag language : String) (o : Overlay) : Bool :=
  o.tag == tag && o.language == some language

lemma isIn_iff {tag language : String} :
    o.isIn tag language = true ↔ o.tag = tag ∧ o.language = some language := by
  simp [isIn]

end Overlay

namespace SemanticRules

variable {rules : SemanticRules} {o p : Overlay}

lemma isScoped_congr (h : o.tag = p.tag) : rules.isScoped o = rules.isScoped p := by
  rw [isScoped, isScoped, Overlay.kind_eq_of_tag h, h]

lemma isUnique_congr (h : o.tag = p.tag) : rules.isUnique o = rules.isUnique p := by
  rw [isUnique, isUnique, isScoped_congr h, Overlay.kind_eq_of_tag h]

end SemanticRules

def SemanticFinding.isMissingLanguage : SemanticFinding → Bool
  | .missingLanguage _ => true
  | _ => false

def SemanticFinding.concernsLanguage : SemanticFinding → Bool
  | .missingLanguage _ | .duplicateOverlay _ _ | .missingTranslation _ _ => true
  | _ => false

namespace Bundle

variable {b : Bundle} {rules : SemanticRules} {o : Overlay} {earlier os : List Overlay}
  {title language : String}

def ownFindings (b : Bundle) (o : Overlay) : List SemanticFinding :=
  b.unknownReferences o ++ b.bodyFindings o.body ++ b.integrityFindings o

def languagesFindings (rules : SemanticRules) :
    (earlier overlays : List Overlay) → List SemanticFinding
  | _, [] => []
  | earlier, o :: os =>
    languageFindings rules earlier o ++ languagesFindings rules (earlier ++ [o]) os

def otherFindings (b : Bundle) : List SemanticFinding :=
  b.overlays.flatMap b.ownFindings ++
    digestFindings "capture base" b.captureBase.digest b.captureBase.computedDigest ++
    digestFindings "bundle" b.digest b.computedDigest

lemma overlaysFindings_perm (b : Bundle) (rules : SemanticRules) (earlier os : List Overlay) :
    (b.overlaysFindings rules earlier os).Perm
      (languagesFindings rules earlier os ++ os.flatMap b.ownFindings) := by
  induction os generalizing earlier with
  | nil => rfl
  | cons o os ih =>
    apply List.perm_iff_count.mpr
    intro f
    have hf := (ih (earlier ++ [o])).count_eq f
    simp only [List.count_append] at hf
    simp only [overlaysFindings, overlayFindings, languagesFindings, ownFindings,
      List.flatMap_cons, List.count_append, hf]
    omega

lemma findings_perm (b : Bundle) (rules : SemanticRules) :
    (b.semanticReport rules).findings.Perm
      (languagesFindings rules [] b.overlays ++
        (b.translationFindings rules ++ b.otherFindings)) := by
  apply List.perm_iff_count.mpr
  intro f
  have hf := (overlaysFindings_perm b rules [] b.overlays).count_eq f
  simp only [List.count_append] at hf
  simp only [semanticReport, otherFindings, List.count_append, hf]
  omega

lemma concernsLanguage_of_mem_bodyFindings {body : Body} :
    ∀ f ∈ b.bodyFindings body, f.concernsLanguage = false := by
  cases body with
  | entryCode codes => exact List.forall_mem_map.mpr fun _ _ => rfl
  | cardinality ranges => exact List.forall_mem_map.mpr fun _ _ => rfl
  | conformance levels => exact List.forall_mem_map.mpr fun _ _ => rfl
  | format patterns => exact List.forall_mem_map.mpr fun _ _ => rfl
  | entry texts =>
    exact List.forall_mem_flatMap.mpr fun _ _ => List.forall_mem_map.mpr fun _ _ => rfl
  | entryCodeMapping pairs =>
    exact List.forall_mem_flatMap.mpr fun _ _ => List.forall_mem_map.mpr fun _ _ => rfl
  | unit system units =>
    rw [bodyFindings, List.forall_mem_flatMap]
    intro e _
    change ∀ f ∈ b.unitFindings e.1 e.2, f.concernsLanguage = false
    unfold unitFindings
    split
    · split <;> simp [SemanticFinding.concernsLanguage]
    · exact List.forall_mem_nil _
  | conditional conditions dependencies =>
    rw [bodyFindings, List.forall_mem_append]
    constructor
    · rw [List.forall_mem_flatMap]
      intro e _
      change ∀ f ∈ b.conditionFindings e.1 e.2, f.concernsLanguage = false
      unfold conditionFindings
      split
      · exact List.forall_mem_map.mpr fun _ _ => rfl
      · exact List.forall_mem_singleton.mpr rfl
    · exact List.forall_mem_flatMap.mpr fun _ _ => List.forall_mem_map.mpr fun _ _ => rfl
  | link target attributes =>
    rw [bodyFindings]
    split <;> simp [SemanticFinding.concernsLanguage]
  | _ => exact List.forall_mem_nil _

lemma concernsLanguage_of_mem_digestFindings {target : String} {stored computed : Said} :
    ∀ f ∈ digestFindings target stored computed, f.concernsLanguage = false := by
  unfold digestFindings
  split <;> simp [SemanticFinding.concernsLanguage]

lemma concernsLanguage_of_mem_otherFindings :
    ∀ f ∈ b.otherFindings, f.concernsLanguage = false := by
  have ho (o : Overlay) : ∀ f ∈ b.ownFindings o, f.concernsLanguage = false := by
    rw [ownFindings, integrityFindings, List.forall_mem_append, List.forall_mem_append,
      List.forall_mem_append]
    refine ⟨⟨List.forall_mem_map.mpr fun _ _ => rfl, concernsLanguage_of_mem_bodyFindings⟩, ?_,
      concernsLanguage_of_mem_digestFindings⟩
    split <;> simp [SemanticFinding.concernsLanguage]
  rw [otherFindings, List.forall_mem_append, List.forall_mem_append]
  exact ⟨⟨List.forall_mem_flatMap.mpr fun o _ => ho o, concernsLanguage_of_mem_digestFindings⟩,
    concernsLanguage_of_mem_digestFindings⟩

lemma languageFindings_of_none (h : o.language = none) :
    languageFindings rules earlier o =
      if rules.isScoped o then [.missingLanguage o.title] else [] := by
  rw [languageFindings, h]

lemma languageFindings_of_some (h : o.language = some language) :
    languageFindings rules earlier o =
      if rules.isUnique o && earlier.any (Overlay.isIn o.tag language) then
        [.duplicateOverlay o.title language]
      else [] := by
  rw [languageFindings, h]
  rfl

lemma countP_isMissingLanguage (earlier os : List Overlay) :
    (languagesFindings rules earlier os).countP SemanticFinding.isMissingLanguage =
      os.countP fun o => rules.isScoped o && o.language.isNone := by
  induction os generalizing earlier with
  | nil => rfl
  | cons o os ih =>
    rw [languagesFindings, List.countP_append, ih, List.countP_cons, add_comm]
    congr 1
    cases hl : o.language with
    | none =>
      rw [languageFindings_of_none hl]
      cases rules.isScoped o <;> simp [SemanticFinding.isMissingLanguage]
    | some l =>
      rw [languageFindings_of_some hl]
      split <;> simp [SemanticFinding.isMissingLanguage]

lemma count_languageFindings (ho : rules.isUnique o = true) (p : Overlay) :
    (languageFindings rules earlier p).count (.duplicateOverlay o.title language) =
      if p.isIn o.tag language && earlier.any (Overlay.isIn o.tag language) then 1 else 0 := by
  cases hl : p.language with
  | none =>
    have hp : p.isIn o.tag language = false := by simp [Overlay.isIn, hl]
    rw [languageFindings_of_none hl, hp]
    cases rules.isScoped p <;> simp
  | some l =>
    rw [languageFindings_of_some hl]
    by_cases hp : p.isIn o.tag language = true
    · obtain ⟨ht, hs⟩ := Overlay.isIn_iff.mp hp
      obtain rfl := Option.some.inj (hl.symm.trans hs)
      rw [hp, SemanticRules.isUnique_congr ht, ho, ht, Overlay.title_eq_iff.mpr ht]
      split <;> simp
    · have hn : ¬(p.title = o.title ∧ l = language) := by
        rintro ⟨ht, rfl⟩
        exact hp (Overlay.isIn_iff.mpr ⟨Overlay.title_eq_iff.mp ht, hl⟩)
      rw [Bool.eq_false_iff.mpr hp, Bool.false_and, if_neg Bool.false_ne_true]
      split <;> simp [hn]

lemma count_duplicateOverlay (ho : rules.isUnique o = true) (earlier os : List Overlay) :
    (languagesFindings rules earlier os).count (.duplicateOverlay o.title language) =
      os.countP (Overlay.isIn o.tag language) -
        if earlier.any (Overlay.isIn o.tag language) then 0 else 1 := by
  induction os generalizing earlier with
  | nil => simp [languagesFindings]
  | cons p os ih =>
    rw [languagesFindings, List.count_append, count_languageFindings ho, ih, List.countP_cons,
      List.any_append, List.any_cons, List.any_nil, Bool.or_false]
    cases p.isIn o.tag language <;> cases earlier.any (Overlay.isIn o.tag language)
    all_goals simp
    all_goals omega

lemma mem_languagesFindings {f : SemanticFinding} (h : f ∈ languagesFindings rules earlier os) :
    ∃ o ∈ os, (rules.isScoped o = true ∧ o.language = none ∧ f = .missingLanguage o.title) ∨
      ∃ l, rules.isUnique o = true ∧ o.language = some l ∧ f = .duplicateOverlay o.title l := by
  induction os generalizing earlier with
  | nil => contradiction
  | cons o os ih =>
    rw [languagesFindings, List.mem_append] at h
    rcases h with h | h
    · refine ⟨o, List.mem_cons_self, ?_⟩
      cases hl : o.language with
      | none =>
        rw [languageFindings_of_none hl] at h
        split at h
        · rename_i hs
          exact Or.inl ⟨hs, rfl, List.mem_singleton.mp h⟩
        · contradiction
      | some l =>
        rw [languageFindings_of_some hl] at h
        split at h
        · rename_i hu
          exact Or.inr ⟨l, (Bool.and_eq_true_iff.mp hu).1, rfl, List.mem_singleton.mp h⟩
        · contradiction
    · obtain ⟨p, hp, hf⟩ := ih h
      exact ⟨p, List.mem_cons_of_mem o hp, hf⟩

lemma mem_of_mem_firstOfEachTag (h : o ∈ firstOfEachTag os) : o ∈ os := by
  induction os with
  | nil => exact h
  | cons p os ih =>
    rcases List.mem_cons.mp h with rfl | h
    · exact List.mem_cons_self
    · exact List.mem_cons_of_mem p (ih (List.mem_filter.mp h).1)

lemma exists_mem_firstOfEachTag (h : o ∈ os) : ∃ p ∈ firstOfEachTag os, p.tag = o.tag := by
  induction os with
  | nil => contradiction
  | cons q os ih =>
    by_cases hq : q.tag = o.tag
    · exact ⟨q, List.mem_cons_self, hq⟩
    · have ho : o ∈ os := by
        rcases List.mem_cons.mp h with rfl | h
        · exact absurd rfl hq
        · exact h
      obtain ⟨p, hp, ht⟩ := ih ho
      refine ⟨p, List.mem_cons_of_mem q (List.mem_filter.mpr ⟨hp, ?_⟩), ht⟩
      simpa [ht] using Ne.symm hq

lemma mem_translationFindings : .missingTranslation title language ∈ b.translationFindings rules ↔
    language ∈ rules.enforcedLanguages ∧
      ∃ o ∈ b.overlays, rules.isScoped o = true ∧ o.title = title ∧
        ∀ p ∈ b.overlays, rules.isScoped p = true → p.isIn o.tag language = false := by
  have hm (o : Overlay) :
      (∀ p ∈ b.overlays, rules.isScoped p = true → p.isIn o.tag language = false) ↔
        (b.overlays.filter rules.isScoped).any (Overlay.isIn o.tag language) = false := by
    simp [List.any_eq_false]
  constructor
  · intro h
    obtain ⟨o, ho, h⟩ := List.mem_flatMap.mp h
    obtain ⟨l, hl, hf⟩ := List.mem_map.mp h
    obtain ⟨rfl, rfl⟩ := SemanticFinding.missingTranslation.inj hf
    obtain ⟨ho, hs⟩ := List.mem_filter.mp (mem_of_mem_firstOfEachTag ho)
    obtain ⟨hl, hn⟩ := List.mem_filter.mp hl
    exact ⟨hl, o, ho, hs, rfl, (hm o).mpr ((Bool.not_eq_true' _).mp hn)⟩
  · rintro ⟨hl, o, ho, hs, rfl, hn⟩
    obtain ⟨p, hp, ht⟩ := exists_mem_firstOfEachTag (List.mem_filter.mpr ⟨ho, hs⟩)
    refine List.mem_flatMap.mpr ⟨p, hp, List.mem_map.mpr ⟨language, ?_, ?_⟩⟩
    · refine List.mem_filter.mpr ⟨hl, ?_⟩
      rw [← ht] at hn
      exact (Bool.not_eq_true' _).mpr ((hm p).mp hn)
    · rw [Overlay.title_eq_iff.mpr ht]

lemma eq_missingTranslation {f : SemanticFinding} (h : f ∈ b.translationFindings rules) :
    ∃ title l, f = .missingTranslation title l := by
  obtain ⟨o, -, h⟩ := List.mem_flatMap.mp h
  obtain ⟨l, -, rfl⟩ := List.mem_map.mp h
  exact ⟨o.title, l, rfl⟩

lemma count_findings (ho : rules.isUnique o = true) :
    (b.semanticReport rules).findings.count (.duplicateOverlay o.title language) =
      b.overlays.countP (Overlay.isIn o.tag language) - 1 := by
  have ht : (b.translationFindings rules).count (.duplicateOverlay o.title language) = 0 := by
    apply List.count_eq_zero.mpr
    intro h
    obtain ⟨_, _, hf⟩ := eq_missingTranslation h
    contradiction
  have hn : b.otherFindings.count (.duplicateOverlay o.title language) = 0 :=
    List.count_eq_zero.mpr fun h => nomatch concernsLanguage_of_mem_otherFindings _ h
  rw [(findings_perm b rules).count_eq, List.count_append, List.count_append, ht, hn,
    count_duplicateOverlay ho]
  rfl

lemma countP_findings : (b.semanticReport rules).findings.countP SemanticFinding.isMissingLanguage =
    b.overlays.countP fun o => rules.isScoped o && o.language.isNone := by
  have ht : (b.translationFindings rules).countP SemanticFinding.isMissingLanguage = 0 := by
    apply List.countP_eq_zero.mpr
    intro f hf
    obtain ⟨_, _, rfl⟩ := eq_missingTranslation hf
    exact Bool.false_ne_true
  have hn : b.otherFindings.countP SemanticFinding.isMissingLanguage = 0 := by
    apply List.countP_eq_zero.mpr
    intro f hf hl
    have hc := concernsLanguage_of_mem_otherFindings f hf
    cases f with
    | missingLanguage => contradiction
    | _ => contradiction
  rw [(findings_perm b rules).countP_eq, List.countP_append, List.countP_append, ht, hn,
    countP_isMissingLanguage]
  rfl

lemma mem_findings_iff {f : SemanticFinding} (hf : f.concernsLanguage = true) :
    f ∈ (b.semanticReport rules).findings ↔
      f ∈ languagesFindings rules [] b.overlays ∨ f ∈ b.translationFindings rules := by
  rw [(findings_perm b rules).mem_iff, List.mem_append, List.mem_append]
  have hn : f ∉ b.otherFindings := by
    intro h
    rw [concernsLanguage_of_mem_otherFindings f h] at hf
    contradiction
  simp only [hn, or_false]

lemma mem_duplicateOverlay
    (h : .duplicateOverlay title language ∈ (b.semanticReport rules).findings) :
    ∃ o ∈ b.overlays,
      rules.isUnique o = true ∧ o.title = title ∧ o.language = some language := by
  obtain h | h := (mem_findings_iff rfl).mp h
  · obtain ⟨o, ho, ⟨-, -, hf⟩ | ⟨l, hu, hl, hf⟩⟩ := mem_languagesFindings h
    · contradiction
    · obtain ⟨rfl, rfl⟩ := SemanticFinding.duplicateOverlay.inj hf
      exact ⟨o, ho, hu, rfl, hl⟩
  · obtain ⟨_, _, hf⟩ := eq_missingTranslation h
    contradiction

lemma mem_missingTranslation :
    .missingTranslation title language ∈ (b.semanticReport rules).findings ↔
      language ∈ rules.enforcedLanguages ∧
        ∃ o ∈ b.overlays, rules.isScoped o = true ∧ o.title = title ∧
          ∀ p ∈ b.overlays, rules.isScoped p = true → p.isIn o.tag language = false := by
  rw [mem_findings_iff rfl, mem_translationFindings, or_iff_right]
  intro h
  obtain ⟨o, -, ⟨-, -, hf⟩ | ⟨l, -, -, hf⟩⟩ := mem_languagesFindings h
  · contradiction
  · contradiction

def rivals (b : Bundle) (rules : SemanticRules) (tag language : String) : List Overlay :=
  b.overlays.filter fun o => rules.isUnique o && o.isIn tag language

lemma length_rivals (ho : rules.isUnique o = true) :
    (b.rivals rules o.tag language).length = b.overlays.countP (Overlay.isIn o.tag language) := by
  rw [rivals, ← List.countP_eq_length_filter]
  apply List.countP_congr
  intro p _
  by_cases hp : p.tag = o.tag
  · rw [SemanticRules.isUnique_congr hp, ho, Bool.true_and]
  · simp [Overlay.isIn, hp]

lemma not_mem_duplicateOverlay_iff :
    (∀ title l, .duplicateOverlay title l ∉ (b.semanticReport rules).findings) ↔
      ∀ tag l, (b.rivals rules tag l).length ≤ 1 := by
  constructor
  · intro h tag l
    rcases hr : b.rivals rules tag l with _ | ⟨o, os⟩
    · exact Nat.zero_le 1
    · have ho : o ∈ b.rivals rules tag l := hr ▸ List.mem_cons_self
      obtain ⟨-, ho⟩ := List.mem_filter.mp ho
      obtain ⟨hu, hi⟩ := Bool.and_eq_true_iff.mp ho
      obtain ⟨rfl, -⟩ := Overlay.isIn_iff.mp hi
      have hc := List.count_eq_zero.mpr (h o.title l)
      rw [count_findings hu, ← length_rivals hu, hr] at hc
      omega
  · intro h title l hf
    obtain ⟨o, -, hu, rfl, -⟩ := mem_duplicateOverlay hf
    have hc := List.count_pos_iff.mpr hf
    have hr := h o.tag l
    rw [count_findings hu, ← length_rivals hu] at hc
    omega

lemma not_mem_missingTranslation_iff :
    (∀ title l, .missingTranslation title l ∉ (b.semanticReport rules).findings) ↔
      ∀ o ∈ b.overlays, rules.isScoped o = true → ∀ l ∈ rules.enforcedLanguages,
        ∃ p ∈ b.overlays, rules.isScoped p = true ∧ p.isIn o.tag l = true := by
  constructor
  · intro h o ho hs l hl
    by_contra hn
    refine h o.title l (mem_missingTranslation.mpr ⟨hl, o, ho, hs, rfl, fun p hp hps => ?_⟩)
    exact Bool.eq_false_iff.mpr fun hi => hn ⟨p, hp, hps, hi⟩
  · intro h title l hf
    obtain ⟨hl, o, ho, hs, -, hn⟩ := mem_missingTranslation.mp hf
    obtain ⟨p, hp, hps, hi⟩ := h o ho hs l hl
    rw [hn p hp hps] at hi
    contradiction

theorem language_findings_exact (b : Bundle) (rules : SemanticRules) :
    let fs := (b.semanticReport rules).findings
    (∀ o p : Overlay, o.title = p.title ↔ o.tag = p.tag) ∧
      fs.countP SemanticFinding.isMissingLanguage =
        b.overlays.countP (fun o => rules.isScoped o && o.language.isNone) ∧
      (∀ o ∈ b.overlays, ∀ l, rules.isUnique o = true → o.language = some l →
        fs.count (.duplicateOverlay o.title l) = (b.rivals rules o.tag l).length - 1) ∧
      (∀ title l, .duplicateOverlay title l ∈ fs →
        ∃ o ∈ b.overlays, rules.isUnique o = true ∧ o.title = title ∧ o.language = some l) ∧
      (∀ tag, ∀ l ∈ rules.enforcedLanguages,
        (∃ o : Overlay, o.tag = tag ∧ .missingTranslation o.title l ∈ fs) ↔
          (∃ o ∈ b.overlays, rules.isScoped o = true ∧ o.tag = tag) ∧
            ∀ p ∈ b.overlays, rules.isScoped p = true → p.isIn tag l = false) ∧
      ((∀ title l, .duplicateOverlay title l ∉ fs) ↔
        ∀ tag l, (b.rivals rules tag l).length ≤ 1) ∧
      ((∀ title l, .missingTranslation title l ∉ fs) ↔
        ∀ o ∈ b.overlays, rules.isScoped o = true → ∀ l ∈ rules.enforcedLanguages,
          ∃ p ∈ b.overlays, rules.isScoped p = true ∧ p.isIn o.tag l = true) := by
  intro fs
  refine ⟨fun _ _ => Overlay.title_eq_iff, countP_findings, fun o _ l hu _ => ?_,
    fun title l h => mem_duplicateOverlay h, fun tag l hl => ?_, not_mem_duplicateOverlay_iff,
    not_mem_missingTranslation_iff⟩
  · rw [length_rivals hu]
    exact count_findings hu
  · constructor
    · rintro ⟨o, rfl, h⟩
      obtain ⟨-, p, hp, hs, ht, hn⟩ := mem_missingTranslation.mp h
      rw [Overlay.title_eq_iff] at ht
      exact ⟨⟨p, hp, hs, ht⟩, ht ▸ hn⟩
    · rintro ⟨⟨o, ho, hs, rfl⟩, hn⟩
      exact ⟨o, rfl, mem_missingTranslation.mpr ⟨hl, o, ho, hs, rfl, hn⟩⟩

end Bundle

end LayeredSchema

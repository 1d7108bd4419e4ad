import LayeredSchema.Proofs.Validation.Language
import LayeredSchema.Proofs.Validation.Rules
import Mathlib.Data.List.Perm.Basic

/-!
What is found on a bundle does not depend on the order of its overlays: of overlays that share a tag
and a language it is always all but one that are found, and every other check looks at all overlays.
-/

namespace LayeredSchema.Bundle

variable {b b' : Bundle} {rules : SemanticRules} {o p : Overlay}
  {earlier earlier' os ps : List Overlay} {name : String}

lemma languageFindings_congr (h : ∀ q, q ∈ earlier ↔ q ∈ earlier') :
    languageFindings rules earlier o = languageFindings rules earlier' o := by
  cases hl : o.language with
  | none => rw [languageFindings_of_none hl, languageFindings_of_none hl]
  | some l =>
    have ha : earlier.any (Overlay.isIn o.tag l) = earlier'.any (Overlay.isIn o.tag l) := by
      rw [Bool.eq_iff_iff, List.any_eq_true, List.any_eq_true]
      simp only [h]
    rw [languageFindings_of_some hl, languageFindings_of_some hl, ha]

lemma languagesFindings_congr (h : ∀ q, q ∈ earlier ↔ q ∈ earlier') :
    languagesFindings rules earlier os = languagesFindings rules earlier' os := by
  induction os generalizing earlier earlier' with
  | nil => rfl
  | cons o os ih =>
    rw [languagesFindings, languagesFindings, languageFindings_congr h, ih]
    intro q
    simp only [List.mem_append, h]

lemma languageFindings_concat (h : ∀ l, p.language = some l → o.isIn p.tag l = false) :
    languageFindings rules (earlier ++ [o]) p = languageFindings rules earlier p := by
  cases hl : p.language with
  | none => rw [languageFindings_of_none hl, languageFindings_of_none hl]
  | some l =>
    rw [languageFindings_of_some hl, languageFindings_of_some hl, List.any_append, List.any_cons,
      h l hl, List.any_nil, Bool.or_false, Bool.or_false]

lemma languageFindings_swap : (languageFindings rules earlier o ++
    languageFindings rules (earlier ++ [o]) p).Perm
      (languageFindings rules earlier p ++ languageFindings rules (earlier ++ [p]) o) := by
  by_cases h : p.tag = o.tag ∧ p.language = o.language ∧ o.language ≠ none
  · obtain ⟨ht, hl, hn⟩ := h
    obtain ⟨l, ho⟩ := Option.ne_none_iff_exists'.mp hn
    have hp := hl.trans ho
    rw [languageFindings_of_some ho, languageFindings_of_some hp, languageFindings_of_some ho,
      languageFindings_of_some hp, SemanticRules.isUnique_congr ht, ht, Overlay.title_eq_iff.mpr ht]
    have hi : p.isIn o.tag l = true := Overlay.isIn_iff.mpr ⟨ht, hp⟩
    have hi' : o.isIn o.tag l = true := Overlay.isIn_iff.mpr ⟨rfl, ho⟩
    rw [List.any_append, List.any_append, List.any_cons, List.any_cons, hi, hi']
  · rw [languageFindings_concat, languageFindings_concat]
    · exact List.perm_append_comm
    · intro l hl
      refine Bool.eq_false_iff.mpr fun hi => h ?_
      obtain ⟨ht, hp⟩ := Overlay.isIn_iff.mp hi
      exact ⟨ht, hp.trans hl.symm, hl ▸ Option.some_ne_none l⟩
    · intro l hl
      refine Bool.eq_false_iff.mpr fun hi => h ?_
      obtain ⟨ht, ho⟩ := Overlay.isIn_iff.mp hi
      exact ⟨ht.symm, hl.trans ho.symm, ho ▸ Option.some_ne_none l⟩

lemma languagesFindings_perm (rules : SemanticRules) (h : os.Perm ps) (earlier : List Overlay) :
    (languagesFindings rules earlier os).Perm (languagesFindings rules earlier ps) := by
  induction h generalizing earlier with
  | nil => rfl
  | cons o _ ih => exact (ih (earlier ++ [o])).append_left _
  | swap p o os =>
    rw [languagesFindings, languagesFindings, languagesFindings, languagesFindings,
      ← List.append_assoc, ← List.append_assoc]
    have hm (q : Overlay) : q ∈ earlier ++ [o] ++ [p] ↔ q ∈ earlier ++ [p] ++ [o] := by
      simp only [List.mem_append, or_right_comm]
    rw [languagesFindings_congr hm]
    exact languageFindings_swap.append_right _
  | trans _ _ ih ih' => exact (ih earlier).trans (ih' earlier)

lemma nodup_titles (os : List Overlay) : ((firstOfEachTag os).map (·.title)).Nodup := by
  induction os with
  | nil => exact List.nodup_nil
  | cons o os ih =>
    rw [firstOfEachTag, List.map_cons, List.nodup_cons]
    constructor
    · intro h
      obtain ⟨p, hp, ht⟩ := List.mem_map.mp h
      have hn := (List.mem_filter.mp hp).2
      simp [Overlay.title_eq_iff.mp ht] at hn
    · exact ih.sublist (List.filter_sublist.map _)

lemma mem_titles {title : String} :
    title ∈ (firstOfEachTag os).map (·.title) ↔ ∃ o ∈ os, o.title = title := by
  rw [List.mem_map]
  constructor
  · rintro ⟨o, ho, ht⟩
    exact ⟨o, mem_of_mem_firstOfEachTag ho, ht⟩
  · rintro ⟨o, ho, rfl⟩
    obtain ⟨p, hp, ht⟩ := exists_mem_firstOfEachTag ho
    exact ⟨p, hp, Overlay.title_eq_iff.mpr ht⟩

lemma titles_perm (h : os.Perm ps) :
    ((firstOfEachTag os).map (·.title)).Perm ((firstOfEachTag ps).map (·.title)) := by
  refine (List.perm_ext_iff_of_nodup (nodup_titles os) (nodup_titles ps)).mpr fun title => ?_
  simp only [mem_titles, h.mem_iff]

def missingLanguages (rules : SemanticRules) (os : List Overlay) (title : String) : List String :=
  rules.enforcedLanguages.filter fun l =>
    !os.any fun p => p.title == title && p.language == some l

lemma missingLanguages_perm (h : os.Perm ps) (title : String) :
    missingLanguages rules os title = missingLanguages rules ps title := by
  unfold missingLanguages
  congr 1
  funext l
  rw [Bool.eq_iff_iff]
  simp only [Bool.not_eq_true', List.any_eq_false, h.mem_iff]

lemma translationFindings_eq : b.translationFindings rules =
    ((firstOfEachTag (b.overlays.filter rules.isScoped)).map (·.title)).flatMap fun title =>
      (missingLanguages rules (b.overlays.filter rules.isScoped) title).map
        (.missingTranslation title) := by
  rw [List.flatMap_map, translationFindings]
  congr 1
  funext o
  have ht (p : Overlay) : (p.tag == o.tag) = (p.title == o.title) := by
    rw [Bool.eq_iff_iff, beq_iff_eq, beq_iff_eq, Overlay.title_eq_iff]
  simp only [missingLanguages, ht]

lemma translationFindings_perm (rules : SemanticRules) (h : b.overlays.Perm b'.overlays) :
    (b.translationFindings rules).Perm (b'.translationFindings rules) := by
  have hs := h.filter rules.isScoped
  rw [translationFindings_eq, translationFindings_eq]
  simp only [missingLanguages_perm hs]
  exact (titles_perm hs).flatMap_right _

lemma mem_entryCodes_congr (h : b.overlays.Perm b'.overlays) (name code : String) :
    ((b.entryCodes? name).getD []).contains code =
      ((b'.entryCodes? name).getD []).contains code := by
  have hm (b : Bundle) : code ∈ (b.entryCodes? name).getD [] ↔
      ∃ cs, b.Lists name cs ∧ code ∈ cs := by
    cases hc : b.entryCodes? name with
    | none =>
      have hn := entryCodes?_eq_none_iff.mp hc
      simp [hn]
    | some codes => exact mem_entryCodes? hc
  have hl (cs : List String) : b.Lists name cs ↔ b'.Lists name cs := by
    simp only [Lists, h.mem_iff]
  rw [Bool.eq_iff_iff, List.contains_iff_mem, List.contains_iff_mem, hm, hm]
  simp only [hl]

lemma ownFindings_congr (hc : b.captureBase = b'.captureBase)
    (h : b.overlays.Perm b'.overlays) : b.ownFindings o = b'.ownFindings o := by
  have hb : b.bodyFindings o.body = b'.bodyFindings o.body := by
    cases o.body with
    | entry texts => simp only [bodyFindings, entryFindings, mem_entryCodes_congr h]
    | conditional => simp only [bodyFindings, conditionFindings, dependencyFindings, hc]
    | format => simp only [bodyFindings, isText, hc]
    | unit => simp only [bodyFindings, unitFindings, hc]
    | _ => rfl
  rw [ownFindings, ownFindings, unknownReferences, unknownReferences, hb, integrityFindings,
    integrityFindings, hc]

theorem semanticReport_perm (name : Option String) (c : CaptureBase) (rules : SemanticRules)
    {os ps : List Overlay} (h : os.Perm ps) :
    ((make name c os).semanticReport rules).findings.Perm
      ((make name c ps).semanticReport rules).findings := by
  have ho : (make name c os).overlays.Perm (make name c ps).overlays := h.map _
  have hd (os : List Overlay) : digestFindings "bundle" (make name c os).digest
      (make name c os).computedDigest = [] := by
    simp [digestFindings, make, computedDigest, Overlay.bind, Function.comp_def]
  have hf : (make name c os).otherFindings.Perm (make name c ps).otherFindings := by
    rw [otherFindings, otherFindings, hd, hd]
    refine (List.Perm.append_right _ ?_).append_right _
    have hw : (make name c os).ownFindings = (make name c ps).ownFindings :=
      funext fun o => ownFindings_congr rfl ho
    rw [hw]
    exact ho.flatMap_right _
  have hp := (languagesFindings_perm rules ho []).append
    ((translationFindings_perm rules ho).append hf)
  exact ((findings_perm _ rules).trans hp).trans (findings_perm _ rules).symm

def codedOverlays : List Overlay :=
  let label := Overlay.make (some "en") (.label (.ofList [("size", "Size")]))
  [label, { label with body := .label (.ofList [("size", "Width")]) },
    .make (some "fr") (.entry (.ofList [("size", .ofList [("S", "petit")])])),
    .make none (.entryCode (.ofList [("size", ["S", "L"])]))]

theorem semanticReport_perm_coded :
    codedOverlays.reverse.Perm codedOverlays ∧ codedOverlays.reverse ≠ codedOverlays ∧
      ((make none (CaptureBase.Draft.build {})
        codedOverlays.reverse).semanticReport {}).findings.Perm
          ((make none (CaptureBase.Draft.build {}) codedOverlays).semanticReport {}).findings := by
  refine ⟨List.reverse_perm _, fun h => ?_, semanticReport_perm none _ {} (List.reverse_perm _)⟩
  have ht : codedOverlays.reverse.map (·.tag) ≠ codedOverlays.map (·.tag) := by decide
  exact ht (by rw [h])

end LayeredSchema.Bundle

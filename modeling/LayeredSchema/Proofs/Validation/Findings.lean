import LayeredSchema.Proofs.Validation.Conformance
import Mathlib

/-!
Which findings data validation makes on a record, one kind of finding after the other: where each
stands in the record, and what the overlays of the bundle say that it goes against.
-/

namespace LayeredSchema

def Json.record (es : Entries Json) : Table Json := .ofList (normalEntries es)

def Table.given? (record : Table Json) (a : String) : Option Json :=
  (record.get? a).filter (· ≠ .null)

lemma Table.given?_congr {record record' : Table Json} {a : String}
    (h : record.get? a = record'.get? a) : record.given? a = record'.given? a := by
  rw [given?, given?, h]

/-- The values in a value of a type that are of its primitive type, each under its path: the name and
the places in arrays that lead to it. -/
inductive AttributeType.LeafAt : String → AttributeType → Json → String → Primitive → Json → Prop
  | here {path : String} {p : Primitive} {v : Json} (h : p.Holds v) :
      LeafAt path (.primitive p) v path p v
  | inside {path path' : String} {t : AttributeType} {items : List Json} {i : ℕ} {v u : Json}
      {p : Primitive} (hv : items[i]? = some v) (h : LeafAt (path ++ s!"[{i}]") t v path' p u) :
      LeafAt path (.array t) (.array items) path' p u

lemma AttributeType.LeafAt.holds {path path' : String} {t : AttributeType} {v u : Json}
    {p : Primitive} (h : t.LeafAt path v path' p u) : p.Holds u := by
  induction h with
  | here h => exact h
  | inside _ _ ih => exact ih

lemma AttributeType.LeafAt.innermost {path path' : String} {t : AttributeType} {v u : Json}
    {p : Primitive} (h : t.LeafAt path v path' p u) : t.innermost = .primitive p := by
  induction h with
  | here => rfl
  | inside _ _ ih => exact ih

namespace Condition

variable {c : Condition} {record record' : Table Json}

lemma holds_congr (h : ∀ v ∈ c.variableNames, record.get? v = record'.get? v) :
    c.holds record = c.holds record' := by
  have hv (o : Operand) (ho : ∀ v ∈ Operand.variableNames o, record.get? v = record'.get? v) :
      Operand.value? record o = Operand.value? record' o := by
    rcases o with name | v
    · exact ho name List.mem_cons_self
    · rfl
  have hc (clause : List Comparison) (hm : clause ∈ c.clauses) (cmp : Comparison)
      (hcmp : cmp ∈ clause) : Comparison.holds record cmp = Comparison.holds record' cmp := by
    have hn : ∀ v ∈ Operand.variableNames cmp.left ++ Operand.variableNames cmp.right,
        record.get? v = record'.get? v :=
      fun v hv => h v (List.mem_flatMap.mpr ⟨cmp, List.mem_flatten_of_mem hm hcmp, hv⟩)
    rw [Comparison.holds, Comparison.holds,
      hv cmp.left fun v hv => hn v (List.mem_append_left _ hv),
      hv cmp.right fun v hv => hn v (List.mem_append_right _ hv)]
  rw [Bool.eq_iff_iff, holds, holds]
  simp only [List.any_eq_true, List.all_eq_true]
  refine exists_congr fun clause => and_congr_right fun hm => forall₂_congr fun cmp hcmp => ?_
  rw [hc clause hm cmp hcmp]

end Condition

namespace AttributeRules

variable {r : AttributeRules} {path s : String} {p : Primitive} {t : AttributeType} {v : Json}
  {f : DataFinding}

lemma mem_codeFindings_iff : f ∈ r.codeFindings path v ↔
    ∃ codes, r.entryCodes = some codes ∧ codeOf v ∉ codes ∧
      f = .invalidEntryCode path (codeOf v) := by
  rw [codeFindings]
  cases r.entryCodes <;> simp

lemma mem_unitFindings_iff : f ∈ r.unitFindings path v ↔
    ∃ unit, r.unit = some unit ∧ Primitive.numeric.admits v = false ∧
      f = .nonNumericUnit path unit := by
  rw [unitFindings]
  cases r.unit <;> simp

lemma mem_formatFindings_iff : f ∈ r.formatFindings p path s ↔
    (p = .dateTime ∧ r.admitsDate s = false ∧
        f = .formatMismatch path s (r.format.getD defaultDateFormat)) ∨
      p = .text ∧ (∃ pattern, r.textPattern = some pattern ∧ pattern.admits s = false) ∧
        f = .formatMismatch path s (r.format.getD "") := by
  cases p with
  | dateTime => simp [formatFindings]
  | text =>
    rw [formatFindings]
    cases r.textPattern with
    | none => simp
    | some pattern => cases h : pattern.admits s <;> simp [h]
  | _ => simp [formatFindings]

lemma mem_encodingFindings_iff : f ∈ r.encodingFindings path s ↔
    ∃ label e, r.encoding = some label ∧ TextEncoding.ofLabel? label = some e ∧
      e.accepts s = false ∧ f = .encodingMismatch path label := by
  rw [encodingFindings]
  cases r.encoding with
  | none => simp
  | some label =>
    cases hl : TextEncoding.ofLabel? label with
    | none => simp [hl]
    | some e => simp [hl]

lemma mem_leafFindings_iff : f ∈ r.leafFindings p path v ↔
    (∃ codes, r.entryCodes = some codes ∧ codeOf v ∉ codes ∧
        f = .invalidEntryCode path (codeOf v)) ∨
      (∃ unit, r.unit = some unit ∧ Primitive.numeric.admits v = false ∧
        f = .nonNumericUnit path unit) ∨
      ∃ s, v = .string s ∧
        ((p = .dateTime ∧ r.admitsDate s = false ∧
            f = .formatMismatch path s (r.format.getD defaultDateFormat)) ∨
          (p = .text ∧ (∃ pattern, r.textPattern = some pattern ∧ pattern.admits s = false) ∧
            f = .formatMismatch path s (r.format.getD "")) ∨
          ∃ label e, r.encoding = some label ∧ TextEncoding.ofLabel? label = some e ∧
            e.accepts s = false ∧ f = .encodingMismatch path label) := by
  unfold leafFindings
  rw [List.mem_append, List.mem_append, or_assoc, mem_codeFindings_iff, mem_unitFindings_iff]
  cases v <;> simp [mem_formatFindings_iff, mem_encodingFindings_iff, or_assoc]

lemma mem_countFindings_iff : f ∈ r.countFindings path t v ↔
    ∃ element items range, t = .array element ∧ v = .array items ∧ r.cardinality = some range ∧
      range.contains items.length = false ∧
        f = .cardinalityViolation path items.length range := by
  unfold countFindings
  split
  · cases r.cardinality <;> simp
  · rename_i hn
    refine iff_of_false List.not_mem_nil ?_
    rintro ⟨element, items, range, ht, hv, -⟩
    exact hn element items ht hv

lemma mem_valueFindings_iff (hf : ∀ path expected found, f ≠ .typeMismatch path expected found) :
    f ∈ r.valueFindings path t v ↔
      ∃ path' p u, t.LeafAt path v path' p u ∧ f ∈ r.leafFindings p path' u := by
  induction t generalizing path v with
  | primitive p =>
    rw [valueFindings]
    split
    · rename_i hp
      constructor
      · exact fun h => ⟨path, p, v, .here (Bundle.admits_iff_holds.mp hp), h⟩
      · rintro ⟨_, _, _, ⟨⟩, h⟩
        exact h
    · rename_i hp
      refine iff_of_false (fun h => hf _ _ _ (List.mem_singleton.mp h)) ?_
      rintro ⟨_, _, _, ⟨h⟩, -⟩
      exact hp (Bundle.admits_iff_holds.mpr h)
  | reference ref =>
    have hn : ¬∃ path' p u, (AttributeType.reference ref).LeafAt path v path' p u ∧
        f ∈ r.leafFindings p path' u := by
      rintro ⟨_, _, _, ⟨⟩, -⟩
    refine iff_of_false (fun h => ?_) hn
    cases v with
    | object es => exact List.not_mem_nil h
    | _ => exact hf _ _ _ (List.mem_singleton.mp h)
  | array t ih =>
    cases v with
    | array items =>
      simp only [valueFindings, List.mem_flatMap, List.mem_zipIdx_iff_getElem?]
      constructor
      · rintro ⟨⟨v, i⟩, hi, h⟩
        obtain ⟨path', p, u, hl, h⟩ := ih.mp h
        exact ⟨path', p, u, .inside hi hl, h⟩
      · rintro ⟨path', p, u, hl, h⟩
        cases hl with
        | inside hi hl => exact ⟨(_, _), hi, ih.mpr ⟨path', p, u, hl, h⟩⟩
    | _ =>
      refine iff_of_false (fun h => hf _ _ _ (List.mem_singleton.mp h)) ?_
      rintro ⟨_, _, _, ⟨⟩, -⟩

lemma missingAttribute_not_mem {name : String} :
    .missingAttribute name ∉ r.valueFindings path t v := by
  rw [mem_valueFindings_iff (by simp)]
  simp [mem_leafFindings_iff]

lemma cardinalityViolation_not_mem {name : String} {count : ℕ} {range : Cardinality} :
    .cardinalityViolation name count range ∉ r.valueFindings path t v := by
  rw [mem_valueFindings_iff (by simp)]
  simp [mem_leafFindings_iff]

lemma isRequired_congr {record record' : Table Json} {requiredByDefault : Bool}
    (h : ∀ c, r.condition = some c → ∀ v ∈ c.variableNames, record.get? v = record'.get? v) :
    r.isRequired requiredByDefault record = r.isRequired requiredByDefault record' := by
  have hc : (r.condition.any fun c => !c.holds record) =
      r.condition.any fun c => !c.holds record' := by
    cases hr : r.condition with
    | none => rfl
    | some c => rw [Option.any_some, Option.any_some, Condition.holds_congr (h c hr)]
  rw [isRequired, isRequired, hc]

end AttributeRules

namespace Bundle

open Body

variable {b : Bundle} {requiredByDefault : Bool} {record record' : Table Json} {es : Entries Json}
  {a name path : String} {t : AttributeType} {f : DataFinding}

lemma attributeFindings_eq : b.attributeFindings requiredByDefault record a t =
    match record.given? a with
    | none =>
      if (b.rulesFor a).isRequired requiredByDefault record then [.missingAttribute a] else []
    | some v => (b.rulesFor a).countFindings a t v ++ (b.rulesFor a).valueFindings a t v := by
  rw [attributeFindings, Table.given?]
  rcases record.get? a with _ | v
  · rfl
  · cases v <;> rfl

def Reads (b : Bundle) (a v : String) : Prop :=
  ∃ c, b.First (GivesCondition a) c ∧ v ∈ c.variableNames

lemma attributeFindings_congr (hr : ∀ v, b.Reads a v → record.get? v = record'.get? v)
    (ha : record.given? a = record'.given? a) :
    b.attributeFindings requiredByDefault record a t =
      b.attributeFindings requiredByDefault record' a t := by
  have hq : (b.rulesFor a).isRequired requiredByDefault record =
      (b.rulesFor a).isRequired requiredByDefault record' :=
    AttributeRules.isRequired_congr fun c hc v hv => hr v ⟨c, condition?_eq_some_iff.mp hc, hv⟩
  rw [attributeFindings_eq, attributeFindings_eq, ha, hq]

lemma dataReport_object (es : Entries Json) : b.dataReport requiredByDefault (.object es) =
    ⟨b.recordFindings requiredByDefault (Json.record es)⟩ := by
  have hr : Table.ofList (Entries.ofList (Json.normalEntries es)) = Json.record es :=
    Table.ofList_entries (Json.record es)
  simp only [dataReport, Json.normal, hr]

lemma dataReport_congr_record {es es' : Entries Json}
    (h : ∀ a, b.captureBase.hasAttribute a = true →
      (Json.record es).given? a = (Json.record es').given? a ∧
        ∀ v, b.Reads a v → (Json.record es).get? v = (Json.record es').get? v) :
    b.dataReport requiredByDefault (.object es) = b.dataReport requiredByDefault (.object es') := by
  rw [dataReport_object, dataReport_object, recordFindings, recordFindings, List.flatMap_def,
    List.flatMap_def]
  refine congrArg _ (congrArg _ (List.map_congr_left fun a ha => ?_))
  have hd : b.captureBase.hasAttribute a.1 = true :=
    Entries.contains_iff.mpr (List.mem_map_of_mem ha)
  exact attributeFindings_congr (h a.1 hd).2 (h a.1 hd).1

def LeafIn (b : Bundle) (record : Table Json) (name path : String) (p : Primitive) (v : Json) :
    Prop :=
  ∃ t value, b.captureBase.attribute? name = some t ∧ record.given? name = some value ∧
    t.LeafAt name value path p v

lemma mem_attributeFindings_iff : f ∈ b.attributeFindings requiredByDefault record name t ↔
    (record.given? name = none ∧ (b.rulesFor name).isRequired requiredByDefault record = true ∧
        f = .missingAttribute name) ∨
      ∃ v, record.given? name = some v ∧ (f ∈ (b.rulesFor name).countFindings name t v ∨
        f ∈ (b.rulesFor name).valueFindings name t v) := by
  rw [attributeFindings_eq]
  cases record.given? name <;> simp

lemma mem_dataReport_iff : f ∈ (b.dataReport requiredByDefault (.object es)).findings ↔
    ∃ name t, b.captureBase.attribute? name = some t ∧
      f ∈ b.attributeFindings requiredByDefault (Json.record es) name t := by
  simp only [dataReport_object, recordFindings, List.mem_flatMap]
  constructor
  · rintro ⟨⟨name, t⟩, hm, h⟩
    exact ⟨name, t, Entries.get?_of_mem b.captureBase.attributes.nodup hm, h⟩
  · rintro ⟨name, t, ht, h⟩
    exact ⟨(name, t), Entries.mem_of_get? ht, h⟩

lemma mem_dataReport_iff_leaf (hn : ∀ name, f ≠ .missingAttribute name)
    (hc : ∀ name count range, f ≠ .cardinalityViolation name count range)
    (ht : ∀ path expected found, f ≠ .typeMismatch path expected found) :
    f ∈ (b.dataReport requiredByDefault (.object es)).findings ↔
      ∃ name path p v, b.LeafIn (Json.record es) name path p v ∧
        f ∈ (b.rulesFor name).leafFindings p path v := by
  simp only [mem_dataReport_iff, mem_attributeFindings_iff, AttributeRules.mem_countFindings_iff,
    AttributeRules.mem_valueFindings_iff ht, hn, hc, and_false, exists_false, false_or]
  constructor
  · rintro ⟨name, t, ht, value, hv, path, p, v, hl, h⟩
    exact ⟨name, path, p, v, ⟨t, value, ht, hv, hl⟩, h⟩
  · rintro ⟨name, path, p, v, ⟨t, value, ht, hv, hl⟩, h⟩
    exact ⟨name, t, ht, value, hv, path, p, v, hl, h⟩

lemma hasAttribute_iff :
    b.captureBase.hasAttribute name = true ↔ ∃ t, b.captureBase.attribute? name = some t :=
  Entries.contains_iff.trans Entries.mem_names_iff

lemma missingAttribute_mem_iff :
    .missingAttribute name ∈ (b.dataReport requiredByDefault (.object es)).findings ↔
      b.captureBase.hasAttribute name = true ∧ (Json.record es).given? name = none ∧
        b.Requires requiredByDefault (Json.record es) name := by
  simp only [mem_dataReport_iff, mem_attributeFindings_iff, AttributeRules.mem_countFindings_iff,
    AttributeRules.missingAttribute_not_mem, hasAttribute_iff, ← isRequired_iff, DataFinding.missingAttribute.injEq, reduceCtorEq,
    and_false, exists_false, or_false]
  constructor
  · rintro ⟨_, t, ht, hg, hr, rfl⟩
    exact ⟨⟨t, ht⟩, hg, hr⟩
  · rintro ⟨⟨t, ht⟩, hg, hr⟩
    exact ⟨name, t, ht, hg, hr, rfl⟩

lemma cardinalityViolation_mem_iff {count : ℕ} {range : Cardinality} :
    .cardinalityViolation name count range ∈
        (b.dataReport requiredByDefault (.object es)).findings ↔
      ∃ element items, b.captureBase.attribute? name = some (.array element) ∧
        (Json.record es).given? name = some (.array items) ∧ items.length = count ∧
          b.First (GivesRange name) range ∧ range.contains count = false := by
  simp only [mem_dataReport_iff, mem_attributeFindings_iff, AttributeRules.mem_countFindings_iff,
    AttributeRules.cardinalityViolation_not_mem, ← cardinality?_eq_some_iff, DataFinding.cardinalityViolation.injEq, reduceCtorEq,
    and_false, false_or, or_false]
  constructor
  · rintro ⟨_, _, ht, _, hg, element, items, _, rfl, rfl, hr, hc, rfl, rfl, rfl⟩
    exact ⟨element, items, ht, hg, rfl, hr, hc⟩
  · rintro ⟨element, items, ht, hg, rfl, hr, hc⟩
    exact ⟨name, _, ht, _, hg, element, items, range, rfl, rfl, hr, hc, rfl, rfl, rfl⟩

lemma invalidEntryCode_mem_iff {code : String} :
    .invalidEntryCode path code ∈ (b.dataReport requiredByDefault (.object es)).findings ↔
      ∃ name p v, b.LeafIn (Json.record es) name path p v ∧ AttributeRules.codeOf v = code ∧
        (∃ codes, b.Lists name codes) ∧ ∀ codes, b.Lists name codes → code ∉ codes := by
  have hc (name code : String) :
      (∃ codes, (b.rulesFor name).entryCodes = some codes ∧ code ∉ codes) ↔
        (∃ codes, b.Lists name codes) ∧ ∀ codes, b.Lists name codes → code ∉ codes := by
    change (∃ codes, b.entryCodes? name = some codes ∧ code ∉ codes) ↔ _
    cases h : b.entryCodes? name with
    | none => simp [entryCodes?_eq_none_iff.mp h]
    | some cs =>
      have hl : ∃ codes, b.Lists name codes := by
        by_contra hn
        rw [entryCodes?_eq_none_iff.mpr (not_exists.mp hn)] at h
        contradiction
      simp [mem_entryCodes? h, hl]
  rw [mem_dataReport_iff_leaf (by simp) (by simp) (by simp)]
  simp only [AttributeRules.mem_leafFindings_iff, DataFinding.invalidEntryCode.injEq, reduceCtorEq,
    and_false, exists_false, or_false, ← hc]
  constructor
  · rintro ⟨name, _, p, v, hl, codes, hr, hv, rfl, rfl⟩
    exact ⟨name, p, v, hl, rfl, codes, hr, hv⟩
  · rintro ⟨name, p, v, hl, rfl, codes, hr, hv⟩
    exact ⟨name, path, p, v, hl, codes, hr, hv, rfl, rfl⟩

lemma nonNumericUnit_mem_iff {unit : String} :
    .nonNumericUnit path unit ∈ (b.dataReport requiredByDefault (.object es)).findings ↔
      ∃ name p v, b.LeafIn (Json.record es) name path p v ∧ b.First (GivesUnit name) unit ∧
        ¬Primitive.numeric.Holds v := by
  rw [mem_dataReport_iff_leaf (by simp) (by simp) (by simp)]
  simp only [AttributeRules.mem_leafFindings_iff, DataFinding.nonNumericUnit.injEq, reduceCtorEq,
    and_false, exists_false, or_false, false_or, ← unit?_eq_some_iff, ← admits_iff_holds,
    Bool.not_eq_true]
  constructor
  · rintro ⟨name, _, p, v, hl, _, hr, hv, rfl, rfl⟩
    exact ⟨name, p, v, hl, hr, hv⟩
  · rintro ⟨name, p, v, hl, hr, hv⟩
    exact ⟨name, path, p, v, hl, unit, hr, hv, rfl, rfl⟩

lemma admitsDate_rulesFor_iff {s format : String} :
    ((b.rulesFor name).admitsDate s = false ∧
        format = (b.rulesFor name).format.getD AttributeRules.defaultDateFormat) ↔
      (b.First (Gives .format name) format ∧ (DatePattern.parse format).admits s = false) ∨
        ((∀ pattern, ¬b.First (Gives .format name) pattern) ∧
          format = AttributeRules.defaultDateFormat ∧ Iso8601.admits s = false) := by
  have hr : (b.rulesFor name).format = b.format? name := rfl
  simp only [← format?_eq_some_iff, AttributeRules.admitsDate, hr]
  cases b.format? name with
  | none => simp [and_comm]
  | some pattern =>
    simp only [Option.getD_some, Option.some.injEq]
    constructor
    · rintro ⟨h, rfl⟩
      exact .inl ⟨rfl, h⟩
    · rintro (⟨rfl, h⟩ | ⟨hn, -⟩)
      · exact ⟨h, rfl⟩
      · exact absurd rfl (hn pattern)

lemma textPattern_rulesFor_iff (ht : b.isText name = true) {s format : String} :
    ((∃ pattern, (b.rulesFor name).textPattern = some pattern ∧ pattern.admits s = false) ∧
        format = (b.rulesFor name).format.getD "") ↔
      b.First (Gives .format name) format ∧
        ∃ pattern, TextPattern.parse? format = some pattern ∧ pattern.admits s = false := by
  have hr : (b.rulesFor name).format = b.format? name := rfl
  have hp : (b.rulesFor name).textPattern = (b.format? name).bind TextPattern.parse? := if_pos ht
  simp only [← format?_eq_some_iff, hr, hp]
  cases b.format? name with
  | none => simp
  | some pattern =>
    simp only [Option.bind_some, Option.getD_some, Option.some.injEq]
    constructor
    · rintro ⟨h, rfl⟩
      exact ⟨rfl, h⟩
    · rintro ⟨rfl, h⟩
      exact ⟨h, rfl⟩

lemma LeafIn.isText {v : Json} (h : b.LeafIn record name path .text v) : b.isText name = true := by
  obtain ⟨t, value, ht, -, hl⟩ := h
  simp [Bundle.isText, ht, AttributeType.isOf, hl.innermost]

lemma formatMismatch_mem_iff {s format : String} :
    .formatMismatch path s format ∈ (b.dataReport requiredByDefault (.object es)).findings ↔
      ∃ name,
        (b.LeafIn (Json.record es) name path .dateTime (.string s) ∧
            ((b.First (Gives .format name) format ∧ (DatePattern.parse format).admits s = false) ∨
              ((∀ pattern, ¬b.First (Gives .format name) pattern) ∧
                format = AttributeRules.defaultDateFormat ∧ Iso8601.admits s = false))) ∨
          (b.LeafIn (Json.record es) name path .text (.string s) ∧
            b.First (Gives .format name) format ∧
              ∃ pattern, TextPattern.parse? format = some pattern ∧ pattern.admits s = false) := by
  rw [mem_dataReport_iff_leaf (by simp) (by simp) (by simp)]
  simp only [AttributeRules.mem_leafFindings_iff, DataFinding.formatMismatch.injEq, reduceCtorEq,
    and_false, exists_false, or_false, false_or, ← admitsDate_rulesFor_iff]
  constructor
  · rintro ⟨name, _, p, _, hl, _, rfl, ⟨rfl, hs, rfl, rfl, hf⟩ | ⟨rfl, hs, rfl, rfl, hf⟩⟩
    · exact ⟨name, .inl ⟨hl, hs, hf⟩⟩
    · exact ⟨name, .inr ⟨hl, (textPattern_rulesFor_iff hl.isText).mp ⟨hs, hf⟩⟩⟩
  · rintro ⟨name, ⟨hl, hs, hf⟩ | ⟨hl, h⟩⟩
    · exact ⟨name, path, _, _, hl, s, rfl, .inl ⟨rfl, hs, rfl, rfl, hf⟩⟩
    · obtain ⟨hs, hf⟩ := (textPattern_rulesFor_iff hl.isText).mpr h
      exact ⟨name, path, _, _, hl, s, rfl, .inr ⟨rfl, hs, rfl, rfl, hf⟩⟩

end Bundle

end LayeredSchema

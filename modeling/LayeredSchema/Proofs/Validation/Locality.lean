import LayeredSchema.Proofs.Validation.Enforcement
import Mathlib

/-!
What the findings on a record depend on: those on an attribute on its own value, and on what its
condition reads.
-/

namespace LayeredSchema

namespace Bundle

open Body

variable {b : Bundle} {requiredByDefault : Bool} {record record' : Table Json} {a : String}
  {t : AttributeType}

def segments (b : Bundle) (requiredByDefault : Bool) (record : Table Json)
    (as : Entries AttributeType) : List DataFinding :=
  as.flatMap fun a => b.attributeFindings requiredByDefault record a.1 a.2

lemma segments_congr {as : Entries AttributeType}
    (h : ∀ a ∈ as, b.attributeFindings requiredByDefault record a.1 a.2 =
      b.attributeFindings requiredByDefault record' a.1 a.2) :
    b.segments requiredByDefault record as = b.segments requiredByDefault record' as := by
  rw [segments, List.flatMap_def, List.map_congr_left h, ← List.flatMap_def, segments]

lemma segments_append_cons {before after : Entries AttributeType} :
    b.segments requiredByDefault record (before ++ (a, t) :: after) =
      b.segments requiredByDefault record before ++
        b.attributeFindings requiredByDefault record a t ++
          b.segments requiredByDefault record after := by
  simp [segments]

lemma recordFindings_eq : b.recordFindings requiredByDefault record =
    b.segments requiredByDefault record b.captureBase.attributes.entries := rfl

lemma missingAttribute_alone : b.attributeFindings requiredByDefault record a t =
      [.missingAttribute a] ∨
    ∀ n, .missingAttribute n ∉ b.attributeFindings requiredByDefault record a t := by
  rw [attributeFindings_eq]
  cases record.given? a with
  | none =>
    by_cases h : (b.rulesFor a).isRequired requiredByDefault record = true <;> simp [h]
  | some v =>
    refine Or.inr fun n => ?_
    simp [AttributeRules.mem_countFindings_iff, AttributeRules.missingAttribute_not_mem]

/-- The report on a record goes through the attributes in the order of their declaration. What it
says of one depends on nothing but the value given for it and the names that its condition reads, so
that no other entry of the record has an effect, and a change to one attribute that no other one's
condition reads leaves all that is said of the others as it is. -/
theorem dataReport_local (b : Bundle) (requiredByDefault : Bool) :
    (∀ es, (b.dataReport requiredByDefault (.object es)).findings =
        b.captureBase.attributes.entries.flatMap fun a =>
          b.attributeFindings requiredByDefault (Json.record es) a.1 a.2) ∧
      (∀ es es' a t,
        (∀ v, b.Reads a v → (Json.record es).get? v = (Json.record es').get? v) →
        (Json.record es).given? a = (Json.record es').given? a →
          b.attributeFindings requiredByDefault (Json.record es) a t =
            b.attributeFindings requiredByDefault (Json.record es') a t) ∧
      (∀ es es',
        (∀ a, b.captureBase.hasAttribute a = true →
          (Json.record es).given? a = (Json.record es').given? a ∧
            ∀ v, b.Reads a v → (Json.record es).get? v = (Json.record es').get? v) →
          b.dataReport requiredByDefault (.object es) =
            b.dataReport requiredByDefault (.object es')) ∧
      (∀ es es' a, (∀ v, v ≠ a → (Json.record es).get? v = (Json.record es').get? v) →
        (∀ n, n ≠ a → ¬b.Reads n a) →
          ∀ before t after, b.captureBase.attributes.entries = before ++ (a, t) :: after →
            (b.dataReport requiredByDefault (.object es')).findings =
              b.segments requiredByDefault (Json.record es) before ++
                b.attributeFindings requiredByDefault (Json.record es') a t ++
                  b.segments requiredByDefault (Json.record es) after) ∧
      ∀ es a t, b.attributeFindings requiredByDefault (Json.record es) a t =
          [.missingAttribute a] ∨
        ∀ n, .missingAttribute n ∉ b.attributeFindings requiredByDefault (Json.record es) a t := by
  refine ⟨fun es => by rw [dataReport_object]; rfl,
    fun es es' a t => attributeFindings_congr, fun es es' => dataReport_congr_record,
    fun es es' a he hr before t after hb => ?_, fun es a t => missingAttribute_alone⟩
  · have hs (as : Entries AttributeType) (ha : a ∉ as.names) :
        b.segments requiredByDefault (Json.record es') as =
          b.segments requiredByDefault (Json.record es) as := by
      refine segments_congr fun n hn => ?_
      have hna : n.1 ≠ a := by
        rintro rfl
        exact ha (List.mem_map_of_mem hn)
      refine attributeFindings_congr (fun v hv => (he v ?_).symm)
        (Table.given?_congr (he n.1 hna).symm)
      rintro rfl
      exact hr n.1 hna hv
    have hn : (before ++ (a, t) :: after).names.Nodup := hb ▸ b.captureBase.attributes.nodup
    have ha : a ∉ Entries.names after := by
      rw [Entries.names, List.map_append] at hn
      exact (List.nodup_cons.mp hn.of_append_right).1
    rw [dataReport_object, recordFindings_eq, hb, segments_append_cons, hs before (Entries.not_mem_of_nodup_append hn),
      hs after ha]

lemma reads_ages {v : String} (h : agesBundle.Reads a v) : a = "code" ∧ v = "age" := by
  obtain ⟨c, hf, hv⟩ := h
  obtain ⟨o, ho, dependencies, text, hg, hp⟩ := hf.exists_mem
  obtain ⟨rfl, rfl⟩ := conditionText_ages ho ⟨dependencies, hg⟩
  have hn : (Condition.parse "$\x7bage\x7d >= 18").toOption.map Condition.variableNames =
      some ["age"] := by decide +kernel
  rw [hp] at hn
  have hn : c.variableNames = ["age"] := Option.some.inj hn
  exact ⟨rfl, List.mem_singleton.mp (hn ▸ hv)⟩

theorem dataReport_local_ages :
    agesBundle.dataReport true (.object [("age", .bool true)]) =
        agesBundle.dataReport true (.object [("name", .null), ("code", .null),
          ("age", .bool true)]) ∧
      (agesBundle.dataReport true (.object [("code", .string "D")])).findings =
        [.missingAttribute "age"] ++
          agesBundle.attributeFindings true (Json.record [("code", .string "D")]) "code"
            (.array (.primitive .text)) := by
  obtain ⟨-, -, hu, hs, -⟩ := dataReport_local agesBundle true
  refine ⟨hu _ _ fun a ha => ?_, ?_⟩
  · have hd : a ∈ ["age", "code"] := Entries.contains_iff.mp ha
    refine ⟨?_, fun v hv => ?_⟩
    · rcases List.mem_pair.mp hd with rfl | rfl <;> decide +kernel
    · rw [(reads_ages hv).2]
      decide +kernel
  · refine (hs [] [("code", .string "D")] "code" (fun v hv => ?_) (fun n hn hr => ?_)
      [("age", .primitive .numeric)] _ [] rfl).trans ?_
    · change none = Entries.get? [("code", Json.string "D")] v
      rw [Entries.get?_cons, if_neg hv.symm, Entries.get?_nil]
    · exact hn (reads_ages hr).1
    · have ha : agesBundle.segments true (Json.record []) [("age", .primitive .numeric)] =
          [.missingAttribute "age"] := by decide +kernel
      rw [ha]
      exact List.append_nil _

end Bundle

end LayeredSchema

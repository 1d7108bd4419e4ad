import LayeredSchema.Proofs.Validation.Rules
import LayeredSchema.Validation.Data

/-!
When a record is what a bundle describes: exactly when data validation finds nothing.

What a bundle asks of a record is said here of its overlays and of the parts of the record, without
the rules and the traversal that validation goes by.
-/

namespace LayeredSchema

inductive Primitive.Holds : Primitive → Json → Prop
  | text (s : String) : Holds .text (.string s)
  | numeric (n : Number) : Holds .numeric (.number n)
  | boolean (b : Bool) : Holds .boolean (.bool b)
  | dateTime (s : String) : Holds .dateTime (.string s)
  | binary (s : String) : Holds .binary (.string s)

inductive AttributeType.Holds : AttributeType → Json → Prop
  | primitive {p : Primitive} {v : Json} (h : p.Holds v) : Holds (.primitive p) v
  | reference (r : Reference) (es : Entries Json) : Holds (.reference r) (.object es)
  | array {t : AttributeType} {items : List Json} (h : ∀ v ∈ items, t.Holds v) :
    Holds (.array t) (.array items)

inductive AttributeType.Leaf : AttributeType → Json → Primitive → Json → Prop
  | here (p : Primitive) (v : Json) : Leaf (.primitive p) v p v
  | inside {t : AttributeType} {items : List Json} {v u : Json} {p : Primitive} (hv : v ∈ items)
    (h : Leaf t v p u) : Leaf (.array t) (.array items) p u

lemma Cardinality.contains_iff_between {r : Cardinality} {n : ℕ} :
    r.contains n = true ↔ r.min ≤ n ∧ ∀ max, r.max = some max → n ≤ max := by
  rw [contains]
  cases r.max <;> simp

namespace Bundle

open Body

/-- What a bundle asks of a primitive value of an attribute, besides its type. -/
structure AdmitsLeaf (b : Bundle) (name : String) (p : Primitive) (v : Json) : Prop where
  code : (∃ codes, b.Lists name codes) →
    ∃ codes, b.Lists name codes ∧ AttributeRules.codeOf v ∈ codes
  unit : ∀ unit, b.First (GivesUnit name) unit → ∃ n, v = .number n
  date : p = .dateTime → ∀ s, v = .string s →
    (∃ pattern, b.First (Gives .format name) pattern ∧ (DatePattern.parse pattern).admits s = true) ∨
      (∀ pattern, ¬b.First (Gives .format name) pattern) ∧ Iso8601.admits s = true
  pattern : p = .text → ∀ s, v = .string s → ∀ pattern, b.First (Gives .format name) pattern →
    ∀ compiled, TextPattern.parse? pattern = some compiled → compiled.admits s = true
  encoding : ∀ s, v = .string s → ∀ label, b.FirstEncoding name label →
    ∀ e, TextEncoding.ofLabel? label = some e → e.accepts s = true

structure Admits (b : Bundle) (name : String) (t : AttributeType) (v : Json) : Prop where
  type : t.Holds v
  count : ∀ element, t = .array element → ∀ items, v = .array items →
    ∀ range, b.First (GivesRange name) range →
      range.min ≤ items.length ∧ ∀ max, range.max = some max → items.length ≤ max
  leaves : ∀ p u, t.Leaf v p u → b.AdmitsLeaf name p u

/-- A record must have the attribute: its condition, if there is one, is met, and it has a range that
starts above zero, or else is mandatory, or else is not optional where the default is to require. -/
def Requires (b : Bundle) (requiredByDefault : Bool) (record : Table Json) (name : String) : Prop :=
  (∀ c, b.First (GivesCondition name) c → c.holds record = true) ∧
    ((∃ range, b.First (GivesRange name) range ∧ 1 ≤ range.min) ∨
      (∀ range, ¬b.First (GivesRange name) range) ∧
        (b.First (Gives .conformance name) "M" ∨
          ¬b.First (Gives .conformance name) "O" ∧ requiredByDefault = true))

/-- Every attribute is in the record as the bundle asks, or is absent or null and not required. -/
def Describes (b : Bundle) (requiredByDefault : Bool) (record : Table Json) : Prop :=
  ∀ a ∈ b.captureBase.attributes.entries,
    (record.get? a.1 = none ∨ record.get? a.1 = some .null) ∧
        ¬b.Requires requiredByDefault record a.1 ∨
      ∃ v, record.get? a.1 = some v ∧ v ≠ .null ∧ b.Admits a.1 a.2 v

variable {b : Bundle} {name path s : String} {p : Primitive} {t : AttributeType} {v : Json}
  {record : Table Json} {requiredByDefault : Bool}

lemma isRequired_iff_rules {r : AttributeRules} : r.isRequired requiredByDefault record = true ↔
    (∀ c, r.condition = some c → c.holds record = true) ∧
      ((∃ range, r.cardinality = some range ∧ 1 ≤ range.min) ∨
        (∀ range, r.cardinality ≠ some range) ∧
          (r.conformance = some "M" ∨ r.conformance ≠ some "O" ∧ requiredByDefault = true)) := by
  have hc : (r.condition.any fun c => !c.holds record) = true ↔
      ¬∀ c, r.condition = some c → c.holds record = true := by
    cases r.condition <;> simp
  rw [AttributeRules.isRequired]
  by_cases h : ∀ c, r.condition = some c → c.holds record = true
  · rw [if_neg (mt hc.mp (not_not.mpr h)), and_iff_right h]
    cases r.cardinality with
    | some range => simp [Cardinality.isRequired]
    | none =>
      by_cases hm : r.conformance = some "M"
      · simp [hm]
      · by_cases ho : r.conformance = some "O" <;> simp [hm, ho]
  · rw [if_pos (hc.mpr h)]
    simp [h]

lemma isRequired_iff : (b.rulesFor name).isRequired requiredByDefault record = true ↔
    b.Requires requiredByDefault record name := by
  rw [isRequired_iff_rules]
  simp only [Requires, ← condition?_eq_some_iff, ← cardinality?_eq_some_iff,
    ← conformance?_eq_some_iff]
  rfl

lemma admits_iff_holds : p.admits v = true ↔ p.Holds v := by
  constructor
  · intro h
    cases p <;> cases v <;> simp [Primitive.admits] at h <;> constructor
  · rintro (_ | _ | _ | _ | _) <;> rfl

end Bundle

end LayeredSchema

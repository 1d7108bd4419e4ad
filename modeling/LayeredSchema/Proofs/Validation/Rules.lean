import LayeredSchema.Proofs.Outcome
import LayeredSchema.Proofs.Table
import LayeredSchema.Validation.Rules

/-!
What the overlays of a bundle give for an attribute: the rules for it are what the first overlay
gives that gives something of the kind, and the entry codes those that any overlay lists.
-/

namespace LayeredSchema

namespace Body

variable {α : Type}

/-- The body is of a kind that holds a table, and has a value for the name in it. -/
def Gives (kind : Table α → Body) (name : String) (body : Body) (a : α) : Prop :=
  ∃ t, body = kind t ∧ t.get? name = some a

def GivesRange (name : String) (body : Body) (range : Cardinality) : Prop :=
  ∃ text, Gives .cardinality name body text ∧ Cardinality.parse text = .ok range

def GivesCondition (name : String) (body : Body) (condition : Condition) : Prop :=
  ∃ dependencies text, Gives (.conditional · dependencies) name body text ∧
    Condition.parse text = .ok condition

def GivesUnit (name : String) (body : Body) (unit : String) : Prop :=
  ∃ system, Gives (.unit system) name body unit

def GivesEncoding (name : String) (body : Body) (label : String) : Prop :=
  ∃ general, Gives (.characterEncoding general) name body label

def GivesGeneralEncoding (body : Body) (label : String) : Prop :=
  ∃ encodings, body = .characterEncoding (some label) encodings

end Body

namespace Bundle

open Body

variable {α : Type} {b : Bundle} {name : String}

/-- The first overlay that gives something gives this. -/
def First (b : Bundle) (gives : Body → α → Prop) (a : α) : Prop :=
  ∃ before o after, b.overlays = before ++ o :: after ∧ gives o.body a ∧
    ∀ p ∈ before, ∀ a', ¬gives p.body a'

def FirstEncoding (b : Bundle) (name label : String) : Prop :=
  b.First (GivesEncoding name) label ∨
    (∀ l, ¬b.First (GivesEncoding name) l) ∧ b.First GivesGeneralEncoding label

def Lists (b : Bundle) (name : String) (codes : List String) : Prop :=
  ∃ o ∈ b.overlays, Gives .entryCode name o.body codes

lemma firstOf_eq_some_iff {f : Body → Option α} {gives : Body → α → Prop}
    (h : ∀ body a, f body = some a ↔ gives body a) {a : α} :
    b.firstOf f = some a ↔ b.First gives a := by
  have hn (body : Body) : f body = none ↔ ∀ a, ¬gives body a := by
    simp only [Option.eq_none_iff_forall_ne_some, ne_eq, h]
  simp only [firstOf, List.findSome?_eq_some_iff, First, h, hn]

lemma cardinality?_eq_some_iff {range : Cardinality} :
    b.cardinality? name = some range ↔ b.First (GivesRange name) range := by
  have hp (text : String) (r : Cardinality) :
      Cardinality.parse? text = some r ↔ Cardinality.parse text = .ok r := by
    rw [Cardinality.parse]
    cases Cardinality.parse? text <;> simp
  refine firstOf_eq_some_iff fun body r => ?_
  cases body <;> simp [GivesRange, Gives, Option.bind_eq_some_iff, hp]

lemma conformance?_eq_some_iff {level : String} :
    b.conformance? name = some level ↔ b.First (Gives .conformance name) level := by
  refine firstOf_eq_some_iff fun body l => ?_
  cases body <;> simp [Gives]

lemma condition?_eq_some_iff {condition : Condition} :
    b.condition? name = some condition ↔ b.First (GivesCondition name) condition := by
  refine firstOf_eq_some_iff fun body c => ?_
  cases body <;>
    simp [GivesCondition, Gives, Option.bind_eq_some_iff, Outcome.toOption_eq_some_iff]

lemma format?_eq_some_iff {pattern : String} :
    b.format? name = some pattern ↔ b.First (Gives .format name) pattern := by
  refine firstOf_eq_some_iff fun body p => ?_
  cases body <;> simp [Gives]

lemma unit?_eq_some_iff {unit : String} :
    b.unit? name = some unit ↔ b.First (GivesUnit name) unit := by
  refine firstOf_eq_some_iff fun body u => ?_
  cases body <;> simp [GivesUnit, Gives]

lemma mem_filterMap_codesOf {codes : List String} :
    codes ∈ b.overlays.filterMap (fun o => codesOf name o.body) ↔ b.Lists name codes := by
  have hc (body : Body) : codesOf name body = some codes ↔ Gives .entryCode name body codes := by
    cases body <;> simp [codesOf, Gives]
  simp only [List.mem_filterMap, hc, Lists]

lemma entryCodes?_eq_none_iff : b.entryCodes? name = none ↔ ∀ codes, ¬b.Lists name codes := by
  simp only [← mem_filterMap_codesOf, ← List.eq_nil_iff_forall_not_mem, entryCodes?]
  split <;> simp_all

lemma mem_entryCodes? {codes : List String} {code : String} (h : b.entryCodes? name = some codes) :
    code ∈ codes ↔ ∃ cs, b.Lists name cs ∧ code ∈ cs := by
  rw [entryCodes?] at h
  split at h
  · contradiction
  · obtain rfl := Option.some.inj h
    simp only [List.mem_flatten, mem_filterMap_codesOf]

end Bundle

end LayeredSchema

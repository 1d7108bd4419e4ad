import LayeredSchema.Proofs.Validation.Findings
import LayeredSchema.Proofs.Validation.Integrity
import Mathlib

/-!
What a bundle without semantic findings makes of its records: all that its overlays say of ranges,
conditions, patterns, units and codes takes effect.
-/

namespace LayeredSchema

namespace Bundle

open Body

variable {α : Type} {b : Bundle} {rules : SemanticRules} {name path unit : String}
  {t : AttributeType} {v : Json} {record : Table Json} {requiredByDefault : Bool}

lemma overlaysFindings_eq_nil_iff {earlier os : List Overlay} :
    b.overlaysFindings rules earlier os = [] ↔
      ∀ (n : ℕ) (o : Overlay), os[n]? = some o →
        b.overlayFindings rules (earlier ++ os.take n) o = [] := by
  induction os generalizing earlier with
  | nil => simp [overlaysFindings]
  | cons p os ih =>
    rw [overlaysFindings, List.append_eq_nil_iff, ih]
    constructor
    · rintro ⟨hp, hs⟩ (_ | n) o ho
      · obtain rfl := Option.some.inj ho
        simpa using hp
      · simpa using hs n o ho
    · intro h
      exact ⟨by simpa using h 0 p rfl, fun n o ho => by simpa using h (n + 1) o ho⟩

lemma bodyFindings_of_semanticReport (h : (b.semanticReport rules).findings = []) :
    ∀ o ∈ b.overlays, b.bodyFindings o.body = [] := by
  intro o ho
  simp only [semanticReport, List.append_eq_nil_iff, overlaysFindings_eq_nil_iff] at h
  obtain ⟨n, hn⟩ := List.mem_iff_getElem?.mp ho
  have hf := h.1.1.1 n o hn
  simp only [overlayFindings, List.append_eq_nil_iff] at hf
  exact hf.1.2

def GivesConditionText (name : String) (body : Body) (text : String) : Prop :=
  ∃ dependencies, Gives (.conditional · dependencies) name body text

lemma first_of_kind (before : List Overlay) (kind : Kind) {gives : Body → α → Prop} {a : α}
    {o : Overlay} {after : List Overlay} (hb : b.overlays = before ++ o :: after) (hg : gives o.body a)
    (hk : ∀ body a, gives body a → body.kind = kind) (hn : ∀ p ∈ before, p.body.kind ≠ kind) :
    b.First gives a :=
  ⟨before, o, after, hb, hg, fun p hp a' h => hn p hp (hk p.body a' h)⟩

lemma first_congr {gives gives' : Body → α → Prop} (h : ∀ body a, gives body a ↔ gives' body a)
    {a : α} : b.First gives a ↔ b.First gives' a := by
  simp only [First, h]

lemma First.exists_mem {gives : Body → α → Prop} {a : α} (h : b.First gives a) :
    ∃ o ∈ b.overlays, gives o.body a := by
  obtain ⟨before, o, after, hb, hg, -⟩ := h
  exact ⟨o, hb ▸ List.mem_append_right _ List.mem_cons_self, hg⟩

lemma first_iff_of_readable {gives : Body → String → Prop} (reads : String → α → Prop)
    (hr : ∀ o ∈ b.overlays, ∀ text, gives o.body text → ∃ a, reads text a) {a : α} :
    b.First (fun body a => ∃ text, gives body text ∧ reads text a) a ↔
      ∃ text, b.First gives text ∧ reads text a := by
  constructor
  · rintro ⟨before, o, after, hb, ⟨text, hg, ha⟩, hn⟩
    refine ⟨text, ⟨before, o, after, hb, hg, fun p hp text' hg' => ?_⟩, ha⟩
    obtain ⟨a', ha'⟩ := hr p (hb ▸ List.mem_append_left _ hp) text' hg'
    exact hn p hp a' ⟨text', hg', ha'⟩
  · rintro ⟨text, ⟨before, o, after, hb, hg, hn⟩, ha⟩
    refine ⟨before, o, after, hb, ⟨text, hg, ha⟩, ?_⟩
    rintro p hp a' ⟨text', hg', -⟩
    exact hn p hp text' hg'

/-- A record must have the attribute by what the first overlays that mention it say: its condition,
if there is one, is met, and its range starts above zero, or else, without a range, it is mandatory,
or else not optional where the default is to require. -/
def Demands (b : Bundle) (requiredByDefault : Bool) (record : Table Json) (name : String) : Prop :=
  (∀ text, b.First (GivesConditionText name) text →
      ∃ c, Condition.parse text = .ok c ∧ c.holds record = true) ∧
    ((∃ text range, b.First (Gives .cardinality name) text ∧ Cardinality.parse text = .ok range ∧
        1 ≤ range.min) ∨
      (∀ text, ¬b.First (Gives .cardinality name) text) ∧
        (b.First (Gives .conformance name) "M" ∨
          ¬b.First (Gives .conformance name) "O" ∧ requiredByDefault = true))

/-- The findings on a record are those that the first overlays to mention an attribute call for, and
those on codes that no overlay lists. -/
structure Enforces (b : Bundle) (requiredByDefault : Bool) (record : Table Json)
    (findings : List DataFinding) : Prop where
  missing : ∀ name, .missingAttribute name ∈ findings ↔
    b.captureBase.hasAttribute name = true ∧ record.given? name = none ∧
      b.Demands requiredByDefault record name
  counts : ∀ name count range, .cardinalityViolation name count range ∈ findings ↔
    ∃ element items text, b.captureBase.attribute? name = some (.array element) ∧
      record.given? name = some (.array items) ∧ items.length = count ∧
        b.First (Gives .cardinality name) text ∧ Cardinality.parse text = .ok range ∧
          ¬(range.min ≤ count ∧ ∀ max, range.max = some max → count ≤ max)
  formats : ∀ path s format, .formatMismatch path s format ∈ findings ↔
    ∃ name,
      (b.LeafIn record name path .dateTime (.string s) ∧
          ((b.First (Gives .format name) format ∧ (DatePattern.parse format).admits s = false) ∨
            ((∀ pattern, ¬b.First (Gives .format name) pattern) ∧
              format = AttributeRules.defaultDateFormat ∧ Iso8601.admits s = false))) ∨
        (b.LeafIn record name path .text (.string s) ∧ b.First (Gives .format name) format ∧
          ∃ pattern, TextPattern.parse? format = some pattern ∧ pattern.admits s = false)
  codes : ∀ path code, .invalidEntryCode path code ∈ findings ↔
    ∃ name p v, b.LeafIn record name path p v ∧ AttributeRules.codeOf v = code ∧
      (∃ codes, b.Lists name codes) ∧ ∀ codes, b.Lists name codes → code ∉ codes

section Quiet

variable (h : ∀ o ∈ b.overlays, b.bodyFindings o.body = [])
include h

lemma range_of_quiet {o : Overlay} {text : String} (ho : o ∈ b.overlays)
    (hg : Gives .cardinality name o.body text) : ∃ range, Cardinality.parse text = .ok range := by
  obtain ⟨ranges, hb, hg⟩ := hg
  have hf := h o ho
  rw [hb, bodyFindings, List.map_eq_nil_iff, List.filter_eq_nil_iff] at hf
  have hn : Cardinality.parse? text ≠ none := by simpa using hf _ (Entries.mem_of_get? hg)
  obtain ⟨range, hr⟩ := Option.ne_none_iff_exists'.mp hn
  exact ⟨range, by rw [Cardinality.parse, hr]⟩

lemma condition_of_quiet {o : Overlay} {text : String} (ho : o ∈ b.overlays)
    (hg : GivesConditionText name o.body text) : ∃ c, Condition.parse text = .ok c ∧
      ∀ v ∈ c.variableNames, b.captureBase.hasAttribute v = true := by
  obtain ⟨dependencies, conditions, hb, hg⟩ := hg
  have hf := h o ho
  rw [hb, bodyFindings, List.append_eq_nil_iff, List.flatMap_eq_nil_iff] at hf
  have hc := hf.1 _ (Entries.mem_of_get? hg)
  simp only [conditionFindings] at hc
  split at hc
  · rename_i c hp
    rw [List.map_eq_nil_iff, List.filter_eq_nil_iff] at hc
    exact ⟨c, hp, fun v hv => by simpa using hc v hv⟩
  · contradiction

lemma pattern_of_quiet (ht : b.isText name = true) {o : Overlay} {text : String}
    (ho : o ∈ b.overlays) (hg : Gives .format name o.body text) :
    ∃ pattern, TextPattern.parse? text = some pattern := by
  obtain ⟨patterns, hb, hg⟩ := hg
  have hf := h o ho
  rw [hb, bodyFindings, List.map_eq_nil_iff, List.filter_eq_nil_iff] at hf
  simpa [ht, Option.ne_none_iff_exists'] using hf _ (Entries.mem_of_get? hg)

lemma first_range_iff {range : Cardinality} : b.First (GivesRange name) range ↔
    ∃ text, b.First (Gives .cardinality name) text ∧ Cardinality.parse text = .ok range :=
  first_iff_of_readable (fun text range => Cardinality.parse text = .ok range)
    fun _ ho _ hg => range_of_quiet h ho hg

lemma first_condition_iff {c : Condition} : b.First (GivesCondition name) c ↔
    ∃ text, b.First (GivesConditionText name) text ∧ Condition.parse text = .ok c := by
  refine (first_congr fun body c => ?_).trans
    (first_iff_of_readable (fun text c => Condition.parse text = .ok c)
      fun o ho text hg => ?_)
  · simp only [GivesCondition, GivesConditionText, ← exists_and_right]
    exact exists_comm
  · obtain ⟨c, hc, -⟩ := condition_of_quiet h ho hg
    exact ⟨c, hc⟩

lemma requires_iff_demands : b.Requires requiredByDefault record name ↔
    b.Demands requiredByDefault record name := by
  have hc : (∀ c, b.First (GivesCondition name) c → c.holds record = true) ↔
      ∀ text, b.First (GivesConditionText name) text →
        ∃ c, Condition.parse text = .ok c ∧ c.holds record = true := by
    simp only [first_condition_iff h]
    constructor
    · intro ha text ht
      obtain ⟨o, ho, hg⟩ := ht.exists_mem
      obtain ⟨c, hp, -⟩ := condition_of_quiet h ho hg
      exact ⟨c, hp, ha c ⟨text, ht, hp⟩⟩
    · rintro ha c ⟨text, ht, hp⟩
      obtain ⟨c', hp', hh⟩ := ha text ht
      obtain rfl := Except.ok.inj (hp'.symm.trans hp)
      exact hh
  have hr : (∃ range, b.First (GivesRange name) range ∧ 1 ≤ range.min) ↔
      ∃ text range, b.First (Gives .cardinality name) text ∧ Cardinality.parse text = .ok range ∧
        1 ≤ range.min := by
    simp only [first_range_iff h, ← exists_and_right, and_assoc]
    exact exists_comm
  have hn : (∀ range, ¬b.First (GivesRange name) range) ↔
      ∀ text, ¬b.First (Gives .cardinality name) text := by
    simp only [first_range_iff h, not_exists, not_and]
    constructor
    · intro ha text ht
      obtain ⟨o, ho, hg⟩ := ht.exists_mem
      obtain ⟨range, hp⟩ := range_of_quiet h ho hg
      exact ha range text ht hp
    · exact fun ha range text ht => absurd ht (ha text)
  rw [Requires, Demands, hc, hr, hn]

lemma enforces_of_quiet_bodies (requiredByDefault : Bool) (es : Entries Json) :
    b.Enforces requiredByDefault (Json.record es)
      (b.dataReport requiredByDefault (.object es)).findings where
  missing name := by rw [missingAttribute_mem_iff, requires_iff_demands h]
  counts name count range := by
    simp only [cardinalityViolation_mem_iff, first_range_iff h, ← Bool.not_eq_true,
      Cardinality.contains_iff_between]
    constructor
    · rintro ⟨element, items, ht, hg, hl, ⟨text, hf, hp⟩, hc⟩
      exact ⟨element, items, text, ht, hg, hl, hf, hp, hc⟩
    · rintro ⟨element, items, text, ht, hg, hl, hf, hp, hc⟩
      exact ⟨element, items, ht, hg, hl, ⟨text, hf, hp⟩, hc⟩
  formats path s format := formatMismatch_mem_iff
  codes path code := invalidEntryCode_mem_iff

lemma numeric_of_unit (ht : b.captureBase.attribute? name = some t)
    (hu : b.First (GivesUnit name) unit) : t.isOf .numeric = true := by
  obtain ⟨o, ho, system, units, hbody, hg⟩ := hu.exists_mem
  have hf := h o ho
  rw [hbody, bodyFindings, List.flatMap_eq_nil_iff] at hf
  have hn := hf _ (Entries.mem_of_get? hg)
  simpa [unitFindings, ht] using hn

lemma nonNumericUnit_not_mem {data : Json} :
    .nonNumericUnit path unit ∉ (b.dataReport requiredByDefault data).findings := by
  cases data with
  | object es =>
    rw [nonNumericUnit_mem_iff]
    rintro ⟨name, p, v, ⟨t, value, ht, -, hl⟩, hu, hv⟩
    have hi : t.innermost = .primitive .numeric := by
      simpa [AttributeType.isOf] using numeric_of_unit h ht hu
    obtain rfl := AttributeType.primitive.inj (hl.innermost.symm.trans hi)
    exact hv hl.holds
  | _ => simp [dataReport, Json.normal]

lemma lists_of_label {o : Overlay} {texts : Table String} {code : String}
    (ho : o ∈ b.overlays) (hg : Gives .entry name o.body texts) (hc : code ∈ texts.names) :
    ∃ codes, b.Lists name codes ∧ code ∈ codes := by
  obtain ⟨entries, hb, hg⟩ := hg
  have hf := h o ho
  rw [hb, bodyFindings, List.flatMap_eq_nil_iff] at hf
  have he := hf _ (Entries.mem_of_get? hg)
  simp only [entryFindings, List.map_eq_nil_iff, List.filter_eq_nil_iff] at he
  have hm : code ∈ (b.entryCodes? name).getD [] := by simpa using he code hc
  cases h : b.entryCodes? name with
  | none => simp [h] at hm
  | some codes => exact (mem_entryCodes? h).mp (by simpa [h] using hm)

lemma declared_of_reads {v : String} (hv : b.Reads name v) :
    b.captureBase.hasAttribute v = true := by
  obtain ⟨c, hc, hv⟩ := hv
  obtain ⟨text, ht, hp⟩ := (first_condition_iff h).mp hc
  obtain ⟨o, ho, hg⟩ := ht.exists_mem
  obtain ⟨c', hp', hd⟩ := condition_of_quiet h ho hg
  obtain rfl := Except.ok.inj (hp'.symm.trans hp)
  exact hd v hv

end Quiet

/-- In a bundle without semantic findings all texts of ranges, conditions and patterns can be read,
and validation of records goes by them: its findings are those that the first overlays to mention an
attribute call for. No unit is asked of a value that cannot have one, all labelled codes are listed,
and conditions, like the report as a whole, depend on declared attributes alone. -/
theorem enforces_of_quiet (h : (b.semanticReport rules).findings = []) :
    (∀ o ∈ b.overlays, ∀ name text,
        (Gives .cardinality name o.body text → ∃ range, Cardinality.parse text = .ok range) ∧
        (GivesConditionText name o.body text → ∃ c, Condition.parse text = .ok c) ∧
        (b.isText name = true → Gives .format name o.body text →
          ∃ pattern, TextPattern.parse? text = some pattern)) ∧
      (∀ requiredByDefault es, b.Enforces requiredByDefault (Json.record es)
        (b.dataReport requiredByDefault (.object es)).findings) ∧
      (∀ requiredByDefault data path unit,
        .nonNumericUnit path unit ∉ (b.dataReport requiredByDefault data).findings) ∧
      (∀ o ∈ b.overlays, ∀ name texts, Gives .entry name o.body texts → ∀ code ∈ texts.names,
        ∃ codes, b.Lists name codes ∧ code ∈ codes) ∧
      (∀ o ∈ b.overlays, ∀ name text c, GivesConditionText name o.body text →
        Condition.parse text = .ok c →
          (∀ v ∈ c.variableNames, b.captureBase.hasAttribute v = true) ∧
          ∀ record record' : Table Json,
            (∀ a, b.captureBase.hasAttribute a = true → record.get? a = record'.get? a) →
              c.holds record = c.holds record') ∧
      ∀ requiredByDefault es es', (∀ a, b.captureBase.hasAttribute a = true →
          (Json.record es).get? a = (Json.record es').get? a) →
        b.dataReport requiredByDefault (.object es) =
          b.dataReport requiredByDefault (.object es') := by
  have hq := bodyFindings_of_semanticReport h
  refine ⟨fun o ho name text => ⟨range_of_quiet hq ho, fun hg => ?_,
      fun ht => pattern_of_quiet hq ht ho⟩, enforces_of_quiet_bodies hq,
    fun _ _ _ _ => nonNumericUnit_not_mem hq,
    fun o ho name texts hg code hc => lists_of_label hq ho hg hc, ?_, fun d es es' hr => ?_⟩
  · obtain ⟨c, hc, -⟩ := condition_of_quiet hq ho hg
    exact ⟨c, hc⟩
  · intro o ho name text c hg hc
    obtain ⟨c', hc', hv⟩ := condition_of_quiet hq ho hg
    obtain rfl := Except.ok.inj (hc'.symm.trans hc)
    exact ⟨hv, fun record record' hr => Condition.holds_congr fun v hm => hr v (hv v hm)⟩
  · exact dataReport_congr_record fun a ha => ⟨Table.given?_congr (hr a ha),
      fun v hv => hr v (declared_of_reads hq hv)⟩

def agesPattern : Body := .format (.ofList [("code", "[A-C]")])

def agesBundle : Bundle :=
  .make none (CaptureBase.Draft.build
      { attributes := .ofList [("age", .primitive .numeric), ("code", .array (.primitive .text))] })
    [.make none (.cardinality (.ofList [("code", "1..*"), ("age", "1")])),
      .make none (.cardinality (.ofList [("age", "0..1")])),
      .make none (.conditional (.ofList [("code", "$\x7bage\x7d >= 18")]) ∅),
      .make none (.unit none (.ofList [("age", "year")])),
      .make none (.entryCode (.ofList [("code", ["A", "B"])])),
      .make none (.entryCode (.ofList [("code", ["C"])])),
      .make (some "en") (.entry (.ofList [("code", .ofList [("C", "third")])])),
      .make none agesPattern]

lemma pattern_ages : ∃ pattern, TextPattern.parse? "[A-C]" = some pattern ∧
    pattern.admits "Z" = false := by
  have hp : (TextPattern.parse? "[A-C]").map (·.admits "Z") = some false := by cbv
  exact Option.map_eq_some_iff.mp hp

lemma quiet_ages : (agesBundle.semanticReport {}).findings = [] := by
  have ha : agesBundle.IsAddressed :=
    isAddressed_make none rfl (by simp [Overlay.make, Overlay.computedDigest])
  have hf : agesBundle.bodyFindings agesPattern = [] := by
    obtain ⟨pattern, hp, -⟩ := pattern_ages
    simp [bodyFindings, agesPattern, hp, Table.ofList, Entries.ofList, Entries.insert]
  have hb : ∀ o ∈ agesBundle.overlays,
      o.body = agesPattern ∨ agesBundle.bodyFindings o.body = [] := by decide +kernel
  have hl : ∀ n < 8, ∀ o ∈ agesBundle.overlays[n]?, agesBundle.unknownReferences o = [] ∧
      languageFindings {} (agesBundle.overlays.take n) o = [] := by decide +kernel
  simp only [semanticReport, List.append_eq_nil_iff, overlaysFindings_eq_nil_iff]
  refine ⟨⟨⟨fun n o ho => ?_, by decide +kernel⟩, if_pos ha.captureBase⟩, if_pos ha.bundle⟩
  have hm := List.mem_of_getElem? ho
  obtain ⟨hr, hg⟩ := hl n (List.getElem?_eq_some_iff.mp ho).1 o ho
  have hi : agesBundle.integrityFindings o = [] := by
    rw [integrityFindings, if_pos (ha.binding o hm), digestFindings, if_pos (ha.overlays o hm)]
    rfl
  rw [overlayFindings, List.nil_append, hr, hg, hi]
  rcases hb o hm with hb | hb
  · rw [hb, hf]
    rfl
  · rw [hb]
    rfl

lemma conditionText_ages {o : Overlay} {text : String} (ho : o ∈ agesBundle.overlays)
    (hg : GivesConditionText name o.body text) :
    name = "code" ∧ text = "$\x7bage\x7d >= 18" := by
  have hb : ∀ o ∈ agesBundle.overlays, o.body.kind = .conditional →
      o.body = .conditional (.ofList [("code", "$\x7bage\x7d >= 18")]) ∅ := by decide +kernel
  obtain ⟨_, conditions, hc, hg⟩ := hg
  obtain ⟨rfl, -⟩ := Body.conditional.inj (hc.symm.trans (hb o ho (by rw [hc]; rfl)))
  exact Prod.mk.inj (List.mem_singleton.mp (Entries.mem_of_get? hg))

lemma condition_ages : ∃ c, Condition.parse "$\x7bage\x7d >= 18" = .ok c ∧
    c.holds (Json.record [("age", .number (.natural 20 (by decide)))]) = true ∧
    c.holds (Json.record [("age", .number (.natural 7 (by decide)))]) = false := by
  have hc : (Condition.parse "$\x7bage\x7d >= 18").toOption.map (fun c =>
      (c.holds (Json.record [("age", .number (.natural 20 (by decide)))]),
        c.holds (Json.record [("age", .number (.natural 7 (by decide)))]))) =
      some (true, false) := by
    decide +kernel
  obtain ⟨c, hp, hh⟩ := Option.map_eq_some_iff.mp hc
  exact ⟨c, Outcome.toOption_eq_some_iff.mp hp, Prod.mk.inj hh⟩

lemma lists_ages {codes : List String} (h : agesBundle.Lists "code" codes) :
    codes = ["A", "B"] ∨ codes = ["C"] := by
  have hl : agesBundle.overlays.filterMap (fun o => codesOf "code" o.body) = [["A", "B"], ["C"]] :=
    rfl
  simpa [hl] using mem_filterMap_codesOf.mpr h

def codesRecord : Entries Json := [("code", .array [.string "C", .string "Z"])]

theorem enforces_of_quiet_ages :
    (agesBundle.semanticReport {}).findings = [] ∧
      .missingAttribute "age" ∈ (agesBundle.dataReport false (.object [])).findings ∧
      .missingAttribute "code" ∈
        (agesBundle.dataReport true (.object [("age", .number (.natural 20 (by decide)))])).findings ∧
      .missingAttribute "code" ∉
        (agesBundle.dataReport true (.object [("age", .number (.natural 7 (by decide)))])).findings ∧
      .cardinalityViolation "code" 0 ⟨1, none⟩ ∈
        (agesBundle.dataReport true (.object [("code", .array [])])).findings ∧
      .formatMismatch "code[1]" "Z" "[A-C]" ∈
        (agesBundle.dataReport true (.object codesRecord)).findings ∧
      .invalidEntryCode "code[1]" "Z" ∈
        (agesBundle.dataReport true (.object codesRecord)).findings ∧
      (∀ path, .invalidEntryCode path "C" ∉
        (agesBundle.dataReport true (.object codesRecord)).findings) ∧
      ∀ data path unit, .nonNumericUnit path unit ∉ (agesBundle.dataReport true data).findings := by
  obtain ⟨-, he, hu, hc, -⟩ := enforces_of_quiet quiet_ages
  have hage : agesBundle.First (Gives .cardinality "age") "1" :=
    ⟨[], _, _, rfl, ⟨_, rfl, rfl⟩, nofun⟩
  have hcode : agesBundle.First (Gives .cardinality "code") "1..*" :=
    ⟨[], _, _, rfl, ⟨_, rfl, rfl⟩, nofun⟩
  have hrange : Cardinality.parse "1..*" = .ok ⟨1, none⟩ := by decide +kernel
  have hcondition : agesBundle.First (GivesConditionText "code") "$\x7bage\x7d >= 18" := by
    refine first_of_kind (agesBundle.overlays.take 2) .conditional rfl
      ⟨_, _, rfl, rfl⟩ ?_ (by decide +kernel)
    rintro _ _ ⟨_, _, rfl, -⟩
    rfl
  have hformat : agesBundle.First (Gives .format "code") "[A-C]" := by
    refine first_of_kind (agesBundle.overlays.take 7) .format rfl
      ⟨_, rfl, rfl⟩ ?_ (by decide +kernel)
    rintro _ _ ⟨_, rfl, -⟩
    rfl
  have hz : agesBundle.LeafIn (Json.record codesRecord) "code" "code[1]" .text (.string "Z") :=
    ⟨_, _, rfl, rfl, .inside (i := 1) rfl (.here (.text "Z"))⟩
  obtain ⟨c, hp, hadult, hminor⟩ := condition_ages
  refine ⟨quiet_ages, (he false []).missing "age" |>.mpr ⟨rfl, rfl, fun text ht => ?_,
      .inl ⟨_, ⟨1, some 1⟩, hage, by decide +kernel, le_rfl⟩⟩,
    (he true _).missing "code" |>.mpr ⟨rfl, rfl, fun text ht => ?_,
      .inl ⟨_, _, hcode, hrange, le_rfl⟩⟩, fun hm => ?_,
    (he true _).counts _ _ _ |>.mpr ⟨_, [], _, rfl, rfl, rfl, hcode, hrange, by simp⟩,
    (he true _).formats _ _ _ |>.mpr ⟨_, .inr ⟨hz, hformat, pattern_ages⟩⟩,
    (he true _).codes _ _ |>.mpr ⟨_, _, _, hz, rfl, ?_, fun codes hl => ?_⟩, fun path hm => ?_,
    hu true⟩
  · obtain ⟨o, ho, hg⟩ := ht.exists_mem
    exact absurd (conditionText_ages ho hg).1 (by decide)
  · obtain ⟨o, ho, hg⟩ := ht.exists_mem
    obtain ⟨-, rfl⟩ := conditionText_ages ho hg
    exact ⟨c, hp, hadult⟩
  · obtain ⟨-, -, hd, -⟩ := ((he true _).missing "code").mp hm
    obtain ⟨c', hp', hh⟩ := hd _ hcondition
    obtain rfl := Except.ok.inj (hp'.symm.trans hp)
    exact absurd (hh.symm.trans hminor) nofun
  · exact ⟨["A", "B"], _, List.mem_of_getElem? (i := 4) rfl, _, rfl, rfl⟩
  · rcases lists_ages hl with rfl | rfl <;> decide
  · obtain ⟨name, p, v, ⟨t, value, -, hg, -⟩, -, -, hn⟩ := ((he true _).codes path "C").mp hm
    have hr : (name, value) ∈ codesRecord :=
      Entries.mem_of_get? (Option.filter_eq_some_iff.mp hg).1
    obtain ⟨rfl, -⟩ := Prod.mk.inj (List.mem_singleton.mp hr)
    obtain ⟨codes, hl, hmem⟩ :=
      hc _ (List.mem_of_getElem? (i := 6) rfl) "code" _ ⟨_, rfl, rfl⟩ "C" (by decide)
    exact hn codes hl hmem

end Bundle

end LayeredSchema

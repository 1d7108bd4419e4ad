import LayeredSchema.Proofs.Validation.Locality
import LayeredSchema.Proofs.Validation.Order

/-!
What is found on a record depends on the overlays of each kind in their order, and on how these lie
among each other not at all. Lists of entry codes are joined, so not even their own order counts.
-/

namespace LayeredSchema

namespace AttributeRules

variable {r : AttributeRules} {codes : Option (List String)} {path : String} {p : Primitive}
  {t : AttributeType} {v : Json}

def withCodes (r : AttributeRules) (codes : Option (List String)) : AttributeRules :=
  { r with entryCodes := codes }

lemma codeFindings_withCodes (h : Option.Rel List.Perm codes r.entryCodes) :
    (r.withCodes codes).codeFindings path v = r.codeFindings path v := by
  unfold codeFindings
  rw [withCodes]
  generalize r.entryCodes = codes' at h
  cases h with
  | none => rfl
  | some h => simp only [List.contains_eq_mem, h.mem_iff]

lemma leafFindings_withCodes (h : Option.Rel List.Perm codes r.entryCodes) :
    (r.withCodes codes).leafFindings p path v = r.leafFindings p path v := by
  unfold leafFindings
  rw [codeFindings_withCodes h]
  rfl

lemma valueFindings_withCodes (h : Option.Rel List.Perm codes r.entryCodes) :
    (r.withCodes codes).valueFindings path t v = r.valueFindings path t v := by
  induction t generalizing path v with
  | primitive p => rw [valueFindings, valueFindings, leafFindings_withCodes h]
  | reference ref => cases v <;> rfl
  | array t ih =>
    cases v with
    | array items => simp only [valueFindings, ih]
    | _ => rfl

end AttributeRules

namespace Bundle

variable {α : Type} {b b' : Bundle} {name : String} {f : Body → Option α} {k : Kind}

lemma firstOf_eq (hf : ∀ body : Body, body.kind ≠ k → f body = none) :
    b.firstOf f = (b.overlaysOf k).findSome? fun o => f o.body := by
  rw [firstOf, overlaysOf]
  induction b.overlays with
  | nil => rfl
  | cons o os ih =>
    rw [List.findSome?_cons, List.filter_cons]
    by_cases hk : o.kind = k
    · rw [if_pos (beq_iff_eq.mpr hk), List.findSome?_cons, ih]
    · rw [if_neg (by simpa using hk), hf o.body hk, ih]

section Reordered

variable (hk : ∀ k : Kind, k ≠ .entryCode → b.overlaysOf k = b'.overlaysOf k)
include hk

lemma firstOf_reordered (hn : k ≠ .entryCode) (hf : ∀ body : Body, body.kind ≠ k → f body = none) :
    b.firstOf f = b'.firstOf f := by
  rw [firstOf_eq hf, firstOf_eq hf, hk k hn]

lemma rulesFor_reordered (hc : b.captureBase = b'.captureBase) (name : String) :
    b.rulesFor name = (b'.rulesFor name).withCodes (b.entryCodes? name) := by
  have hcardinality : b.cardinality? name = b'.cardinality? name :=
    firstOf_reordered hk (k := .cardinality) nofun fun body h => by cases body <;> trivial
  have hconformance : b.conformance? name = b'.conformance? name :=
    firstOf_reordered hk (k := .conformance) nofun fun body h => by cases body <;> trivial
  have hcondition : b.condition? name = b'.condition? name :=
    firstOf_reordered hk (k := .conditional) nofun fun body h => by cases body <;> trivial
  have hformat : b.format? name = b'.format? name :=
    firstOf_reordered hk (k := .format) nofun fun body h => by cases body <;> trivial
  have hunit : b.unit? name = b'.unit? name :=
    firstOf_reordered hk (k := .unit) nofun fun body h => by cases body <;> trivial
  have hencoding : b.encoding? name = b'.encoding? name := by
    have hk := fun {f : Body → Option String} =>
      firstOf_reordered (f := f) hk (k := .characterEncoding) nofun
    exact congrArg₂ Option.or (hk fun body h => by cases body <;> trivial)
      (hk fun body h => by cases body <;> trivial)
  have hpattern : b.textPattern? name = b'.textPattern? name := by
    rw [textPattern?, textPattern?, isText, isText, hc, hformat]
  simp only [rulesFor, AttributeRules.withCodes, hcardinality, hconformance, hcondition, hformat,
    hunit, hencoding, hpattern]

end Reordered

lemma entryCodes?_perm (h : b.overlays.Perm b'.overlays) (name : String) :
    Option.Rel List.Perm (b.entryCodes? name) (b'.entryCodes? name) := by
  have hl := h.filterMap fun o => codesOf name o.body
  rw [entryCodes?, entryCodes?]
  generalize b.overlays.filterMap _ = ls at hl
  generalize b'.overlays.filterMap _ = ls' at hl
  cases ls with
  | nil =>
    rw [List.nil_perm.mp hl]
    exact .none
  | cons codes ls =>
    cases ls' with
    | nil => exact absurd (List.perm_nil.mp hl) (List.cons_ne_nil codes ls)
    | cons codes' ls' => exact .some hl.flatten

section Report

variable (hc : b.captureBase = b'.captureBase) (h : b.overlays.Perm b'.overlays)
  (hk : ∀ k : Kind, k ≠ .entryCode → b.overlaysOf k = b'.overlaysOf k)
include hc h hk

lemma attributeFindings_reordered (requiredByDefault : Bool) (record : Table Json) (name : String)
    (t : AttributeType) : b.attributeFindings requiredByDefault record name t =
      b'.attributeFindings requiredByDefault record name t := by
  rw [attributeFindings_eq, attributeFindings_eq, rulesFor_reordered hk hc]
  cases record.given? name with
  | none => rfl
  | some v => exact congrArg _ (AttributeRules.valueFindings_withCodes (entryCodes?_perm h name))

lemma dataReport_congr (requiredByDefault : Bool) (data : Json) :
    b.dataReport requiredByDefault data = b'.dataReport requiredByDefault data := by
  unfold dataReport recordFindings
  simp only [attributeFindings_reordered hc h hk, hc]

end Report

lemma overlaysOf_make (name : Option String) (c : CaptureBase) (os : List Overlay) (k : Kind) :
    (make name c os).overlaysOf k = (os.filter (·.kind == k)).map (·.bind c.digest) :=
  List.filter_map

/-- Overlays that keep their order among those of their kind can change places in a bundle, and lists
of entry codes without regard to any order: what is found on a record is the same. -/
theorem dataReport_reordered (name : Option String) (c : CaptureBase) {os ps : List Overlay}
    (h : os.Perm ps)
    (hk : ∀ k : Kind, k ≠ .entryCode → os.filter (·.kind == k) = ps.filter (·.kind == k))
    (requiredByDefault : Bool) (data : Json) :
    (make name c os).dataReport requiredByDefault data =
      (make name c ps).dataReport requiredByDefault data := by
  have ho : (make name c os).overlays.Perm (make name c ps).overlays := h.map _
  have hk' (k : Kind) (hn : k ≠ .entryCode) :
      (make name c os).overlaysOf k = (make name c ps).overlaysOf k := by
    rw [overlaysOf_make, overlaysOf_make, hk k hn]
  have hc (os : List Overlay) : (make name c os).captureBase = c := rfl
  exact dataReport_congr ((hc os).trans (hc ps).symm) ho hk' requiredByDefault data

def sizedOverlays : List Overlay :=
  [.make none (.entryCode (.ofList [("size", ["S"])])),
    .make none (.entryCode (.ofList [("size", ["L"])])),
    .make none (.unit none (.ofList [("size", "cm")])),
    .make none (.conformance (.ofList [("size", "M")])),
    .make none (.unit none (.ofList [("size", "inch")]))]

def sizedOverlaysReordered : List Overlay :=
  [.make none (.entryCode (.ofList [("size", ["L"])])),
    .make none (.entryCode (.ofList [("size", ["S"])])),
    .make none (.conformance (.ofList [("size", "M")])),
    .make none (.unit none (.ofList [("size", "cm")])),
    .make none (.unit none (.ofList [("size", "inch")]))]

def sizeBase : CaptureBase := (CaptureBase.Draft.declare {} "size" (.primitive .text)).build

theorem dataReport_reordered_sized :
    sizedOverlays.Perm sizedOverlaysReordered ∧
      (∀ k : Kind, k ≠ .entryCode →
        sizedOverlays.filter (·.kind == k) = sizedOverlaysReordered.filter (·.kind == k)) ∧
      (make none sizeBase sizedOverlays).dataReport true (.object [("size", .string "M")]) =
        (make none sizeBase sizedOverlaysReordered).dataReport true
          (.object [("size", .string "M")]) ∧
      ((make none sizeBase sizedOverlays).dataReport true (.object [("size", .string "M")])).findings =
        [.invalidEntryCode "size" "M", .nonNumericUnit "size" "cm"] := by
  have hp : sizedOverlays.Perm sizedOverlaysReordered :=
    (List.Perm.swap _ _ _).trans (.cons _ (.cons _ (.swap _ _ _)))
  have hk (k : Kind) (hn : k ≠ .entryCode) :
      sizedOverlays.filter (·.kind == k) = sizedOverlaysReordered.filter (·.kind == k) := by
    cases k with
    | entryCode => exact absurd rfl hn
    | _ => simp [sizedOverlays, sizedOverlaysReordered, Overlay.kind, Overlay.make, Body.kind]
  exact ⟨hp, hk, dataReport_reordered none sizeBase hp hk true _, by decide +kernel⟩

end Bundle

end LayeredSchema

import LayeredSchema.Proofs.Canonical.Item
import LayeredSchema.Validation.Semantic

/-!
Which findings concern addresses: a bundle is free of them when its parts are bound together and have
the addresses of their contents, whatever else is found.
-/

namespace LayeredSchema

def SemanticFinding.concernsAddress : SemanticFinding → Bool
  | .captureBaseMismatch _ _ _ | .digestMismatch _ _ _ => true
  | _ => false

def AddressFree (fs : List SemanticFinding) : Prop := ∀ f ∈ fs, f.concernsAddress = false

namespace AddressFree

variable {α : Type} {as : List α} {fs gs : List SemanticFinding}

lemma nil : AddressFree [] := nofun

lemma append_iff : AddressFree (fs ++ gs) ↔ AddressFree fs ∧ AddressFree gs :=
  List.forall_mem_append

lemma map {g : α → SemanticFinding} (h : ∀ a, (g a).concernsAddress = false) :
    AddressFree (as.map g) := by
  intro f hf
  obtain ⟨a, -, rfl⟩ := List.mem_map.mp hf
  exact h a

lemma flatMap {g : α → List SemanticFinding} (h : ∀ a, AddressFree (g a)) :
    AddressFree (as.flatMap g) := by
  intro f hf
  obtain ⟨a, -, hf⟩ := List.mem_flatMap.mp hf
  exact h a f hf

end AddressFree

namespace Bundle

variable {b : Bundle} {rules : SemanticRules} {o : Overlay}

def contents (b : Bundle) : List (List UInt8 × Json) :=
  (Canonical.captureBaseDomain, CaptureBase.content b.captureBase.schemaType
      b.captureBase.classification b.captureBase.attributes) ::
    (Canonical.bundleDomain, content b.captureBase.digest (b.overlays.map (·.digest))) ::
      b.overlays.map fun o =>
        (Canonical.overlayDomain, .object (Overlay.content o.language o.body).entries)

structure IsIntact (b : Bundle) (rules : SemanticRules) : Prop where
  available : ∀ c ∈ b.contents, ∃ bytes, (Canonical.Item.ofJson c.2).bytes = .ok bytes
  found : AddressFree (b.semanticReport rules).findings

structure IsAddressed (b : Bundle) : Prop where
  captureBase : b.captureBase.computedDigest = b.captureBase.digest
  binding : ∀ o ∈ b.overlays, o.captureBase = some b.captureBase.digest
  overlays : ∀ o ∈ b.overlays, o.computedDigest = o.digest
  bundle : b.computedDigest = b.digest

lemma addressFree_languageFindings (earlier : List Overlay) :
    AddressFree (languageFindings rules earlier o) := by
  unfold languageFindings
  split
  · split
    · exact List.forall_mem_singleton.mpr rfl
    · exact .nil
  · dsimp only
    split
    · exact List.forall_mem_singleton.mpr rfl
    · exact .nil

lemma addressFree_conditionFindings (name text : String) :
    AddressFree (b.conditionFindings name text) := by
  unfold conditionFindings
  split
  · exact .map fun _ => rfl
  · exact List.forall_mem_singleton.mpr rfl

lemma addressFree_unitFindings (name unit : String) : AddressFree (b.unitFindings name unit) := by
  unfold unitFindings
  split
  · split
    · exact .nil
    · exact List.forall_mem_singleton.mpr rfl
  · exact .nil

lemma addressFree_bodyFindings (body : Body) : AddressFree (b.bodyFindings body) := by
  cases body with
  | entryCode | cardinality | conformance | format => exact .map fun _ => rfl
  | entry => exact .flatMap fun _ => .map fun _ => rfl
  | entryCodeMapping => exact .flatMap fun _ => .map fun _ => rfl
  | unit => exact .flatMap fun e => addressFree_unitFindings e.1 e.2
  | conditional =>
    refine AddressFree.append_iff.mpr ⟨.flatMap fun e => ?_, .flatMap fun _ => .map fun _ => rfl⟩
    exact addressFree_conditionFindings e.1 e.2
  | link target _ =>
    rw [bodyFindings]
    split
    · exact .nil
    · exact List.forall_mem_singleton.mpr rfl
  | _ => exact .nil

lemma addressFree_digestFindings {target : String} {stored computed : Said} :
    AddressFree (digestFindings target stored computed) ↔ computed = stored := by
  unfold digestFindings
  split
  · rename_i h
    simp [AddressFree, h]
  · rename_i h
    simp [AddressFree, SemanticFinding.concernsAddress, h]

lemma addressFree_integrityFindings : AddressFree (b.integrityFindings o) ↔
    o.captureBase = some b.captureBase.digest ∧ o.computedDigest = o.digest := by
  unfold integrityFindings
  rw [AddressFree.append_iff, addressFree_digestFindings]
  split
  · rename_i h
    simp [AddressFree, h]
  · rename_i h
    simp [AddressFree, SemanticFinding.concernsAddress, h]

lemma addressFree_overlaysFindings {os : List Overlay} (earlier : List Overlay) :
    AddressFree (b.overlaysFindings rules earlier os) ↔
      ∀ o ∈ os, o.captureBase = some b.captureBase.digest ∧ o.computedDigest = o.digest := by
  induction os generalizing earlier with
  | nil => simpa [overlaysFindings] using AddressFree.nil
  | cons o os ih =>
    have hr : AddressFree (b.unknownReferences o) := .map fun _ => rfl
    rw [overlaysFindings, AddressFree.append_iff, ih, overlayFindings, AddressFree.append_iff,
      AddressFree.append_iff, AddressFree.append_iff, addressFree_integrityFindings,
      List.forall_mem_cons]
    simp only [hr, addressFree_languageFindings, addressFree_bodyFindings, true_and]

lemma addressFree_translationFindings : AddressFree (b.translationFindings rules) :=
  .flatMap fun _ => .map fun _ => rfl

lemma isIntact_iff : b.IsIntact rules ↔ b.IsAddressed := by
  have hf : AddressFree (b.semanticReport rules).findings ↔ b.IsAddressed := by
    rw [semanticReport, AddressFree.append_iff, AddressFree.append_iff, AddressFree.append_iff,
      addressFree_overlaysFindings, addressFree_digestFindings, addressFree_digestFindings]
    constructor
    · rintro ⟨⟨⟨ho, -⟩, hc⟩, hb⟩
      exact ⟨hc, fun o h => (ho o h).1, fun o h => (ho o h).2, hb⟩
    · rintro ⟨hc, hl, ho, hb⟩
      exact ⟨⟨⟨fun o h => ⟨hl o h, ho o h⟩, addressFree_translationFindings⟩, hc⟩, hb⟩
  exact ⟨fun h => hf.mp h.found,
    fun h => ⟨fun c _ => ⟨_, Canonical.Item.bytes_ofJson c.2⟩, hf.mpr h⟩⟩

lemma isAddressed_make (name : Option String) {c : CaptureBase} {os : List Overlay}
    (hc : c.computedDigest = c.digest) (ho : ∀ o ∈ os, o.computedDigest = o.digest) :
    (make name c os).IsAddressed := by
  refine ⟨hc, fun o h => ?_, fun o h => ?_, ?_⟩
  · obtain ⟨p, -, rfl⟩ := List.mem_map.mp h
    rfl
  · obtain ⟨p, hp, rfl⟩ := List.mem_map.mp h
    exact ho p hp
  · simp [make, computedDigest, Overlay.bind, Function.comp_def]

end Bundle

end LayeredSchema

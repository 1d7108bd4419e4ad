import LayeredSchema.Proofs.Canonical.Length
import LayeredSchema.Proofs.Contents
import LayeredSchema.Proofs.Engine.Integrity

/-!
Addresses and contents: where the hash tells the messages met apart, bundles that are intact have one
address exactly if they have the same parts, the order in which attributes were declared left aside.
-/

namespace LayeredSchema

def CollisionFree (ms : List (List UInt8)) : Prop :=
  ∀ m ∈ ms, ∀ n ∈ ms, Blake3.hash m = Blake3.hash n → m = n

lemma CollisionFree.of_nodup {ms ns : List (List UInt8)} (hs : ns ⊆ ms)
    (hn : (ms.map Blake3.hash).Nodup) : CollisionFree ns :=
  fun _ hm _ hm' h => List.inj_on_of_nodup_map hn (hs hm) (hs hm') h

namespace Bundle

variable {a b : Bundle} {rules : SemanticRules} {c : List UInt8 × Json}

/-- What is hashed: the domain of an address and the canonical bytes of a content. -/
def message (c : List UInt8 × Json) : List UInt8 := c.1 ++ Canonical.encode c.2

def messages (b : Bundle) : List (List UInt8) := b.contents.map message

def IsProduced (b : Bundle) : Prop :=
  (∃ r f, assemble r f = .ok b) ∨ ∃ text, Bundle.read text = .ok b

structure SameParts (a b : Bundle) : Prop where
  schemaType : a.captureBase.schemaType = b.captureBase.schemaType
  classification : a.captureBase.classification = b.captureBase.classification
  attributes : ∀ name, a.captureBase.attribute? name = b.captureBase.attribute? name
  overlays : a.overlays.map (fun o => (o.language, o.body)) =
    b.overlays.map fun o => (o.language, o.body)

lemma IsProduced.bodies (h : b.IsProduced) : ∀ o ∈ b.overlays, o.body.IsWire := by
  rcases h with ⟨r, f, h⟩ | ⟨text, h⟩
  · exact bodies_of_assemble h
  · exact (isWire_of_read h).bodies

lemma distinctNames_of_mem_contents (h : b.IsProduced) (hc : c ∈ b.contents) :
    c.2.Throughout Json.HasDistinctNames := by
  rw [contents, List.mem_cons, List.mem_cons, List.mem_map] at hc
  rcases hc with rfl | rfl | ⟨o, ho, rfl⟩
  · exact CaptureBase.distinctNames_content _ _ _
  · exact (isNormal_content _ _).distinctNames
  · exact (Overlay.isNormal_content (h.bodies o ho)).distinctNames

lemma isHeld_of_mem_contents (h : b.IsProduced) (hl : ∀ m ∈ b.messages, m.length < 1 <<< 64)
    (hc : c ∈ b.contents) : c.2.IsHeld := by
  have hm := hl _ (List.mem_map_of_mem hc)
  rw [message, List.length_append] at hm
  exact (Canonical.isSized_of_short (by omega)).and (distinctNames_of_mem_contents h hc)

lemma map_eq_map_iff {α β γ : Type} {f : α → β} {g : α → γ} {as bs : List α}
    (h : ∀ a ∈ as, ∀ b ∈ bs, f a = f b ↔ g a = g b) : as.map f = bs.map f ↔ as.map g = bs.map g := by
  induction as generalizing bs with
  | nil => cases bs <;> simp
  | cons a as ih =>
    cases bs with
    | nil => simp
    | cons b bs =>
      have hi := ih fun a ha b hb => h a (List.mem_cons_of_mem _ ha) b (List.mem_cons_of_mem _ hb)
      simp only [List.map_cons, List.cons.injEq, hi, h a List.mem_cons_self b List.mem_cons_self]

section Addresses

variable (ha : a.IsProduced) (hb : b.IsProduced)
  (hl : ∀ m ∈ a.messages ++ b.messages, m.length < 1 <<< 64)
  (hf : CollisionFree (a.messages ++ b.messages))
include ha hb hl hf

lemma compute_eq_iff {domain : List UInt8} {v w : Json} (hv : (domain, v) ∈ a.contents)
    (hw : (domain, w) ∈ b.contents) :
    Said.compute domain (Canonical.encode v) = Said.compute domain (Canonical.encode w) ↔
      v.normal = w.normal := by
  have hva : v.IsHeld :=
    isHeld_of_mem_contents ha (fun m hm => hl m (List.mem_append_left _ hm)) hv
  have hwb : w.IsHeld :=
    isHeld_of_mem_contents hb (fun m hm => hl m (List.mem_append_right _ hm)) hw
  rw [← Canonical.encode_eq_iff hva hwb]
  constructor
  · intro h
    have hm : message (domain, v) = message (domain, w) :=
      hf _ (List.mem_append_left _ (List.mem_map_of_mem hv))
        _ (List.mem_append_right _ (List.mem_map_of_mem hw)) (congrArg Said.bytes h)
    exact List.append_cancel_left hm
  · intro h
    rw [h]

lemma captureBase_computedDigest_eq_iff :
    a.captureBase.computedDigest = b.captureBase.computedDigest ↔
      a.captureBase.schemaType = b.captureBase.schemaType ∧
        a.captureBase.classification = b.captureBase.classification ∧
          ∀ name, a.captureBase.attribute? name = b.captureBase.attribute? name :=
  (compute_eq_iff ha hb hl hf List.mem_cons_self List.mem_cons_self).trans
    CaptureBase.normal_content_eq_iff

lemma overlay_computedDigest_eq_iff {o p : Overlay} (ho : o ∈ a.overlays) (hp : p ∈ b.overlays) :
    o.computedDigest = p.computedDigest ↔ (o.language, o.body) = (p.language, p.body) := by
  have ho' := ha.bodies o ho
  have hp' := hb.bodies p hp
  refine (compute_eq_iff ha hb hl hf
    (List.mem_cons_of_mem _ (List.mem_cons_of_mem _ (List.mem_map_of_mem ho)))
    (List.mem_cons_of_mem _ (List.mem_cons_of_mem _ (List.mem_map_of_mem hp)))).trans ?_
  rw [Overlay.isNormal_content ho', Overlay.isNormal_content hp', Json.object.injEq, Prod.mk.injEq,
    ← Overlay.content_inj ho' hp']
  exact ⟨Table.ext, congrArg Table.entries⟩

lemma computedDigest_eq_iff : a.computedDigest = b.computedDigest ↔
    a.captureBase.digest = b.captureBase.digest ∧
      a.overlays.map (·.digest) = b.overlays.map (·.digest) := by
  refine (compute_eq_iff ha hb hl hf (List.mem_cons_of_mem _ List.mem_cons_self)
    (List.mem_cons_of_mem _ List.mem_cons_self)).trans ?_
  rw [isNormal_content, isNormal_content, content_inj]

end Addresses

/-- Bundles that are intact have one address exactly if they have the same parts, whatever their
names, as long as the hash tells the messages of the two apart. -/
theorem digest_eq_iff (ha : a.IsProduced) (hb : b.IsProduced) (hia : a.IsIntact rules)
    (hib : b.IsIntact rules) (hl : ∀ m ∈ a.messages ++ b.messages, m.length < 1 <<< 64)
    (hf : CollisionFree (a.messages ++ b.messages)) : a.digest = b.digest ↔ a.SameParts b := by
  rw [isIntact_iff] at hia hib
  have ho : a.overlays.map (·.digest) = b.overlays.map (·.digest) ↔
      a.overlays.map (fun o => (o.language, o.body)) =
        b.overlays.map fun o => (o.language, o.body) := by
    refine map_eq_map_iff fun o ho p hp => ?_
    rw [← hia.overlays o ho, ← hib.overlays p hp]
    exact overlay_computedDigest_eq_iff ha hb hl hf ho hp
  rw [← hia.bundle, ← hib.bundle, computedDigest_eq_iff ha hb hl hf, ← hia.captureBase,
    ← hib.captureBase, captureBase_computedDigest_eq_iff ha hb hl hf, ho]
  constructor
  · rintro ⟨⟨ht, hc, has⟩, hos⟩
    exact ⟨ht, hc, has, hos⟩
  · rintro ⟨ht, hc, has, hos⟩
    exact ⟨⟨ht, hc, has⟩, hos⟩

def titledFile (name : String) (as : List (String × AttributeType)) (language : List Property) :
    Ocafile :=
  ⟨some name, [⟨1, .attributes as⟩, ⟨2, .overlay "meta" (language ++ [.mk 3 "name" (.text "n")])⟩]⟩

def titled (name : String) (as : List (String × AttributeType)) (language : Option String) :
    Bundle :=
  .make (some name) (CaptureBase.Draft.build { attributes := .ofList as })
    [.make language (.metadata (.ofList [("name", "n")]))]

def textFirst : List (String × AttributeType) := [("s", .primitive .text), ("n", .primitive .numeric)]

def titledMessages : List (List UInt8) :=
  (titled "one" textFirst (some "")).messages ++ (titled "one" textFirst none).messages.tail

theorem digest_eq_iff_titled :
    (titled "one" textFirst (some "")).digest = (titled "two" textFirst.reverse (some "")).digest ∧
      (titled "one" textFirst (some "")).digest ≠ (titled "one" textFirst none).digest := by
  have ha : assemble .builtin (titledFile "one" textFirst [.mk 3 "language" (.text "")]) =
      .ok (titled "one" textFirst (some "")) := rfl
  have hb : assemble .builtin (titledFile "two" textFirst.reverse [.mk 3 "language" (.text "")]) =
      .ok (titled "two" textFirst.reverse (some "")) := rfl
  have hc : assemble .builtin (titledFile "one" textFirst []) =
      .ok (titled "one" textFirst none) := rfl
  have hi {b : Bundle} (h : b.IsAddressed) : b.IsIntact {} := isIntact_iff.mpr h
  have hia := hi (isAddressed_of_assemble ha)
  have hib := hi (isAddressed_of_assemble hb)
  have hic := hi (isAddressed_of_assemble hc)
  -- one evaluation for all, as the addresses in the messages are hashes too
  obtain ⟨hl, hn, hab, hac⟩ : (∀ m ∈ titledMessages, m.length < 1 <<< 64) ∧
      (titledMessages.map Blake3.hash).Nodup ∧
      ((titled "one" textFirst (some "")).messages ++
        (titled "two" textFirst.reverse (some "")).messages ⊆ titledMessages) ∧
      ((titled "one" textFirst (some "")).messages ++
        (titled "one" textFirst none).messages ⊆ titledMessages) := by decide +kernel
  constructor
  · refine (digest_eq_iff (Or.inl ⟨_, _, ha⟩) (Or.inl ⟨_, _, hb⟩) hia hib (fun m hm => hl m (hab hm))
      (.of_nodup hab hn)).mpr ⟨rfl, rfl, fun name => ?_, rfl⟩
    change Entries.get? textFirst name = Entries.get? textFirst.reverse name
    by_cases hs : "s" = name
    · subst hs
      rfl
    · simp [textFirst, Entries.get?_cons, hs]
  · refine mt (digest_eq_iff (Or.inl ⟨_, _, ha⟩) (Or.inl ⟨_, _, hc⟩) hia hic (fun m hm => hl m (hac hm))
      (.of_nodup hac hn)).mp fun h => ?_
    exact absurd h.overlays (by decide)

end Bundle

end LayeredSchema

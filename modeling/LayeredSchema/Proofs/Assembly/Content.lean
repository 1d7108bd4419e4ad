import LayeredSchema.Proofs.Assembly.Reordered

/-!
The content of a file: the attributes and classifications that its commands declare and the overlays
that they make, each in order. Assembly depends on nothing else, so not on how commands of different
kinds alternate, nor on how attributes are split over them.
-/

namespace LayeredSchema

structure OverlayRequest where
  line : ℕ
  name : String
  properties : List Property

namespace OverlayRequest

def unnumbered (c : OverlayRequest) : OverlayRequest :=
  ⟨0, c.name, Property.unnumberedList c.properties⟩

def build (r : Registry) (c : OverlayRequest) : Except Assembly.Error Overlay :=
  Assembly.overlay r c.line c.name c.properties

end OverlayRequest

def Action.declared : Action → List (String × AttributeType)
  | .attributes declared => declared
  | _ => []

def Action.classification? : Action → Option String
  | .classification value => some value
  | _ => none

def Command.overlay? (c : Command) : Option OverlayRequest :=
  match c.action with
  | .overlay name properties => some ⟨c.line, name, properties⟩
  | _ => none

namespace Ocafile

def declared (f : Ocafile) : Entries AttributeType := f.commands.flatMap (·.action.declared)

def classifications (f : Ocafile) : List String := f.commands.filterMap (·.action.classification?)

def overlays (f : Ocafile) : List OverlayRequest := f.commands.filterMap Command.overlay?

structure SameParts (f g : Ocafile) : Prop where
  name : f.name = g.name
  declared : f.declared = g.declared
  classifications : f.classifications = g.classifications
  overlays : f.overlays.map (·.unnumbered) = g.overlays.map (·.unnumbered)

end Ocafile

namespace Assembly

variable {r : Registry} {as bs : Entries AttributeType} {values : List String}
  {cs : List OverlayRequest} {d e : Draft}

structure Gathers (r : Registry) (as : Entries AttributeType) (values : List String)
    (cs : List OverlayRequest) (d e : Draft) : Prop where
  attributes : e.captureBase.attributes.entries = d.captureBase.attributes.entries ++ as
  atMostOne : d.isClassified.toNat + values.length ≤ 1
  isClassified : e.isClassified = (d.isClassified || !values.isEmpty)
  classification : e.captureBase.classification = values.head?.getD d.captureBase.classification
  overlays : ∃ os, e.overlays = d.overlays ++ os ∧
    List.Forall₂ (fun c o => c.build r = .ok o) cs os

lemma gathers_nil_iff : Gathers r [] [] [] d e ↔ d = e := by
  constructor
  · rintro ⟨ha, -, hf, hv, os, ho, hos⟩
    cases hos
    obtain ⟨⟨value, attributes⟩, isClassified, overlays⟩ := e
    rw [List.append_nil] at ha ho
    obtain rfl := Attributes.ext ha
    simp_all
  · rintro rfl
    exact ⟨by simp, by simpa using Bool.toNat_le _, by simp, rfl, [], by simp, .nil⟩

lemma gathers_classification_iff {value : String} : Gathers r as (value :: values) cs d e ↔
    d.isClassified = false ∧ Gathers r as values cs
      { d with isClassified := true, captureBase := d.captureBase.classify value } e := by
  constructor
  · rintro ⟨ha, hn, hf, hv, ho⟩
    rw [List.length_cons] at hn
    obtain rfl : values = [] := List.length_eq_zero_iff.mp (by omega)
    have hd : d.isClassified = false := Bool.toNat_eq_zero.mp (by omega)
    exact ⟨hd, ha, by simp, by simp [hf], hv, ho⟩
  · rintro ⟨hd, ha, hn, hf, hv, ho⟩
    obtain rfl : values = [] := List.length_eq_zero_iff.mp (by simpa using hn)
    exact ⟨ha, by simp [hd], by simp [hf], hv, ho⟩

lemma gathers_attributes_iff (line : ℕ) : Gathers r (bs ++ as) values cs d e ↔
    ∃ b, bs.foldlM (declare line) d.captureBase = .ok b ∧
      Gathers r as values cs { d with captureBase := b } e := by
  simp only [foldlM_declare_ok_iff]
  constructor
  · rintro ⟨ha, hn, hf, hv, ho⟩
    rw [← List.append_assoc] at ha
    have hb : (d.captureBase.attributes.entries ++ bs).names.Nodup := by
      have hn := e.captureBase.attributes.nodup
      rw [ha, Entries.names, List.map_append] at hn
      exact hn.of_append_left
    exact ⟨⟨_, ⟨_, hb⟩⟩, ⟨rfl, rfl⟩, ha, hn, hf, hv, ho⟩
  · rintro ⟨b, ⟨hb, hba⟩, ha, hn, hf, hv, ho⟩
    exact ⟨by simpa [hba] using ha, hn, hf, hb ▸ hv, ho⟩

lemma gathers_overlay_iff {c : OverlayRequest} : Gathers r as values (c :: cs) d e ↔
    ∃ o, c.build r = .ok o ∧
      Gathers r as values cs { d with overlays := d.overlays ++ [o] } e := by
  constructor
  · rintro ⟨ha, hn, hf, hv, _, ho, _ | ⟨hc, hos⟩⟩
    exact ⟨_, hc, ha, hn, hf, hv, _, by simpa using ho, hos⟩
  · rintro ⟨o, hc, ha, hn, hf, hv, os, ho, hos⟩
    exact ⟨ha, hn, hf, hv, o :: os, by simpa using ho, .cons hc hos⟩

lemma foldlM_follow_ok_iff {commands : List Command} :
    commands.foldlM (Draft.follow r) d = .ok e ↔
      Gathers r (commands.flatMap (·.action.declared))
        (commands.filterMap (·.action.classification?)) (commands.filterMap Command.overlay?) d e := by
  -- each command changes one part of the draft only, so the parts are gathered apart
  induction commands generalizing d with
  | nil => exact Outcome.pure_ok_iff.trans gathers_nil_iff.symm
  | cons c commands ih =>
    obtain ⟨line, action⟩ := c
    simp only [List.foldlM_cons, Outcome.bind_ok_iff, ih]
    cases action with
    | classification value =>
      refine Iff.trans ?_ gathers_classification_iff.symm
      cases hd : d.isClassified <;> simp [Draft.follow, hd]
      exact Iff.rfl
    | attributes declared =>
      refine Iff.trans ?_ (gathers_attributes_iff line).symm
      simp only [Draft.follow, Outcome.bind_ok_iff, Outcome.pure_ok_iff]
      constructor
      · rintro ⟨_, ⟨b, hb, rfl⟩, h⟩
        exact ⟨b, hb, h⟩
      · rintro ⟨b, hb, h⟩
        exact ⟨_, ⟨b, hb, rfl⟩, h⟩
    | overlay name ps =>
      refine Iff.trans ?_ gathers_overlay_iff.symm
      simp only [Draft.follow, Outcome.bind_ok_iff, Outcome.pure_ok_iff]
      constructor
      · rintro ⟨_, ⟨o, ho, rfl⟩, h⟩
        exact ⟨o, ho, h⟩
      · rintro ⟨o, ho, h⟩
        exact ⟨_, ⟨o, ho, rfl⟩, h⟩

lemma assemble_ok_iff {f : Ocafile} {b : Bundle} : assemble r f = .ok b ↔
    ∃ e, Gathers r f.declared f.classifications f.overlays {} e ∧
      b = .make f.name e.captureBase.build e.overlays := by
  simp only [assemble, Outcome.bind_ok_iff, Outcome.pure_ok_iff, foldlM_follow_ok_iff,
    eq_comm (a := b)]
  rfl

lemma build_of_unnumbered {c c' : OverlayRequest} (h : c.unnumbered = c'.unnumbered) {o : Overlay}
    (ho : c.build r = .ok o) : c'.build r = .ok o := by
  obtain ⟨-, hn, hp⟩ := OverlayRequest.mk.inj h
  rw [OverlayRequest.build] at ho ⊢
  exact hn ▸ overlay_of_unnumberedList hp ho c'.line

lemma Gathers.of_unnumbered {cs' : List OverlayRequest}
    (hc : cs.map (·.unnumbered) = cs'.map (·.unnumbered)) (h : Gathers r as values cs d e) :
    Gathers r as values cs' d e := by
  obtain ⟨ha, hn, hf, hv, os, ho, hos⟩ := h
  refine ⟨ha, hn, hf, hv, os, ho, ?_⟩
  clear ho
  rw [← List.forall₂_eq_eq_eq, List.forall₂_map_left_iff, List.forall₂_map_right_iff] at hc
  induction hc generalizing os with
  | nil => exact hos
  | cons hc _ ih =>
    obtain _ | ⟨ho, hos⟩ := hos
    exact .cons (build_of_unnumbered hc ho) (ih _ hos)

lemma exists_gathers_iff : (∃ e, Gathers r as values cs {} e) ↔
    as.names.Nodup ∧ values.length ≤ 1 ∧ ∀ c ∈ cs, ∃ o, c.build r = .ok o := by
  constructor
  · rintro ⟨e, ha, hn, -, -, os, -, hos⟩
    have ha : e.captureBase.attributes.entries = as := ha
    refine ⟨ha ▸ e.captureBase.attributes.nodup, by simpa using hn, ?_⟩
    exact Outcome.exists_mapM_ok_iff.mp ⟨os, Outcome.mapM_ok_iff.mpr hos⟩
  · rintro ⟨ha, hn, hc⟩
    obtain ⟨os, hos⟩ := Outcome.exists_mapM_ok_iff.mpr hc
    exact ⟨⟨⟨_, ⟨as, ha⟩⟩, _, os⟩, rfl, by simpa using hn, rfl, rfl, os, rfl,
      Outcome.mapM_ok_iff.mp hos⟩

structure MadeOf (r : Registry) (f : Ocafile) (b : Bundle) : Prop where
  name : b.name = f.name
  attributes : b.captureBase.attributes.entries = f.declared
  classification : b.captureBase.classification = f.classifications.head?.getD ""
  overlays : List.Forall₂ (fun c o => ∃ d u, r.resolve c.name = some d ∧ c.build r = .ok u ∧
    o = u.bind b.captureBase.digest ∧ o.tag = d.tag) f.overlays b.overlays

lemma madeOf_of_assemble {f : Ocafile} {b : Bundle} (h : assemble r f = .ok b) : MadeOf r f b := by
  obtain ⟨e, ⟨ha, -, -, hv, os, ho, hos⟩, rfl⟩ := assemble_ok_iff.mp h
  refine ⟨rfl, ha, hv, ?_⟩
  obtain rfl : e.overlays = os := ho
  change List.Forall₂ _ _ (e.overlays.map _)
  rw [List.forall₂_map_right_iff]
  refine hos.imp fun c u hu => ?_
  obtain ⟨d, s, body, hd, -, hb, rfl⟩ := overlay_ok_iff.mp hu
  exact ⟨d, _, hd, hu, rfl, Body.tag_of_ofPayload hb⟩

/-- Files with the same attributes, classifications and overlay commands make the same bundle, if
any. They make one just if no attribute is declared twice, there is one classification at most, and
every overlay command succeeds on its own; the bundle then has what they declare, in order. -/
theorem assemble_by_content (r : Registry) (f : Ocafile) :
    (∀ g, f.SameParts g → ∀ b, assemble r f = .ok b ↔ assemble r g = .ok b) ∧
    ((∃ b, assemble r f = .ok b) ↔ f.declared.names.Nodup ∧ f.classifications.length ≤ 1 ∧
      ∀ c ∈ f.overlays, ∃ o, c.build r = .ok o) ∧
    ∀ b, assemble r f = .ok b → MadeOf r f b := by
  refine ⟨fun g hg b => ?_, ?_, fun b => madeOf_of_assemble⟩
  · rw [assemble_ok_iff, assemble_ok_iff, hg.name, hg.declared, hg.classifications]
    constructor
    · rintro ⟨e, he, hb⟩
      exact ⟨e, he.of_unnumbered hg.overlays, hb⟩
    · rintro ⟨e, he, hb⟩
      exact ⟨e, he.of_unnumbered hg.overlays.symm, hb⟩
  · rw [← exists_gathers_iff]
    constructor
    · rintro ⟨b, hb⟩
      obtain ⟨e, he, -⟩ := assemble_ok_iff.mp hb
      exact ⟨e, he⟩
    · rintro ⟨e, he⟩
      exact ⟨_, assemble_ok_iff.mpr ⟨e, he, rfl⟩⟩

def splitFile : Ocafile :=
  ⟨some "card",
    [⟨1, .attributes [("name", .primitive .text)]⟩,
      ⟨2, .overlay "Label"
        [.mk 3 "language" (.text "en"),
          .mk 4 "attribute_labels" (.block [.mk 5 "age" (.text "Age")])]⟩,
      ⟨6, .attributes [("age", .primitive .numeric), ("seen", .primitive .dateTime)]⟩,
      ⟨7, .classification "GICS:1"⟩]⟩

def joinedFile : Ocafile :=
  ⟨some "card",
    [⟨1, .classification "GICS:1"⟩,
      ⟨2, .attributes
        [("name", .primitive .text), ("age", .primitive .numeric), ("seen", .primitive .dateTime)]⟩,
      ⟨3, .attributes []⟩,
      ⟨4, .overlay "Label"
        [.mk 5 "language" (.text "en"),
          .mk 6 "attribute_labels" (.block [.mk 7 "age" (.text "Age")])]⟩]⟩

theorem assemble_by_content_split : splitFile.SameParts joinedFile ∧
    ∃ b, assemble .builtin splitFile = .ok b ∧ assemble .builtin joinedFile = .ok b ∧
      b.captureBase.attributes.entries.names = ["name", "age", "seen"] ∧
      b.captureBase.classification = "GICS:1" ∧ b.overlays.length = 1 := by
  have hs : splitFile.SameParts joinedFile := ⟨rfl, rfl, rfl, rfl⟩
  obtain ⟨hg, he, hm⟩ := assemble_by_content .builtin splitFile
  have hc : ∀ c ∈ splitFile.overlays, ∃ o, c.build .builtin = .ok o := by
    intro c hc
    obtain rfl := List.mem_singleton.mp hc
    exact ⟨_, rfl⟩
  obtain ⟨b, hb⟩ := he.mpr ⟨by decide, by decide, hc⟩
  have h := hm b hb
  refine ⟨hs, b, hb, (hg joinedFile hs b).mp hb, ?_, h.classification, h.overlays.length_eq.symm⟩
  rw [h.attributes]
  rfl

end Assembly

end LayeredSchema

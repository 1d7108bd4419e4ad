import LayeredSchema.Proofs.Assembly.Commands
import LayeredSchema.Proofs.Assembly.Keys

/-!
Overlays read again: the properties of a payload can be written when its names can, and properties
that read back from them, line numbers aside, make the same overlay.
-/

namespace LayeredSchema

namespace Property

lemma every_iff {R : String → PropertyValue → Prop} {ps : List Property} :
    Every R ps ↔ ∀ p ∈ ps, R p.key p.value ∧ Every R p.value.inner := by
  constructor
  · exact fun h p hp => h.mem hp
  · intro h
    induction ps with
    | nil => exact .nil
    | cons p ps ih =>
      obtain ⟨hk, hi⟩ := h p List.mem_cons_self
      cases p
      exact .cons hk hi (ih fun q hq => h q (List.mem_cons_of_mem _ hq))

lemma unnumberedList_eq_map (ps : List Property) : unnumberedList ps = ps.map unnumbered := by
  induction ps with
  | nil => rfl
  | cons p ps ih => rw [unnumberedList, ih, List.map_cons]

lemma prunedList_eq_map (ps : List Property) : prunedList ps = ps.map pruned := by
  induction ps with
  | nil => rfl
  | cons p ps ih => rw [prunedList, ih, List.map_cons]

end Property

/-- The attributes that have texts for codes. In commands they stand on lines of their own. -/
def Body.entryNames : Body → List String
  | .entry t => t.names
  | _ => []

namespace Assembly

open Ocafile

def NameIn (S : String → Prop) (k : String) (isObject : Bool) : Prop :=
  k ≠ "" ∧ (isObject = true → Continues k → S k)

variable {S : String → Prop}

lemma keyIn_ofJson {k : String} {v : Json} (h : NameIn S k v.isObject) : KeyIn S k (.ofJson v) := by
  refine ⟨h.1, fun hv => h.2 ?_⟩
  cases v with
  | object es => rfl
  | array items =>
    rw [PropertyValue.ofJson] at hv
    split at hv <;> contradiction
  | _ => contradiction

lemma every_keyIn {v : Json} (h : Json.Every (NameIn S) v) :
    Property.Every (KeyIn S) (PropertyValue.ofJson v).inner := by
  induction h with
  | @leaf v h =>
    cases v with
    | object es => contradiction
    | array items =>
      rw [PropertyValue.ofJson]
      split <;> exact .nil
    | _ => exact .nil
  | @object es hn _ ih =>
    refine Property.every_iff.mpr fun p hp => ?_
    change p ∈ Property.ofEntries es at hp
    rw [Property.ofEntries_eq_map] at hp
    obtain ⟨e, he, rfl⟩ := List.mem_map.mp hp
    exact ⟨keyIn_ofJson (hn e he), ih e he⟩

lemma every_and {P Q : String → Bool → Prop} {v : Json} (hp : Json.Every P v)
    (hq : Json.Every Q v) : Json.Every (fun k b => P k b ∧ Q k b) v := by
  induction hp with
  | leaf h => exact .leaf h
  | object hn _ ih =>
    rw [Json.Every.object_iff] at hq
    exact .object (fun e he => ⟨hn e he, (hq e he).1⟩) fun e he => ih e he (hq e he).2

lemma every_of_leaves {α : Type} {P : String → Prop} (t : Table α) {encode : α → Json}
    (h : ∀ a, (encode a).isObject = false) :
    Json.Every (fun k isObject => isObject = true → P k)
      (.object (t.entries.map fun e => (e.1, encode e.2))) := by
  refine Json.Every.object_iff.mpr fun e he => ?_
  obtain ⟨f, -, rfl⟩ := List.mem_map.mp he
  exact ⟨fun ho => absurd ((h f.2).symm.trans ho) Bool.false_ne_true, .leaf (h f.2)⟩

lemma every_of_entryNames {P : String → Prop} {b : Body} (hb : b.kind ≠ .custom)
    (h : ∀ k ∈ b.entryNames, P k) :
    ∀ e ∈ b.toPayload.entries, Json.Every (fun k isObject => isObject = true → P k) e.2 := by
  have texts (t : Table String) :
      Json.Every (fun k isObject => isObject = true → P k) (Json.ofTextTable t) :=
    every_of_leaves t fun _ => rfl
  have lists (t : Table (List String)) :
      Json.Every (fun k isObject => isObject = true → P k) (Body.lists t) :=
    every_of_leaves t fun _ => rfl
  cases b with
  | custom => contradiction
  | metadata t =>
    refine Body.every_ofList fun e he => ?_
    obtain ⟨f, -, rfl⟩ := List.mem_map.mp he
    exact .leaf rfl
  | entry t =>
    refine Body.every_ofList (List.forall_mem_singleton.mpr (Json.Every.object_iff.mpr ?_))
    intro e he
    obtain ⟨f, hf, rfl⟩ := List.mem_map.mp he
    exact ⟨fun _ => h f.1 (List.mem_map_of_mem hf), texts f.2⟩
  | entryCode t | entryCodeMapping t =>
    exact Body.every_ofList (List.forall_mem_singleton.mpr (lists t))
  | sensitive names => exact Body.every_ofList (List.forall_mem_singleton.mpr (.leaf rfl))
  | conditional s t =>
    exact Body.every_ofList (List.forall_mem_cons.mpr
      ⟨texts s, List.forall_mem_singleton.mpr (lists t)⟩)
  | characterEncoding o t | unit o t | link o t =>
    exact Body.every_ofList (List.forall_mem_append.mpr
      ⟨Body.every_optionalText o, List.forall_mem_singleton.mpr (texts t)⟩)
  | label t | information t | format t | cardinality t | standard t | mapping t | conformance t =>
    exact Body.every_ofList (List.forall_mem_singleton.mpr (texts t))

lemma forall_mem_entryNames {P : String → Prop} {b : Body}
    (h : ∀ e ∈ b.toPayload.entries, Json.Every (fun k isObject => isObject = true → P k) e.2) :
    ∀ k ∈ b.entryNames, P k := by
  cases b with
  | entry t =>
    intro k hk
    obtain ⟨e, he, rfl⟩ := List.mem_map.mp hk
    have ht := h _ (List.mem_singleton_self _)
    exact (Json.Every.object_iff.mp ht _ (List.mem_map_of_mem he)).1 rfl
  | _ => exact fun k hk => absurd hk List.not_mem_nil

lemma nameIn_of_shapes {k : Kind} {shapes : List (String × Shape)}
    (h : k.shapes? = some shapes) {e : String × Shape} (he : e ∈ shapes) (b : Bool) :
    NameIn S e.1 b := by
  have hd : ∀ e ∈ shapes, e.1 ≠ "" ∧ e.1.toList.getLast? ≠ some '\\' := by
    cases k with
    | metadata | custom => contradiction
    | _ =>
      obtain rfl := Option.some.inj h
      decide +kernel
  exact ⟨(hd e he).1, fun _ hk => absurd hk.2 (hd e he).2⟩

lemma every_keyIn_of_overlay {r : Registry} (hr : ∀ d ∈ r.definitions, d.kind ≠ .custom)
    {line : ℕ} {name : String} {ps : List Property} {o : Overlay}
    (h : overlay r line name ps = .ok o) (hp : Keyed (fun k _ => k ≠ "") ps)
    (hb : ∀ k ∈ o.body.entryNames, Continues k → S k) (l : Option String) :
    Property.Every (KeyIn S)
      (Bundle.languageProperty l ++ Property.ofEntries o.body.toPayload.entries) := by
  have hc : o.body.kind ≠ .custom := by
    obtain ⟨d, hd, ht⟩ := (made_of_overlay h).tagged
    exact (Body.kind_of_tag (hr d hd) ht.symm).1
  refine Property.every_iff.mpr fun p hm => ?_
  rcases List.mem_append.mp hm with hm | hm
  · cases l with
    | none => contradiction
    | some l =>
      obtain rfl := List.mem_singleton.mp hm
      exact ⟨⟨(by decide : "language" ≠ ""), nofun⟩, .nil⟩
  · rw [Property.ofEntries_eq_map] at hm
    obtain ⟨e, he, rfl⟩ := List.mem_map.mp hm
    obtain ⟨hv, ht⟩ := every_of_overlay hr h hp he
    refine ⟨keyIn_ofJson ?_, every_keyIn (every_and hv (every_of_entryNames hc hb e he))⟩
    rcases ht with ⟨shapes, sh, hs, hm⟩ | ⟨ho, q, hq, hqe⟩
    · exact nameIn_of_shapes hs hm _
    · rw [ho]
      exact ⟨hqe ▸ (hp.mem hq).1, nofun⟩

lemma forall₂_of_unnumbered {es : Entries Json} {ps : List Property}
    (h : Property.unnumberedList ps = Property.prunedList (Property.ofEntries es)) :
    List.Forall₂ (fun (p : Property) e => p.key = e.1 ∧
      p.value.unnumbered = (PropertyValue.ofJson e.2).pruned) ps es := by
  rw [Property.unnumberedList_eq_map, Property.prunedList_eq_map, Property.ofEntries_eq_map,
    List.map_map, ← List.forall₂_eq_eq_eq, List.forall₂_map_left_iff,
    List.forall₂_map_right_iff] at h
  refine h.imp fun p e hpe => ?_
  cases p
  simp only [Function.comp_apply, Property.unnumbered, Property.pruned, Property.mk.injEq,
    true_and] at hpe
  exact hpe

lemma isWritten_of_unnumbered {v : Json} (hv : v.Plain) {w : PropertyValue}
    (h : w.unnumbered = (PropertyValue.ofJson v).pruned) : v.IsWritten w := by
  induction hv generalizing w with
  | string s =>
    cases w <;> simp_all [PropertyValue.unnumbered, PropertyValue.pruned, PropertyValue.ofJson,
      Json.IsWritten]
  | texts ss =>
    rw [PropertyValue.ofJson_ofTexts] at h
    refine ⟨ss, rfl, ?_⟩
    cases w <;> simp_all [PropertyValue.unnumbered, PropertyValue.pruned]
  | object es hs hp ih =>
    cases es with
    | nil =>
      refine Or.inr ⟨rfl, ?_⟩
      cases w <;> simp_all [PropertyValue.unnumbered, PropertyValue.pruned, PropertyValue.ofJson,
        Property.ofEntries]
    | cons e es =>
      have hb : (PropertyValue.ofJson (.object (e :: es))).pruned =
          .block (Property.prunedList (Property.ofEntries (e :: es))) := rfl
      rw [hb] at h
      cases w with
      | block ps =>
        refine Or.inl ⟨ps, rfl, Json.areWritten_iff.mpr ?_⟩
        exact Outcome.forall₂_of_mem (forall₂_of_unnumbered (PropertyValue.block.inj h))
          fun p e he hpe => ⟨hpe.1, ih e he hpe.2⟩
      | _ => simp [PropertyValue.unnumbered] at h

variable {r : Registry} {o : Overlay}

lemma giveLanguage_of_unnumbered {l : Option String} {ps : List Property}
    (h : Property.unnumberedList ps = Property.prunedList (Bundle.languageProperty l)) :
    GiveLanguage l ps := by
  cases l with
  | none =>
    cases ps with
    | nil => rfl
    | cons p ps => simp [Bundle.languageProperty, Property.unnumberedList, Property.prunedList] at h
  | some l =>
    rw [Property.unnumberedList_eq_map] at h
    obtain ⟨⟨n, k, w⟩, rfl, hp⟩ := List.map_eq_singleton_iff.mp h
    simp only [Property.unnumbered, Property.pruned, PropertyValue.pruned, Property.mk.injEq,
      true_and] at hp
    obtain ⟨rfl, hw⟩ := hp
    cases w <;> simp [PropertyValue.unnumbered] at hw
    exact ⟨n, hw ▸ rfl⟩

lemma overlay_of_unnumbered (hr : r.Distinct) (hk : ∀ d ∈ r.definitions, d.kind ≠ .custom)
    (h : Made r o) {ps : List Property} (hp : Property.unnumberedList ps =
      Property.prunedList
        (Bundle.languageProperty o.language ++ Property.ofEntries o.body.toPayload.entries))
    (line : ℕ) : overlay r line (Bundle.commandName r o) ps = .ok o := by
  obtain ⟨d, hd, ht⟩ := commandName_of_made hr h
  have hc := hk d (Registry.mem_of_resolve hd)
  obtain ⟨hb, hbk⟩ := Body.kind_of_tag hc ht.symm
  rw [Property.prunedList_eq_map, List.map_append, Property.unnumberedList_eq_map,
    List.map_eq_append_iff] at hp
  obtain ⟨ls, qs, rfl, hl, hq⟩ := hp
  rw [← Property.unnumberedList_eq_map, ← Property.prunedList_eq_map] at hl hq
  refine (overlay_of_read hd ht h.writable.unreserved (giveLanguage_of_unnumbered hl) ?_).trans
    (congrArg _ h.eq_make.symm)
  refine Outcome.forall₂_of_mem (forall₂_of_unnumbered hq) fun p e he hpe => ⟨hpe.1, ?_⟩
  rw [← hbk]
  exact payloadValue_of_isWritten hb he hpe.1
    (isWritten_of_unnumbered (h.writable.plain e he) hpe.2)

end Assembly

end LayeredSchema

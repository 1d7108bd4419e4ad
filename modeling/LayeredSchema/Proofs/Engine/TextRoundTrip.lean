import LayeredSchema.Engine.Basic
import LayeredSchema.Proofs.Assembly.Rewritten
import LayeredSchema.Proofs.Ocafile.CutAttribute
import LayeredSchema.Proofs.Ocafile.CutKey

/-!
The text of a bundle that was built from a text: it builds the same bundle unless it has a line that
ends in a backslash of the bundle's own.
-/

namespace LayeredSchema

open Ocafile Assembly

def Bundle.entryNames (b : Bundle) : List String := b.overlays.flatMap (·.body.entryNames)

/-- A bundle in whose text no line ends in a backslash that belongs to a type or a key. -/
structure Bundle.IsRewritable (b : Bundle) : Prop where
  last : ∀ a, b.captureBase.attributes.entries.getLast? = some a →
    a.2.text.toList.getLast? ≠ some '\\'
  entries : ∀ k ∈ b.entryNames, ¬Continues k

namespace Registry

lemma builtin_kind : ∀ d ∈ builtin.definitions, d.kind ≠ .custom := by
  decide +kernel

lemma builtin_writableName : ∀ d ∈ builtin.definitions, WritableName d.name := by
  have h : ∀ d ∈ builtin.definitions, d.name ≠ "" ∧ Text.trim d.name.toList = d.name.toList ∧
      '\n' ∉ d.name.toList ∧ d.name.toList.head? ≠ some '"' ∧
      d.name.toList.getLast? ≠ some '\\' := by decide +kernel
  intro d hd
  obtain ⟨h₁, h₂, h₃, h₄, h₅⟩ := h d hd
  exact ⟨h₁, h₂, h₃, h₄, h₅⟩

end Registry

namespace Engine

variable {r : Registry} {text : String} {f g : Ocafile} {b : Bundle} {c : CaptureBase} {a : Action}

def baseActions (c : CaptureBase) : List Action :=
  Bundle.classificationActions c ++ Bundle.attributeActions c

lemma toOcafile_eq : b.toOcafile r = ⟨b.name, (baseActions b.captureBase).map (Command.mk 0) ++
    (b.overlays.map (Bundle.overlayAction r)).map (Command.mk 0)⟩ := by
  rw [Bundle.toOcafile, List.map_append]
  rfl

lemma eq_of_mem_classificationActions (h : a ∈ Bundle.classificationActions c) :
    a = .classification c.classification := by
  unfold Bundle.classificationActions at h
  split at h
  · contradiction
  · exact List.mem_singleton.mp h

lemma mem_baseActions (h : a ∈ baseActions c) : a = .classification c.classification ∨
    (a = .attributes c.attributes.entries ∧ c.attributes.entries ≠ []) := by
  rcases List.mem_append.mp h with h | h
  · exact Or.inl (eq_of_mem_classificationActions h)
  · unfold Bundle.attributeActions at h
    split at h
    · contradiction
    · rename_i hn
      exact Or.inr ⟨List.mem_singleton.mp h, by simpa using hn⟩

lemma ne_overlay_of_mem_baseActions (h : a ∈ baseActions c) (name : String) (ps : List Property) :
    a ≠ .overlay name ps := by
  rcases mem_baseActions h with rfl | ⟨rfl, -⟩ <;> nofun

lemma action_of_unnumbered {cs : List Command} {as : List Action}
    (ha : ∀ a ∈ as, ∀ name ps, a ≠ .overlay name ps)
    (h : cs.map (·.action.unnumbered) = as.map Action.pruned) : cs.map (·.action) = as := by
  rw [← List.forall₂_eq_eq_eq, List.forall₂_map_left_iff, List.forall₂_map_right_iff] at h
  rw [← List.forall₂_eq_eq_eq, List.forall₂_map_left_iff]
  refine Outcome.forall₂_of_mem h fun c a hm he => ?_
  have hn := ha a hm
  cases a with
  | overlay name ps => exact absurd rfl (hn name ps)
  | _ => cases hc : c.action <;> simp_all [Action.unnumbered, Action.pruned]

lemma assemble_of_actions (hr : r.Distinct) (hk : ∀ d ∈ r.definitions, d.kind ≠ .custom)
    (h : LayeredSchema.assemble r f = .ok b) (hn : g.name = b.name)
    (hg : g.actions = (b.toOcafile r).commands.map (·.action.pruned)) :
    LayeredSchema.assemble r g = .ok b := by
  obtain ⟨d, rfl, hm⟩ := made_of_assemble h
  obtain ⟨name, commands⟩ := g
  obtain rfl : name = f.name := hn
  simp only [actions, Bundle.toOcafile, List.map_map, Function.comp_def, List.map_append,
    List.map_eq_append_iff] at hg
  obtain ⟨_, ls, rfl, ⟨cs, as, rfl, hc, ha⟩, hl⟩ := hg
  refine assemble_of_written (action_of_unnumbered ?_ hc) (action_of_unnumbered ?_ ha) ?_
  · exact fun a ha => ne_overlay_of_mem_baseActions (List.mem_append_left _ ha)
  · exact fun a ha => ne_overlay_of_mem_baseActions (List.mem_append_right _ ha)
  · simp only [Bundle.make, List.map_map] at hl
    rw [← List.forall₂_eq_eq_eq, List.forall₂_map_left_iff, List.forall₂_map_right_iff] at hl
    refine Outcome.forall₂_of_mem hl fun c o ho he => ?_
    change c.action.unnumbered = (Bundle.overlayAction r o).pruned at he
    cases hc : c.action with
    | overlay name ps =>
      rw [hc] at he
      obtain ⟨rfl, hp⟩ := Action.overlay.inj he
      exact ⟨_, ps, rfl, overlay_of_unnumbered hr hk (hm o ho) hp c.line⟩
    | _ =>
      rw [hc] at he
      contradiction

lemma writableAttribute_of_assemble (hf : parse text = .ok f)
    (h : LayeredSchema.assemble r f = .ok b) :
    ∀ a ∈ b.captureBase.attributes.entries, WritableAttribute a := by
  obtain ⟨d, rfl, ho⟩ := origin_of_assemble h
  intro a ha
  obtain ⟨c, hc, as, hca, ham⟩ := ho.attributes a ha
  have hr := readable_of_parse hf c hc
  rw [hca] at hr
  exact hr.2 a ham

lemma overlayCommand_of_assemble {S : String → Prop} (hf : parse text = .ok f)
    (h : LayeredSchema.assemble .builtin f = .ok b) (hS : ∀ k ∈ b.entryNames, Continues k → S k) :
    ∀ o ∈ b.overlays, OverlayCommand S (Bundle.overlayAction .builtin o) := by
  obtain ⟨d, rfl, ho⟩ := origin_of_assemble h
  intro o hbo
  have hk : ∀ k ∈ o.body.entryNames, Continues k → S k := fun k hk =>
    hS k (List.mem_flatMap.mpr ⟨o, hbo, hk⟩)
  obtain ⟨o, hm, rfl⟩ := List.mem_map.mp hbo
  obtain ⟨c, hc, name, ps, hca, hov⟩ := ho.overlays o hm
  obtain ⟨e, he, hn, -⟩ := commandName_eq_name (made_of_overlay hov)
  have hr := readable_of_parse hf c hc
  rw [hca] at hr
  refine ⟨_, _, rfl, ?_, every_keyIn_of_overlay Registry.builtin_kind hov hr hk o.language⟩
  exact hn ▸ Registry.builtin_writableName e he

lemma writable_of_mem_baseActions {P : String → PropertyValue → Prop}
    (hw : ∀ a ∈ c.attributes.entries, WritableAttribute a)
    (hl : ∀ a, c.attributes.entries.getLast? = some a → a.2.text.toList.getLast? ≠ some '\\') :
    ∀ a ∈ baseActions c, Writable P a := by
  intro a ha
  rcases mem_baseActions ha with rfl | ⟨rfl, hn⟩
  · trivial
  · exact ⟨hn, hw, hl⟩

lemma writable_toOcafile (hf : parse text = .ok f) (h : LayeredSchema.assemble .builtin f = .ok b)
    (hb : b.IsRewritable) :
    ∀ c ∈ (b.toOcafile .builtin).commands, Writable KeyReads c.action := by
  intro c hc
  obtain ⟨a, ha, rfl⟩ := List.mem_map.mp hc
  rcases List.mem_append.mp ha with ha | ha
  · exact writable_of_mem_baseActions (writableAttribute_of_assemble hf h) hb.last a ha
  · obtain ⟨o, ho, rfl⟩ := List.mem_map.mp ha
    obtain ⟨s, ps, he, hw⟩ := overlayCommand_of_assemble hf h hb.entries o ho
    exact he ▸ hw

lemma exists_parse_ocafileText (hf : parse text = .ok f)
    (h : LayeredSchema.assemble .builtin f = .ok b) (hb : b.IsRewritable) :
    ∃ g, parse (b.ocafileText .builtin) = .ok g ∧ LayeredSchema.assemble .builtin g = .ok b := by
  obtain ⟨g, hg, hn, ha⟩ := parse_text_pruned (writable_toOcafile hf h hb)
  exact ⟨g, hg, assemble_of_actions Registry.distinct_builtin Registry.builtin_kind h hn ha⟩

lemma sound_of_baseActions {P : String → PropertyValue → Prop} {p q : Ocafile.Progress}
    (hq : p.close = .ok q) (hw : ∀ a ∈ c.attributes.entries, WritableAttribute a)
    (hc : q.commands.map (·.action) = baseActions c) : Sound P p := by
  refine sound_of_close hq fun d hd => ?_
  have hm : d.action ∈ baseActions c := hc ▸ List.mem_map_of_mem hd
  refine ⟨?_, ne_overlay_of_mem_baseActions hm⟩
  rcases mem_baseActions hm with ha | ⟨ha, hn⟩
  · exact ha ▸ trivial
  · exact ha ▸ ⟨hn, hw⟩

section Rebuilt

variable (hf : parse text = .ok f) (h : LayeredSchema.assemble .builtin f = .ok b)
  (hg : parse (b.ocafileText .builtin) = .ok g) (hb : LayeredSchema.assemble .builtin g = .ok b)
include hf h hg hb

lemma last_of_rebuilt : ∀ a, b.captureBase.attributes.entries.getLast? = some a →
    a.2.text.toList.getLast? ≠ some '\\' := by
  intro a ha hl
  obtain ⟨bs, hbs⟩ := List.getLast?_eq_some_iff.mp ha
  have hw := writableAttribute_of_assemble hf h
  rw [hbs] at hw
  obtain ⟨p, q, hp, hq, rfl⟩ := parse_text_ok_iff.mp hg
  have hc : b.toOcafile .builtin = ⟨b.name,
      (Bundle.classificationActions b.captureBase).map (fun a => ⟨0, a⟩) ++
        ⟨0, .attributes (bs ++ [a])⟩ ::
          (b.overlays.map (Bundle.overlayAction .builtin)).map fun a => ⟨0, a⟩⟩ := by
    simp [Bundle.toOcafile, Bundle.attributeActions, hbs]
  have hcw : ∀ c ∈ (Bundle.classificationActions b.captureBase).map (Command.mk 0),
      Writable KeyReads c.action := by
    intro c hc
    obtain ⟨a, ha, rfl⟩ := List.mem_map.mp hc
    exact eq_of_mem_classificationActions ha ▸ trivial
  obtain ⟨m, s, ⟨s', hs, -⟩, hr⟩ := readFrom_chars b.name _ hcw
  rw [hc] at hp
  obtain ⟨d, hd, as, type, hda, hm, hn⟩ := attributes_of_readFrom hs
    (fun c hc => hw c (List.mem_append_left _ hc)) (hw a (by simp)) hl (hr.symm.trans hp)
  -- the attribute came back with another type, but attributes have distinct names
  have he := attributes_of_assemble hb (commands_of_close hq hd) hda hm
  have hn' := b.captureBase.attributes.nodup
  have ha' : (a.1, a.2) ∈ b.captureBase.attributes.entries := List.mem_of_getLast? ha
  exact hn (Option.some.inj
    ((Entries.get?_of_mem hn' he).symm.trans (Entries.get?_of_mem hn' ha')))

lemma entries_of_rebuilt : ∀ k ∈ b.entryNames, ¬Continues k := by
  refine not_continues_of_append fun k hk hck => ?_
  obtain ⟨p, q, hp, hq, rfl⟩ := parse_text_ok_iff.mp hg
  have hw : ∀ c ∈ (baseActions b.captureBase).map (Command.mk 0), Writable KeyReads c.action :=
    List.forall_mem_map.mpr (writable_of_mem_baseActions (writableAttribute_of_assemble hf h)
      (last_of_rebuilt hf h hg hb))
  have ho : ∀ c ∈ (b.overlays.map (Bundle.overlayAction .builtin)).map (Command.mk 0),
      OverlayCommand (· ∈ b.entryNames) c.action :=
    List.forall_mem_map.mpr (List.forall_mem_map.mpr
      (overlayCommand_of_assemble hf h fun k hk _ => hk))
  obtain ⟨m, s, ⟨s', hs, -, -, ha⟩, hr⟩ := readFrom_chars b.name _ hw
  rw [toOcafile_eq, hr] at hp
  rw [List.map_map] at ha
  have ha := action_of_unnumbered (fun a => ne_overlay_of_mem_baseActions) ha
  have hq := (sound_of_readFrom ho
    (sound_of_baseActions hs (writableAttribute_of_assemble hf h) ha) hp).close hq
  obtain ⟨o, hbo, hko⟩ := List.mem_flatMap.mp hk
  obtain ⟨d, hd, hor⟩ := origin_of_assemble hb
  rw [hd] at hbo
  obtain ⟨o, hm, rfl⟩ := List.mem_map.mp hbo
  obtain ⟨c, hc, name, ps, hca, hov⟩ := hor.overlays o hm
  have hps := hq.commands c hc
  rw [hca] at hps
  have hkd : Keyed (fun k alone => alone = true → Continues k → k ++ "\\" ∈ b.entryNames) ps := by
    refine hps.mono fun k v hkv hv => hkv ?_
    cases v <;> first | rfl | contradiction
  exact forall_mem_entryNames
    (fun e he => (every_of_overlay Registry.builtin_kind hov hkd he).1) k hko hck

end Rebuilt

lemma build_ok_iff {e : Engine} : e.build text = .ok b ↔
    ∃ f, parse text = .ok f ∧ LayeredSchema.assemble e.registry f = .ok b := by
  simp only [build, Outcome.bind_ok_iff, Engine.assemble, Outcome.mapError_ok_iff]

/-- Building undoes writing exactly on the bundles in whose text no line ends in a backslash of the
bundle's own. -/
theorem build_ocafileText_iff (h : build {} text = .ok b) :
    build {} (ocafileText {} b) = .ok b ↔ b.IsRewritable := by
  obtain ⟨f, hf, h⟩ := build_ok_iff.mp h
  rw [build_ok_iff]
  constructor
  · rintro ⟨g, hg, hb⟩
    exact ⟨last_of_rebuilt hf h hg hb, entries_of_rebuilt hf h hg hb⟩
  · exact exists_parse_ocafileText hf h

theorem build_ocafileText_backslash :
    (∃ b, build {} "ADD ATTRIBUTE a=refn:x\\\\" = .ok b ∧ build {} (ocafileText {} b) ≠ .ok b) ∧
      ∃ b, build {} "ADD ATTRIBUTE a=refn:\\x" = .ok b ∧ build {} (ocafileText {} b) = .ok b := by
  have hbad : (build {} "ADD ATTRIBUTE a=refn:x\\\\").map
      (fun b => (b.captureBase.attributes.entries, b.overlays.length)) =
        .ok ([("a", .reference (.name "x\\"))], 0) := by decide +kernel
  have hgood : (build {} "ADD ATTRIBUTE a=refn:\\x").map
      (fun b => (b.captureBase.attributes.entries, b.overlays.length)) =
        .ok ([("a", .reference (.name "\\x"))], 0) := by decide +kernel
  obtain ⟨b, hb, he⟩ := Outcome.map_ok_iff.mp hbad
  obtain ⟨c, hc, hf⟩ := Outcome.map_ok_iff.mp hgood
  obtain ⟨he, -⟩ := Prod.mk.inj he
  obtain ⟨hf, hn⟩ := Prod.mk.inj hf
  refine ⟨⟨b, hb, fun h => ?_⟩, c, hc, (build_ocafileText_iff hc).mpr ⟨?_, ?_⟩⟩
  · exact ((build_ocafileText_iff hb).mp h).last _ (by rw [he]; rfl) (by decide)
  · intro a ha
    rw [hf] at ha
    exact Option.some.inj ha ▸ (by decide)
  · simp [Bundle.entryNames, List.length_eq_zero_iff.mp hn]

end Engine

end LayeredSchema

import LayeredSchema.Proofs.Assembly.Meaning
import Mathlib

/-!
What an overlay keeps of the properties of its command, and which commands fail for a key that is
given twice.
-/

namespace LayeredSchema

namespace PropertyValue

/-- Some block within a value that is no list of keys alone gives a key twice. -/
inductive Repeats : PropertyValue → Prop
  | here {ps : List Property} (twice : ¬(ps.map Property.key).Nodup)
      (keyed : ¬∀ p ∈ ps, p.value = .bare) : Repeats (.block ps)
  | inside {ps : List Property} {p : Property} (hp : p ∈ ps) (h : Repeats p.value) :
      Repeats (.block ps)

/-- Whether a payload value has what a property value says. A key alone is an empty block. A list
has the same members, a list of keys alone is a list of these, and any other block is an object with
the same keys, which has what those of the properties say that `K` picks from the block. -/
inductive Kept (K : List Property → Property → Prop) : PropertyValue → Json → Prop
  | text (s : String) : Kept K (.text s) (.string s)
  | list {items ss : List String} (h : ∀ s, s ∈ ss ↔ s ∈ items) : Kept K (.list items) (.ofTexts ss)
  | keys {w : PropertyValue} {ss : List String} (hw : w.isAlone = true)
      (alone : ∀ p ∈ w.inner, p.value = .bare) (h : ∀ s, s ∈ ss ↔ s ∈ w.inner.map Property.key) :
      Kept K w (.ofTexts ss)
  | block {w : PropertyValue} {es : Entries Json} (hw : w.isAlone = true)
      (names : ∀ k, k ∈ es.names ↔ k ∈ w.inner.map Property.key)
      (values : ∀ p v, p ∈ w.inner → K w.inner p → es.get? p.key = some v → Kept K p.value v) :
      Kept K w (.object es)

abbrev Whole : PropertyValue → Json → Prop := Kept fun _ _ => True

variable {K : List Property → Property → Prop} {w : PropertyValue} {v : Json}

lemma Kept.eq_string {s : String} (h : Kept K (.text s) v) : v = .string s := by
  cases h with
  | text => rfl
  | keys hw | block hw => contradiction

lemma eq_block_of_mem_inner {p : Property} (hp : p ∈ w.inner) : w = .block w.inner := by
  cases w with
  | block ps => rfl
  | _ => contradiction

lemma Kept.whole (h : w.Kept Property.IsLast v) (hr : ¬w.Repeats) : w.Whole v := by
  induction h with
  | text s => exact .text s
  | list h => exact .list h
  | keys hw alone h => exact .keys hw alone h
  | @block w es hw names values ih =>
    refine .block hw names fun p v hp _ hg => ?_
    have hi (q : Property) (hq : q ∈ w.inner) : ¬q.value.Repeats := by
      rw [eq_block_of_mem_inner hq] at hr
      exact fun h => hr (.inside hq h)
    by_cases ha : ∀ p ∈ w.inner, p.value = .bare
    -- in a list of keys alone the last property under a key has the same value as any other
    · obtain ⟨q, hl, hk⟩ := Property.exists_isLast (List.mem_map_of_mem hp)
      have := ih q v hl.mem hl (hk ▸ hg) (hi q hl.mem)
      rwa [ha q hl.mem, ← ha p hp] at this
    · have hn : (w.inner.map Property.key).Nodup := by
        by_contra hn
        rw [eq_block_of_mem_inner hp] at hr
        exact hr (.here hn ha)
      exact ih p v hp (Property.isLast_of_nodup hn hp) hg (hi p hp)

variable {k : Kind}

lemma Stands.kept (h : w.Stands k v) : w.Kept Property.IsLast v := by
  induction h with
  | text s => exact .text s
  | list items => exact .list fun _ => Iff.rfl
  | keys hw _ alone => exact .keys hw alone fun _ => Iff.rfl
  | block hw _ _ _ names _ ih => exact .block hw names fun p v _ hl hg => ih p v hl hg

lemma Stands.not_repeats (hk : k ≠ .custom) (h : w.Stands k v) : ¬w.Repeats := by
  induction h with
  | text s | list items => rintro ⟨⟩
  | keys hw _ alone =>
    rintro (⟨-, keyed⟩ | ⟨hp, hr⟩)
    · exact keyed alone
    · rw [alone _ hp] at hr
      contradiction
  | block hw _ distinct _ names _ ih =>
    rintro (⟨twice, -⟩ | ⟨hp, hr⟩)
    · exact twice (distinct hk)
    · obtain ⟨u, hu⟩ := Entries.mem_names_iff.mp ((names _).mpr (List.mem_map_of_mem hp))
      exact ih _ u (Property.isLast_of_nodup (distinct hk) hp) hu hr

end PropertyValue

namespace Assembly

open PropertyValue (Kept Repeats Whole)

variable {ctx : Context} {p : Property}

lemma plain_of_read {kind : Kind} {ps : List Property} {s : Progress}
    (h : ps.foldlM (Progress.read ctx kind) {} = .ok s) : ∀ e ∈ s.payload.entries, e.2.Plain := by
  intro e he
  obtain ⟨q, -, -, hv⟩ := property_of_read h e he
  exact (payloadValue_ok_iff.mp hv).1.plain

def Progress.Has (ctx : Context) (kind : Kind) (s : Progress) (p : Property) : Prop :=
  (p.key = "language" ∧ ∃ l, p.value = .text l ∧ s.language = some l) ∨
    (p.key ∉ Overlay.reservedKeys ∧
      ∃ v, payloadValue ctx kind p = .ok v ∧ s.payload.get? p.key = some v)

lemma language_mem_reservedKeys : "language" ∈ Overlay.reservedKeys := by decide

lemma Progress.Has.exists_language {kind : Kind} {s : Progress} (h : s.Has ctx kind p)
    (hk : p.key = "language") : ∃ l, p.value = .text l ∧ s.language = some l := by
  rcases h with ⟨-, h⟩ | ⟨hr, -⟩
  · exact h
  · exact absurd (hk ▸ language_mem_reservedKeys) hr

lemma Progress.Has.exists_payload {kind : Kind} {s : Progress} (h : s.Has ctx kind p)
    (hk : p.key ≠ "language") :
    ∃ v, payloadValue ctx kind p = .ok v ∧ s.payload.get? p.key = some v := by
  rcases h with ⟨hl, -⟩ | ⟨-, h⟩
  · exact absurd hl hk
  · exact h

lemma Progress.Has.read {kind : Kind} {s t : Progress} {q : Property} (hq : s.Has ctx kind q)
    (h : s.read ctx kind p = .ok t) : q.key ≠ p.key ∧ t.Has ctx kind q := by
  rcases read_ok_iff.mp h with ⟨hp, hn, l, -, rfl⟩ | ⟨hp, hn, v, -, rfl⟩
  · rcases hq with ⟨-, l', -, hl'⟩ | ⟨hk, hv⟩
    · exact absurd (hn.symm.trans hl') nofun
    · refine ⟨fun he => hk ?_, Or.inr ⟨hk, hv⟩⟩
      rw [he, hp]
      exact language_mem_reservedKeys
  · have hn : s.payload.get? p.key = none := by
      rw [← Bool.not_eq_true, Table.contains, Entries.contains_iff] at hn
      exact Entries.get?_eq_none_iff.mpr hn
    rcases hq with ⟨hk, hl⟩ | ⟨hk, u, hu, hg⟩
    · refine ⟨fun he => hp ?_, Or.inl ⟨hk, hl⟩⟩
      rw [← he, hk]
      exact language_mem_reservedKeys
    · have hne : q.key ≠ p.key := by
        intro he
        rw [he, hn] at hg
        contradiction
      exact ⟨hne, Or.inr ⟨hk, u, hu, by rw [Table.get?_insert, if_neg hne.symm, hg]⟩⟩

lemma Progress.has_of_read {kind : Kind} {s t : Progress} (h : s.read ctx kind p = .ok t) :
    t.Has ctx kind p := by
  rcases read_ok_iff.mp h with ⟨hp, -, l, hl, rfl⟩ | ⟨hp, -, v, hv, rfl⟩
  · exact Or.inl ⟨hp, l, hl, rfl⟩
  · exact Or.inr ⟨hp, v, hv, by rw [Table.get?_insert, if_pos rfl]⟩

lemma has_of_foldlM_read {kind : Kind} {ps : List Property} {s : Progress}
    (h : ps.foldlM (Progress.read ctx kind) {} = .ok s) :
    (ps.map Property.key).Nodup ∧ ∀ p ∈ ps, s.Has ctx kind p := by
  induction ps using List.reverseRecOn generalizing s with
  | nil => simp
  -- the last property is read with all others in place
  | append_singleton ps p ih =>
    simp only [List.foldlM_append, List.foldlM_cons, List.foldlM_nil, Outcome.bind_ok_iff,
      Outcome.pure_ok_iff] at h
    obtain ⟨t, ht, _, hr, rfl⟩ := h
    obtain ⟨hd, hh⟩ := ih ht
    have hs : ∀ q ∈ ps, q.key ≠ p.key ∧ _ := fun q hq => (hh q hq).read hr
    constructor
    · rw [List.map_append, List.map_singleton, ← List.concat_eq_append, List.nodup_concat]
      refine ⟨fun hm => ?_, hd⟩
      obtain ⟨q, hq, hk⟩ := List.mem_map.mp hm
      exact (hs q hq).1 hk
    · intro q hq
      rcases List.mem_append.mp hq with hq | hq
      · exact (hs q hq).2
      · obtain rfl := List.mem_singleton.mp hq
        exact Progress.has_of_read hr

def Accepted (p : Property) : Prop :=
  (p.key = "language" ∧ ∃ l, p.value = .text l) ∨ p.key ∉ Overlay.reservedKeys

lemma language_of_foldlM_read {kind : Kind} {ps : List Property} {s : Progress}
    (h : ps.foldlM (Progress.read ctx kind) {} = .ok s) :
    s.language = none ∨ "language" ∈ ps.map Property.key := by
  refine Outcome.foldlM_preserves
    (fun s : Progress => s.language = none ∨ "language" ∈ ps.map Property.key) ?_ h (Or.inl rfl)
  intro s p t hp hs h
  rcases read_ok_iff.mp h with ⟨hk, -, -, -, rfl⟩ | ⟨-, -, -, -, rfl⟩
  · exact Or.inr (hk ▸ List.mem_map_of_mem hp)
  · exact hs

lemma exists_foldlM_read (ctx : Context) (kind : Kind) {ps : List Property}
    (hn : (ps.map Property.key).Nodup)
    (ha : ∀ p ∈ ps, (p.key = "language" ∧ ∃ l, p.value = .text l) ∨
      (p.key ∉ Overlay.reservedKeys ∧ ∃ v, payloadValue ctx kind p = .ok v)) :
    ∃ s, ps.foldlM (Progress.read ctx kind) {} = .ok s := by
  induction ps using List.reverseRecOn with
  | nil => exact ⟨{}, rfl⟩
  | append_singleton ps p ih =>
    rw [List.map_append, List.map_singleton, ← List.concat_eq_append, List.nodup_concat] at hn
    obtain ⟨s, hs⟩ := ih hn.2 fun q hq => ha q (List.mem_append_left _ hq)
    suffices ∃ t, s.read ctx kind p = .ok t by
      obtain ⟨t, ht⟩ := this
      refine ⟨t, ?_⟩
      simp only [List.foldlM_append, List.foldlM_cons, List.foldlM_nil, hs, Outcome.bind_ok_iff,
        Outcome.pure_ok_iff]
      exact ⟨s, rfl, t, ht, rfl⟩
    rcases ha p (by simp) with ⟨hk, l, hl⟩ | ⟨hk, v, hv⟩
    · have hln := (language_of_foldlM_read hs).resolve_right (hk ▸ hn.1)
      exact ⟨_, read_ok_iff.mpr (Or.inl ⟨hk, hln, l, hl, rfl⟩)⟩
    · have hc : s.payload.contains p.key = false := by
        rw [← Bool.not_eq_true, Table.contains, Entries.contains_iff]
        intro hm
        obtain ⟨e, he, hek⟩ := List.mem_map.mp hm
        obtain ⟨q, hq, hqe, -⟩ := property_of_read hs e he
        exact hn.1 (List.mem_map.mpr ⟨q, hq, hqe.trans hek⟩)
      exact ⟨_, read_ok_iff.mpr (Or.inr ⟨hk, hc, v, hv, rfl⟩)⟩

end Assembly

lemma PropertyValue.Kept.settled {K : List Property → Property → Prop} {w : PropertyValue}
    {v : Json} (h : w.Kept K v) (sh : Shape) : w.Kept K (sh.settled v) := by
  have hm (ss : List String) (s : String) : s ∈ ss.toFinset.sort ↔ s ∈ ss := by
    rw [Finset.mem_sort, List.mem_toFinset]
  cases sh with
  | list =>
    cases h with
    | text s => exact .text s
    | list h =>
      rw [Shape.settled_ofTexts]
      exact .list fun s => (hm _ s).trans (h s)
    | keys hw ha h =>
      rw [Shape.settled_ofTexts]
      exact .keys hw ha fun s => (hm _ s).trans (h s)
    | block hw hn hv => exact .block hw hn hv
  | _ => exact h

namespace Body

variable {tag key : String} {payload : Table Json} {b : Body} {v : Json}

lemma get?_toPayload (hp : ∀ e ∈ payload.entries, e.2.Plain) (h : ofPayload tag payload = .ok b)
    (hv : payload.get? key = some v) :
    b.toPayload.get? key = some v ∨ ∃ sh : Shape, b.toPayload.get? key = some (sh.settled v) := by
  rw [toPayload_ofPayload (fun e he => (hp e he).isNormal) h, completed]
  cases Kind.ofTag? tag with
  | none => exact Or.inl hv
  | some k =>
    dsimp only
    cases hs : k.shapes? with
    | none =>
      have hc : k.completed payload = payload := by simp only [Kind.completed, hs]
      exact Or.inl (by rw [hc, hv])
    | some shapes =>
      rw [Kind.get?_completed hs, hv]
      cases Entries.get? shapes key with
      | none => exact Or.inl rfl
      | some sh =>
        have := hp _ (Entries.mem_of_get? hv)
        refine Or.inr ⟨sh, ?_⟩
        cases this <;> rfl

end Body

namespace Assembly

open PropertyValue (Repeats Kept Whole)

lemma isOverlayTag_of_custom {d : Definition} (hk : d.kind = .custom) :
    Kind.isOverlayTag d.tag = true := by
  have ht : d.tag = Kind.customTag d.name d.version := by
    rw [Definition.tag, hk]
    rfl
  have hp : "overlay/".toList <+: d.tag.toList := by
    rw [ht, Kind.customTag, Kind.tagOf, String.toList_append, String.toList_append,
      String.toList_append, List.append_assoc, List.append_assoc]
    exact List.prefix_append _ _
  exact Text.isSome_dropStem?.mpr hp

section Overlay

variable {r : Registry} {d : Definition} {line : ℕ} {name : String} {ps : List Property}
  {o : Overlay} (hd : r.resolve name = some d)
include hd

lemma has_of_overlay (h : overlay r line name ps = .ok o) :
    (ps.map Property.key).Nodup ∧ ∃ s : Progress, (∀ p ∈ ps, s.Has ⟨d.name, line⟩ d.kind p) ∧
      (∀ e ∈ s.payload.entries, e.2.Plain) ∧ s.language = o.language ∧
        Body.ofPayload d.tag s.payload = .ok o.body := by
  obtain ⟨d', s, b, hd', hs, hb, rfl⟩ := overlay_ok_iff.mp h
  obtain rfl := Option.some.inj (hd.symm.trans hd')
  obtain ⟨hn, hh⟩ := has_of_foldlM_read hs
  exact ⟨hn, s, hh, plain_of_read hs, rfl, hb⟩

lemma exists_overlay_custom_iff (hk : d.kind = .custom) (ht : Kind.ofTag? d.tag = none) :
    (∃ o, overlay r line name ps = .ok o) ↔
      (ps.map Property.key).Nodup ∧ ∀ p ∈ ps, Accepted p := by
  constructor
  · rintro ⟨o, ho⟩
    obtain ⟨hn, s, hh, -⟩ := has_of_overlay hd ho
    refine ⟨hn, fun p hp => ?_⟩
    rcases hh p hp with ⟨hl, l, hv, -⟩ | ⟨hr, -⟩
    · exact Or.inl ⟨hl, l, hv⟩
    · exact Or.inr hr
  · rintro ⟨hn, ha⟩
    obtain ⟨s, hs⟩ := exists_foldlM_read ⟨d.name, line⟩ .custom hn fun p hp =>
      (ha p hp).imp_right fun hr => ⟨hr, _, payloadValue_custom p⟩
    have hi := isOverlayTag_of_custom hk
    have hb : Body.ofPayload d.tag s.payload = .ok (.custom ⟨d.tag, hi, ht⟩ s.payload) :=
      Body.ofPayload_of_customTag ⟨d.tag, hi, ht⟩
    rw [← hk] at hs
    exact ⟨_, overlay_ok_iff.mpr ⟨d, s, _, hd, hs, hb, rfl⟩⟩

/-- A command fails for a key that is given twice among its properties, and for one that is given
twice within a property, unless its kind is custom: such a kind asks nothing of what is within. If a
command succeeds, its overlay has every property, with at least the last property under each key of
each block, and with all of them where no key is given twice. -/
theorem overlay_keeps_properties :
    ((¬(ps.map Property.key).Nodup ∨ d.kind ≠ .custom ∧ ∃ p ∈ ps, p.value.Repeats) →
        ∃ e, overlay r line name ps = .error e) ∧
      (d.kind = .custom → Kind.ofTag? d.tag = none →
        ((∃ o, overlay r line name ps = .ok o) ↔
          (ps.map Property.key).Nodup ∧ ∀ p ∈ ps, Accepted p)) ∧
      ∀ o, overlay r line name ps = .ok o → ∀ p ∈ ps,
        (p.key = "language" ∧ ∃ l, p.value = .text l ∧ o.language = some l) ∨
          ∃ v, o.body.toPayload.get? p.key = some v ∧ p.value.Kept Property.IsLast v ∧
            (¬p.value.Repeats → p.value.Whole v) := by
  refine ⟨fun hr => ?_, exists_overlay_custom_iff hd, fun o ho p hp => ?_⟩
  · rw [Outcome.exists_error_iff]
    rintro ⟨o, ho⟩
    obtain ⟨hn, s, hh, -⟩ := has_of_overlay hd ho
    rcases hr with hr | ⟨hk, p, hp, hr⟩
    · exact hr hn
    · rcases hh p hp with ⟨-, l, hl, -⟩ | ⟨-, v, hv, -⟩
      · rw [hl] at hr
        contradiction
      · exact (payloadValue_ok_iff.mp hv).1.not_repeats hk hr
  · obtain ⟨-, s, hh, hpl, hl, hb⟩ := has_of_overlay hd ho
    rcases hh p hp with ⟨hk, l, hv, hs⟩ | ⟨-, v, hv, hg⟩
    · exact Or.inl ⟨hk, l, hv, hl ▸ hs⟩
    · have hv := (payloadValue_ok_iff.mp hv).1.kept
      rcases Body.get?_toPayload hpl hb hg with hw | ⟨sh, hw⟩
      · exact Or.inr ⟨v, hw, hv, hv.whole⟩
      · exact Or.inr ⟨_, hw, hv.settled sh, (hv.settled sh).whole⟩

end Overlay

def notesDefinition : Definition := .custom "Extra" "1.0.0" false []

def notesRegistry : Registry := ⟨Registry.builtin.definitions ++ [notesDefinition]⟩

def notesTwice : List Property := [.mk 3 "a" (.text "1"), .mk 4 "a" (.text "2")]

lemma repeats_notesTwice : Repeats (.block notesTwice) :=
  .here (by decide) (by decide)

lemma not_whole_notesTwice (v : Json) : ¬Whole (.block notesTwice) v := by
  rintro (- | - | ⟨-, ha, -⟩ | ⟨-, hn, hv⟩)
  · exact absurd (ha _ List.mem_cons_self) (by decide)
  · rename_i es
    have ha : "a" ∈ es.names := (hn "a").mpr (by decide)
    cases hg : es.get? "a" with
    | none => exact Entries.get?_eq_none_iff.mp hg ha
    | some u =>
      have h₁ := (hv (.mk 3 "a" (.text "1")) u List.mem_cons_self trivial hg).eq_string
      have h₂ := (hv (.mk 4 "a" (.text "2")) u (by decide) trivial hg).eq_string
      exact absurd (h₁.symm.trans h₂) (by decide)

theorem overlay_keeps_properties_notes :
    (∃ o v, overlay notesRegistry 1 "Extra" [.mk 2 "notes" (.block notesTwice)] = .ok o ∧
        o.body.toPayload.get? "notes" = some v ∧ Kept Property.IsLast (.block notesTwice) v ∧
          ¬Whole (.block notesTwice) v) ∧
      ∃ e, overlay notesRegistry 1 "Label" [.mk 2 "attribute_labels" (.block notesTwice)] =
        .error e := by
  have hx : notesRegistry.resolve "Extra" = some notesDefinition := by decide
  have hl : notesRegistry.resolve "Label" = some (.builtin .label) := by decide
  constructor
  · obtain ⟨-, hs, hk⟩ := @overlay_keeps_properties notesRegistry notesDefinition 1 "Extra"
      [.mk 2 "notes" (.block notesTwice)] hx
    have ha : Accepted (.mk 2 "notes" (.block notesTwice)) := Or.inr (by decide)
    obtain ⟨o, ho⟩ := (hs rfl (by decide)).mpr ⟨by decide, by simpa using ha⟩
    rcases hk o ho _ List.mem_cons_self with ⟨hn, -⟩ | ⟨v, hv, hw, -⟩
    · exact absurd hn (by decide)
    · exact ⟨o, v, ho, hv, hw, not_whole_notesTwice v⟩
  · exact (overlay_keeps_properties hl).1
      (Or.inr ⟨by decide, _, List.mem_cons_self, repeats_notesTwice⟩)

end Assembly

end LayeredSchema

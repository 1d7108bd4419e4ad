import LayeredSchema.Proofs.Assembly.Decoding
import LayeredSchema.Proofs.Assembly.Rewritten

/-!
The order of lines in blocks: a built-in kind makes the same overlay of the properties of a command
in any order, at every depth.
-/

namespace LayeredSchema

/-- Blocks with the same properties in any order, at every depth. Line numbers do not count. -/
inductive Property.Reordered : List Property → List Property → Prop
  | nil : Reordered [] []
  | keep (m n : ℕ) (key : String) (value : PropertyValue) {ps qs : List Property}
      (tail : Reordered ps qs) : Reordered (.mk m key value :: ps) (.mk n key value :: qs)
  | inside (m n : ℕ) (key : String) {xs ys ps qs : List Property} (block : Reordered xs ys)
      (tail : Reordered ps qs) :
      Reordered (.mk m key (.block xs) :: ps) (.mk n key (.block ys) :: qs)
  | swap (p q : Property) (ps : List Property) : Reordered (p :: q :: ps) (q :: p :: ps)
  | trans {ps qs rs : List Property} (first : Reordered ps qs) (second : Reordered qs rs) :
      Reordered ps rs

namespace Property.Reordered

variable {ps qs : List Property}

lemma refl (ps : List Property) : Reordered ps ps := by
  induction ps with
  | nil => exact .nil
  | cons p ps ih =>
    obtain ⟨n, k, w⟩ := p
    exact .keep n n k w ih

lemma symm (h : Reordered ps qs) : Reordered qs ps := by
  induction h with
  | nil => exact .nil
  | keep m n k w _ ih => exact .keep n m k w ih
  | inside m n k _ _ hi ih => exact .inside n m k hi ih
  | swap p q ps => exact .swap q p ps
  | trans _ _ ih ih' => exact ih'.trans ih

lemma keys (h : Reordered ps qs) : (ps.map Property.key).Perm (qs.map Property.key) := by
  induction h with
  | nil => exact .nil
  | keep m n k w _ ih => exact ih.cons k
  | inside m n k _ _ _ ih => exact ih.cons k
  | swap p q ps => exact .swap q.key p.key _
  | trans _ _ ih ih' => exact ih.trans ih'

lemma unnumbered : (ps : List Property) → Reordered ps (unnumberedList ps)
  | [] => .nil
  | .mk n k (.block xs) :: ps => .inside n 0 k (unnumbered xs) (unnumbered ps)
  | .mk n k .bare :: ps => .keep n 0 k .bare (unnumbered ps)
  | .mk n k (.text s) :: ps => .keep n 0 k (.text s) (unnumbered ps)
  | .mk n k (.list ss) :: ps => .keep n 0 k (.list ss) (unnumbered ps)

end Property.Reordered

namespace Property

lemma key_unnumbered (p : Property) : p.unnumbered.key = p.key := by
  cases p
  rfl

lemma value_unnumbered (p : Property) : p.unnumbered.value = p.value.unnumbered := by
  cases p
  rfl

lemma map_key_unnumberedList (ps : List Property) :
    (unnumberedList ps).map key = ps.map key := by
  simp [unnumberedList_eq_map, key_unnumbered, Function.comp_def]

end Property

namespace PropertyValue

inductive Alike : PropertyValue → PropertyValue → Prop
  | same (w : PropertyValue) : Alike w w
  | block {ps qs : List Property} (h : Property.Reordered ps qs) : Alike (.block ps) (.block qs)

variable {w w' w'' : PropertyValue}

lemma Alike.eq (h : w.Alike w') (hw : ∀ ps, w ≠ .block ps) : w' = w := by
  cases h with
  | same => rfl
  | block => exact absurd rfl (hw _)

lemma Alike.trans (h : w.Alike w') (h' : w'.Alike w'') : w.Alike w'' := by
  cases h with
  | same => exact h'
  | block h =>
    cases h' with
    | same => exact .block h
    | block h' => exact .block (h.trans h')

lemma Alike.inner (h : w.Alike w') :
    w'.isAlone = w.isAlone ∧ Property.Reordered w.inner w'.inner := by
  cases h with
  | same w => exact ⟨rfl, .refl w.inner⟩
  | block h => exact ⟨rfl, h⟩

lemma alike_of_unnumbered (h : w.unnumbered = w'.unnumbered) : w.Alike w' := by
  cases w with
  | block ps =>
    cases w' with
    | block qs =>
      have hr := (Property.Reordered.unnumbered qs).symm
      rw [← block.inj h] at hr
      exact .block ((Property.Reordered.unnumbered ps).trans hr)
    | _ => contradiction
  | bare =>
    cases w' with
    | bare => exact .same _
    | _ => contradiction
  | text s =>
    cases w' with
    | text t => exact text.inj h ▸ .same _
    | _ => contradiction
  | list ss =>
    cases w' with
    | list ts => exact list.inj h ▸ .same _
    | _ => contradiction

lemma isBare_unnumbered (w : PropertyValue) : w.unnumbered.isBare = w.isBare := by
  cases w <;> rfl

end PropertyValue

lemma Property.Reordered.partner {ps qs : List Property} (h : Reordered ps qs) :
    ∀ q ∈ qs, ∃ p ∈ ps, p.key = q.key ∧ p.value.Alike q.value := by
  induction h with
  | nil => simp
  | keep m n k w _ ih =>
    refine List.forall_mem_cons.mpr ⟨⟨_, List.mem_cons_self, rfl, .same w⟩, fun q hq => ?_⟩
    obtain ⟨p, hp, hpq⟩ := ih q hq
    exact ⟨p, List.mem_cons_of_mem _ hp, hpq⟩
  | inside m n k hb _ _ ih =>
    refine List.forall_mem_cons.mpr ⟨⟨_, List.mem_cons_self, rfl, .block hb⟩, fun q hq => ?_⟩
    obtain ⟨p, hp, hpq⟩ := ih q hq
    exact ⟨p, List.mem_cons_of_mem _ hp, hpq⟩
  | swap p q ps => exact fun r hr => ⟨r, (List.Perm.swap q p ps).mem_iff.mpr hr, rfl, .same _⟩
  | trans _ _ ih ih' =>
    intro r hr
    obtain ⟨q, hq, hqr, hw'⟩ := ih' r hr
    obtain ⟨p, hp, hpq, hw⟩ := ih q hq
    exact ⟨p, hp, hpq.trans hqr, hw.trans hw'⟩

namespace Assembly

open PropertyValue (Alike)

variable {ctx ctx' : Context} {p q : Property} {v : Json}

lemma textValue_of_alike (hw : p.value.Alike q.value) (h : ctx.textValue p = .ok v) :
    ctx'.textValue q = .ok v := by
  obtain ⟨s, hs, rfl⟩ := textValue_ok_iff.mp h
  exact textValue_ok_iff.mpr ⟨s, (hw.eq (by simp [hs])).trans hs, rfl⟩

lemma list_of_alike (hw : p.value.Alike q.value) (h : (ctx.list p).map Json.ofTexts = .ok v) :
    (ctx'.list q).map Json.ofTexts = .ok v := by
  obtain ⟨ss, hs, rfl⟩ := list_ok_iff.mp h
  exact list_ok_iff.mpr ⟨ss, (hw.eq (by simp [hs])).trans hs, rfl⟩

lemma Collected.reordered {value value' : Property → Except Error Json}
    (hv : ∀ p q u, p.value.Alike q.value → value p = .ok u → value' q = .ok u)
    {ps qs : List Property} (hr : Property.Reordered ps qs) {es : Entries Json}
    (h : Collected value ps es) : Collected value' qs es where
  sorted := h.sorted
  distinct := hr.keys.nodup_iff.mp h.distinct
  names k := (h.names k).trans hr.keys.mem_iff
  given q hq := by
    obtain ⟨p, hp, hk, hw⟩ := hr.partner q hq
    obtain ⟨u, hu, hg⟩ := h.given p hp
    exact ⟨u, hv p q u hw hu, hk ▸ hg⟩

lemma table_of_alike {value value' : Property → Except Error Json}
    (hv : ∀ p q u, p.value.Alike q.value → value p = .ok u → value' q = .ok u)
    (hw : p.value.Alike q.value) (h : ctx.table value p = .ok v) :
    ctx'.table value' q = .ok v := by
  obtain ⟨ha, es, rfl, hes⟩ := table_ok_iff.mp h
  obtain ⟨hi, hr⟩ := hw.inner
  exact table_ok_iff.mpr ⟨hi.trans ha, es, rfl, hes.reordered hv hr⟩

lemma shaped_of_alike (ctx' : Context) {sh : Shape} (hw : p.value.Alike q.value)
    (h : ctx.shaped p sh = .ok v) : ∃ u, ctx'.shaped q sh = .ok u ∧ sh.settled u = sh.settled v := by
  cases sh with
  | text => exact ⟨v, textValue_of_alike hw h, rfl⟩
  | textTable => exact ⟨v, table_of_alike (fun _ _ _ => textValue_of_alike) hw h, rfl⟩
  | textTableTable =>
    exact ⟨v, table_of_alike (fun _ _ _ => table_of_alike fun _ _ _ => textValue_of_alike) hw h, rfl⟩
  | listTable => exact ⟨v, table_of_alike (fun _ _ _ => list_of_alike) hw h, rfl⟩
  | list =>
    rcases shaped_list_ok_iff.mp h with ⟨items, hi, rfl⟩ | ⟨ha, hb, rfl⟩
    · have hq := (hw.eq (by simp [hi])).trans hi
      exact ⟨_, shaped_list_ok_iff.mpr (.inl ⟨items, hq, rfl⟩), rfl⟩
    · obtain ⟨hi, hr⟩ := hw.inner
      have hb' : ∀ r ∈ q.value.inner, r.value = .bare := by
        intro r hr'
        obtain ⟨s, hs, -, hw⟩ := hr.partner r hr'
        exact (hw.eq (by simp [hb s hs])).trans (hb s hs)
      refine ⟨_, shaped_list_ok_iff.mpr (.inr ⟨hi.trans ha, hb', rfl⟩), ?_⟩
      rw [Shape.settled_ofTexts, Shape.settled_ofTexts, List.toFinset_eq_of_perm _ _ hr.keys]

lemma payloadValue_of_alike {kind : Kind} (hk : kind ≠ .custom) (hpq : p.key = q.key)
    (hw : p.value.Alike q.value) (h : payloadValue ctx kind p = .ok v) :
    ∃ u, payloadValue ctx' kind q = .ok u ∧ kind.settled p.key u = kind.settled p.key v := by
  unfold payloadValue at h ⊢
  cases hs : kind.shapes? with
  | some shapes =>
    simp only [hs, ← hpq] at h ⊢
    split at h
    · rename_i sh hsh
      have hsh' : kind.shape? p.key = some sh := by rw [Kind.shape?, hs, Option.bind_some, hsh]
      obtain ⟨u, hu, he⟩ := shaped_of_alike ctx' hw h
      exact ⟨u, hu, by rw [Kind.settled_of_shape hsh', Kind.settled_of_shape hsh', he]⟩
    · simp [Context.unexpected] at h
  | none =>
    cases kind with
    | metadata => exact ⟨v, textValue_of_alike hw h, rfl⟩
    | custom => contradiction
    | _ => contradiction

structure Matches (kind : Kind) (p q : Property) : Prop where
  key : p.key = q.key
  text : ∀ s, p.value = .text s → q.value = .text s
  payload : ∀ (ctx ctx' : Context) v, payloadValue ctx kind p = .ok v →
    ∃ u, payloadValue ctx' kind q = .ok u ∧ kind.settled p.key u = kind.settled p.key v

lemma matches_of_alike {kind : Kind} (hk : kind ≠ .custom) (hpq : p.key = q.key)
    (hw : p.value.Alike q.value) : Matches kind p q where
  key := hpq
  text s hs := (hw.eq (by simp [hs])).trans hs
  payload _ _ _ := payloadValue_of_alike hk hpq hw

mutual

lemma customValue_unnumbered : (w : PropertyValue) → customValue w.unnumbered = customValue w
  | .bare | .text _ | .list _ => rfl
  | .block ps => by
    have he : (Property.unnumberedList ps).isEmpty = ps.isEmpty := by
      rw [Property.unnumberedList_eq_map, List.isEmpty_map]
    have hb : (Property.unnumberedList ps).all (·.value.isBare) = ps.all (·.value.isBare) := by
      simp [Property.unnumberedList_eq_map, Property.value_unnumbered,
        PropertyValue.isBare_unnumbered, Function.comp_def]
    rw [PropertyValue.unnumbered, customValue, customValue, he, hb,
      Property.map_key_unnumberedList, customEntries_unnumberedList ps]

lemma customEntries_unnumberedList :
    (ps : List Property) → customEntries (Property.unnumberedList ps) = customEntries ps
  | [] => rfl
  | .mk n k w :: ps => by
    rw [Property.unnumberedList, Property.unnumbered, customEntries, customEntries,
      customValue_unnumbered w, customEntries_unnumberedList ps]

end

lemma matches_of_unnumbered (kind : Kind) (h : p.unnumbered = q.unnumbered) :
    Matches kind p q := by
  have hk : p.key = q.key := by rw [← p.key_unnumbered, h, q.key_unnumbered]
  have hv : p.value.unnumbered = q.value.unnumbered := by
    rw [← p.value_unnumbered, h, q.value_unnumbered]
  have hw := PropertyValue.alike_of_unnumbered hv
  by_cases hc : kind = .custom
  · subst hc
    refine ⟨hk, fun s hs => (hw.eq (by simp [hs])).trans hs, fun _ _ v hpv => ⟨v, ?_, rfl⟩⟩
    rwa [payloadValue_custom, ← customValue_unnumbered, ← hv, customValue_unnumbered]
  · exact matches_of_alike hc hk hw

section Matched

variable {kind : Kind} {ps qs : List Property} {s t : Progress}
  (hm : ∀ q ∈ qs, ∃ p ∈ ps, Matches kind p q)
  (hs : ps.foldlM (Progress.read ctx kind) {} = .ok s)
include hm hs

lemma exists_read_of_matched (ctx' : Context)
    (hk : (ps.map Property.key).Perm (qs.map Property.key)) :
    ∃ t, qs.foldlM (Progress.read ctx' kind) {} = .ok t := by
  obtain ⟨hn, hh⟩ := has_of_foldlM_read hs
  refine exists_foldlM_read ctx' kind (hk.nodup_iff.mp hn) fun q hq => ?_
  obtain ⟨p, hp, hpq⟩ := hm q hq
  rw [← hpq.key]
  rcases hh p hp with ⟨hl, l, hv, -⟩ | ⟨hr, v, hv, -⟩
  · exact .inl ⟨hl, l, hpq.text l hv⟩
  · obtain ⟨u, hu, -⟩ := hpq.payload ctx ctx' v hv
    exact .inr ⟨hr, u, hu⟩

variable (hk : (ps.map Property.key).Perm (qs.map Property.key))
  (ht : qs.foldlM (Progress.read ctx' kind) {} = .ok t)
include hk ht

lemma language_of_matched : t.language = s.language := by
  by_cases hl : "language" ∈ qs.map Property.key
  · obtain ⟨q, hq, hql⟩ := List.mem_map.mp hl
    obtain ⟨p, hp, hpq⟩ := hm q hq
    obtain ⟨l, hv, hsl⟩ := ((has_of_foldlM_read hs).2 p hp).exists_language (hpq.key.trans hql)
    obtain ⟨m, hw, htl⟩ := ((has_of_foldlM_read ht).2 q hq).exists_language hql
    rw [hsl, htl, PropertyValue.text.inj ((hpq.text l hv).symm.trans hw)]
  · rw [(language_of_foldlM_read ht).resolve_right hl,
      (language_of_foldlM_read hs).resolve_right fun hm => hl (hk.mem_iff.mp hm)]

lemma payload_of_matched (key : String) :
    (t.payload.get? key).map (kind.settled key) = (s.payload.get? key).map (kind.settled key) := by
  by_cases hl : ∃ q ∈ qs, q.key = key ∧ key ≠ "language"
  · obtain ⟨q, hq, rfl, hl⟩ := hl
    obtain ⟨p, hp, hpq⟩ := hm q hq
    obtain ⟨v, hv, hsv⟩ := ((has_of_foldlM_read hs).2 p hp).exists_payload (hpq.key ▸ hl)
    obtain ⟨w, hw, htw⟩ := ((has_of_foldlM_read ht).2 q hq).exists_payload hl
    obtain ⟨u, hu, he⟩ := hpq.payload ctx ctx' v hv
    obtain rfl := Except.ok.inj (hu.symm.trans hw)
    rw [hpq.key] at hsv he
    rw [hsv, htw, Option.map_some, Option.map_some, he]
  · have hn : ∀ q ∈ qs, q.key = key → key = "language" := by simpa using hl
    have hn' : ∀ p ∈ ps, p.key = key → key = "language" := by
      intro p hp hpk
      obtain ⟨q, hq, hqk⟩ := List.mem_map.mp (hk.mem_iff.mp (List.mem_map_of_mem hp))
      exact hn q hq (hqk.trans hpk)
    rw [get?_eq_none_of_read ht hn, get?_eq_none_of_read hs hn']

end Matched

lemma overlay_of_matched {r : Registry} {d : Definition} {line : ℕ} {name : String}
    {ps qs : List Property} {o : Overlay} (hd : r.resolve name = some d)
    (hk : (ps.map Property.key).Perm (qs.map Property.key))
    (hm : ∀ q ∈ qs, ∃ p ∈ ps, Matches d.kind p q) (ho : overlay r line name ps = .ok o)
    (line' : ℕ) : overlay r line' name qs = .ok o := by
  obtain ⟨d', s, b, hd', hs, hb, rfl⟩ := overlay_ok_iff.mp ho
  obtain rfl := Option.some.inj (hd.symm.trans hd')
  obtain ⟨t, ht⟩ := exists_read_of_matched hm hs ⟨d.name, line'⟩ hk
  have hp := payload_of_matched hm hs hk ht
  refine overlay_ok_iff.mpr ⟨d, t, b, hd, ht, ?_, by rw [language_of_matched hm hs hk ht]⟩
  by_cases hc : d.kind = .custom
  -- a custom kind writes every value as it is, so the payloads are the same
  · have hi (key : String) : d.kind.settled key = id :=
      funext fun v => Kind.settled_of_ne (by simp [hc])
    simp only [hi, Option.map_id_apply] at hp
    rwa [Table.ext_get? hp]
  -- a built-in kind may have got a list in another order, but its body is the same
  · obtain ⟨c, hct, -⟩ := exists_ofPayload_of_read (fun h => absurd h hc) ht
    suffices b = c from this ▸ hct
    refine Body.ext_toPayload ?_ (Table.ext_get? fun key => ?_)
    · rw [Body.tag_of_ofPayload hb, Body.tag_of_ofPayload hct]
    · rw [get?_toPayload_of_read (fun h => absurd h hc) hs hb,
        get?_toPayload_of_read (fun h => absurd h hc) ht hct, hp key]

lemma overlay_of_reordered {r : Registry} {d : Definition} {line : ℕ} {name : String}
    {ps qs : List Property} {o : Overlay} (hd : r.resolve name = some d) (hk : d.kind ≠ .custom)
    (hr : Property.Reordered ps qs) (ho : overlay r line name ps = .ok o) (line' : ℕ) :
    overlay r line' name qs = .ok o := by
  refine overlay_of_matched hd hr.keys (fun q hq => ?_) ho line'
  obtain ⟨p, hp, hpq, hw⟩ := hr.partner q hq
  exact ⟨p, hp, matches_of_alike hk hpq hw⟩

lemma overlay_of_unnumberedList {r : Registry} {line : ℕ} {name : String} {ps qs : List Property}
    {o : Overlay} (h : Property.unnumberedList ps = Property.unnumberedList qs)
    (ho : overlay r line name ps = .ok o) (line' : ℕ) : overlay r line' name qs = .ok o := by
  obtain ⟨d, -, -, hd, -⟩ := overlay_ok_iff.mp ho
  have hk : ps.map Property.key = qs.map Property.key := by
    rw [← Property.map_key_unnumberedList, h, Property.map_key_unnumberedList]
  refine overlay_of_matched hd (.of_eq hk) (fun q hq => ?_) ho line'
  rw [Property.unnumberedList_eq_map, Property.unnumberedList_eq_map] at h
  obtain ⟨p, hp, hpq⟩ := List.mem_map.mp (h ▸ List.mem_map_of_mem hq)
  exact ⟨p, hp, matches_of_unnumbered d.kind hpq⟩

end Assembly

inductive Command.Reordered (r : Registry) : Command → Command → Prop
  | same {c c' : Command} (h : c.action.unnumbered = c'.action.unnumbered) : Reordered r c c'
  | overlay (m n : ℕ) {name : String} {d : Definition} (hd : r.resolve name = some d)
      (hk : d.kind ≠ .custom) {ps qs : List Property} (h : Property.Reordered ps qs) :
      Reordered r ⟨m, .overlay name ps⟩ ⟨n, .overlay name qs⟩

structure Ocafile.Reordered (r : Registry) (f g : Ocafile) : Prop where
  name : g.name = f.name
  commands : List.Forall₂ (Command.Reordered r) f.commands g.commands

namespace Assembly

variable {r : Registry}

lemma follow_of_unnumbered {d e : Draft} {c c' : Command}
    (h : c.action.unnumbered = c'.action.unnumbered) (hf : d.follow r c = .ok e) :
    d.follow r c' = .ok e := by
  rcases follow_ok_iff.mp hf with ⟨value, ha, hd, rfl⟩ | ⟨as, b, ha, hb, rfl⟩ |
    ⟨name, ps, o, ha, ho, rfl⟩
  · cases ha' : c'.action <;> simp [ha, ha', Action.unnumbered] at h
    exact follow_ok_iff.mpr (.inl ⟨value, h ▸ ha', hd, rfl⟩)
  · cases ha' : c'.action <;> simp [ha, ha', Action.unnumbered] at h
    have hb' : as.foldlM (declare c'.line) d.captureBase = .ok b :=
      foldlM_declare_ok_iff.mpr (foldlM_declare_ok_iff.mp hb)
    exact follow_ok_iff.mpr (.inr (.inl ⟨as, b, h ▸ ha', hb', rfl⟩))
  · cases ha' : c'.action <;> simp [ha, ha', Action.unnumbered] at h
    exact follow_ok_iff.mpr
      (.inr (.inr ⟨name, _, o, h.1 ▸ ha', overlay_of_unnumberedList h.2 ho _, rfl⟩))

lemma follow_of_reordered {d e : Draft} {c c' : Command} (h : c.Reordered r c')
    (hf : d.follow r c = .ok e) : d.follow r c' = .ok e := by
  cases h with
  | same h => exact follow_of_unnumbered h hf
  | overlay m n hd hk h =>
    rcases follow_ok_iff.mp hf with ⟨value, ha, -⟩ | ⟨as, b, ha, -⟩ | ⟨name, ps, o, ha, ho, rfl⟩
    · contradiction
    · contradiction
    · obtain ⟨rfl, rfl⟩ := Action.overlay.inj ha
      exact follow_ok_iff.mpr
        (.inr (.inr ⟨_, _, o, rfl, overlay_of_reordered hd hk h ho n, rfl⟩))

/-- A file makes the same bundle whatever the order of lines in the blocks of built-in kinds. -/
theorem assemble_reordered {f g : Ocafile} (h : f.Reordered r g) {b : Bundle}
    (hb : assemble r f = .ok b) : assemble r g = .ok b := by
  simp only [assemble, Outcome.bind_ok_iff, Outcome.pure_ok_iff] at hb ⊢
  obtain ⟨d, hd, rfl⟩ := hb
  refine ⟨d, ?_, by rw [h.name]⟩
  exact Outcome.foldlM_of_forall₂ (R := Command.Reordered r) (f := Draft.follow r)
    (g := Draft.follow r) (fun _ _ _ _ => follow_of_reordered) h.commands hd

def codesFile : Ocafile :=
  ⟨some "codes",
    [⟨1, .attributes [("sex", .primitive .text), ("visa", .primitive .text)]⟩,
      ⟨2, .overlay "Entry"
        [.mk 3 "language" (.text "en"),
          .mk 4 "attribute_entries"
            (.block [.mk 5 "sex" (.block [.mk 6 "M" (.text "male"), .mk 7 "F" (.text "female")]),
              .mk 8 "visa" .bare])]⟩,
      ⟨9, .overlay "Sensitive"
        [.mk 10 "attributes" (.block [.mk 11 "visa" .bare, .mk 12 "sex" .bare])]⟩]⟩

def codesFileReordered : Ocafile :=
  ⟨some "codes",
    [⟨1, .attributes [("sex", .primitive .text), ("visa", .primitive .text)]⟩,
      ⟨2, .overlay "Entry"
        [.mk 3 "attribute_entries"
            (.block [.mk 4 "visa" .bare,
              .mk 5 "sex" (.block [.mk 6 "F" (.text "female"), .mk 7 "M" (.text "male")])]),
          .mk 8 "language" (.text "en")]⟩,
      ⟨9, .overlay "Sensitive"
        [.mk 10 "attributes" (.block [.mk 11 "sex" .bare, .mk 12 "visa" .bare])]⟩]⟩

lemma codesFile_reordered : codesFile.Reordered .builtin codesFileReordered := by
  have he : Registry.builtin.resolve "Entry" = some (.builtin .entry) := by decide +kernel
  have hs : Registry.builtin.resolve "Sensitive" = some (.builtin .sensitive) := by decide +kernel
  have codes : Property.Reordered [.mk 6 "M" (.text "male"), .mk 7 "F" (.text "female")]
      [.mk 6 "F" (.text "female"), .mk 7 "M" (.text "male")] :=
    .trans (.swap _ _ []) (.keep 7 6 _ _ (.keep 6 7 _ _ .nil))
  refine ⟨rfl, .cons (.same rfl) (.cons (.overlay 2 2 he nofun ?_)
    (.cons (.overlay 9 9 hs nofun ?_) .nil))⟩
  · refine .trans (.swap _ _ []) (.inside 4 3 _ ?_ (.keep 3 8 _ _ .nil))
    exact .trans (.swap _ _ []) (.keep 8 4 _ _ (.inside 5 5 _ codes .nil))
  · exact .inside 10 10 _ (.trans (.swap _ _ []) (.keep 12 11 _ _ (.keep 11 12 _ _ .nil))) .nil

theorem assemble_reordered_codes : codesFile.Reordered .builtin codesFileReordered ∧
    codesFile ≠ codesFileReordered ∧
    ∃ b, assemble .builtin codesFile = .ok b ∧ assemble .builtin codesFileReordered = .ok b := by
  obtain ⟨b, hb⟩ : ∃ b, assemble .builtin codesFile = .ok b := ⟨_, rfl⟩
  exact ⟨codesFile_reordered, by decide, b, hb, assemble_reordered codesFile_reordered hb⟩

end Assembly

end LayeredSchema

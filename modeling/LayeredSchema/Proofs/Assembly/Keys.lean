import LayeredSchema.Proofs.Assembly.Overlays
import LayeredSchema.Proofs.Ocafile.Block
import Mathlib.Data.List.Induction

/-!
The keys within a payload: each comes from a property of the command, and a key of an object from a
property that stands alone on its line.
-/

namespace LayeredSchema

def PropertyValue.isAlone : PropertyValue → Bool
  | .bare | .block _ => true
  | _ => false

namespace Json

def isObject : Json → Bool
  | .object _ => true
  | _ => false

/-- Whether the names in an object satisfy a condition, at every depth of objects in objects. The
condition may ask more of the names of objects. -/
inductive Every (P : String → Bool → Prop) : Json → Prop
  | leaf {v : Json} (h : v.isObject = false) : Every P v
  | object {es : Entries Json} (names : ∀ e ∈ es, P e.1 e.2.isObject)
      (values : ∀ e ∈ es, Every P e.2) : Every P (.object es)

variable {P : String → Bool → Prop} {v : Json}

lemma Every.object_iff {es : Entries Json} :
    Every P (.object es) ↔ ∀ e ∈ es, P e.1 e.2.isObject ∧ Every P e.2 := by
  constructor
  · rintro (h | ⟨hn, hv⟩)
    · contradiction
    · exact fun e he => ⟨hn e he, hv e he⟩
  · exact fun h => .object (fun e he => (h e he).1) fun e he => (h e he).2

lemma entry_of_toTable {α : Type} {decode : Json → Except Fault α} {t : Table α}
    (h : toTable decode v = .ok t) :
    ∃ es, v = .object es ∧ ∀ e ∈ t.entries, ∃ f ∈ es, f.1 = e.1 ∧ decode f.2 = .ok e.2 := by
  simp only [toTable, Outcome.bind_ok_iff, Outcome.pure_ok_iff] at h
  obtain ⟨es, hv, bs, hbs, rfl⟩ := h
  cases v with
  | object entries =>
    obtain rfl := Except.ok.inj hv
    refine ⟨_, rfl, fun e he => ?_⟩
    obtain ⟨f, hf, hd⟩ := Outcome.exists_of_mem_mapM hbs (Entries.mem_of_mem_ofList he)
    obtain ⟨a, ha, hp⟩ := Outcome.bind_ok_iff.mp hd
    obtain rfl := Outcome.pure_ok_iff.mp hp
    exact ⟨f, hf, rfl, ha⟩
  | _ => contradiction

lemma every_of_toTable {α : Type} {decode : Json → Except Fault α} (encode : α → Json)
    (hd : ∀ v a, decode v = .ok a → Every P v →
      Every P (encode a) ∧ (encode a).isObject = v.isObject)
    {t : Table α} (h : toTable decode v = .ok t) (hv : Every P v) :
    Every P (.object (t.entries.map fun e => (e.1, encode e.2))) := by
  obtain ⟨es, rfl, ht⟩ := entry_of_toTable h
  rw [Every.object_iff] at hv ⊢
  intro _ hm
  obtain ⟨e, he, rfl⟩ := List.mem_map.mp hm
  obtain ⟨f, hf, hk, hf'⟩ := ht e he
  obtain ⟨hn, hu⟩ := hv f hf
  obtain ⟨hw, ho⟩ := hd f.2 e.2 hf' hu
  exact ⟨by simpa only [ho, ← hk] using hn, hw⟩

lemma every_ofTextTable {t : Table String} (h : toTable toText v = .ok t) (hv : Every P v) :
    Every P (ofTextTable t) := by
  refine every_of_toTable Json.string (fun u a hu _ => ?_) h hv
  cases u with
  | string s => exact ⟨.leaf rfl, rfl⟩
  | _ => contradiction

lemma every_lists {t : Table (List String)} (h : toTable toTexts v = .ok t) (hv : Every P v) :
    Every P (Body.lists t) := by
  refine every_of_toTable Json.ofTexts (fun u a hu _ => ⟨.leaf rfl, ?_⟩) h hv
  cases u with
  | array items => rfl
  | _ => contradiction

lemma every_tables {t : Table (Table String)} (h : toTable (toTable toText) v = .ok t)
    (hv : Every P v) : Every P (Body.tables t) := by
  refine every_of_toTable Json.ofTextTable (fun u a hu he => ⟨every_ofTextTable hu he, ?_⟩) h hv
  cases u with
  | object es => rfl
  | _ => contradiction

end Json

namespace Body

variable {P : String → Bool → Prop} {tag key : String} {payload : Table Json} {α : Type}

lemma take_ok {default a : α} {decode : Json → Except Json.Fault α}
    (h : take tag payload key default decode = .ok a) :
    a = default ∨ ∃ e ∈ payload.entries, decode e.2 = .ok a := by
  rw [take] at h
  split at h
  · exact Or.inl (Except.ok.inj h).symm
  · exact Or.inl (Except.ok.inj h).symm
  · rename_i v _ hv
    exact Or.inr ⟨_, Entries.mem_of_get? hv, Outcome.mapError_ok_iff.mp h⟩

lemma every_ofList {es : Entries Json} (h : ∀ e ∈ es, Json.Every P e.2) :
    ∀ e ∈ (Table.ofList es).entries, Json.Every P e.2 :=
  fun e he => h e (Entries.mem_of_mem_ofList he)

lemma every_optionalText (o : Option String) : ∀ e ∈ optionalText key o, Json.Every P e.2 := by
  cases o with
  | none => simp [optionalText]
  | some s => exact List.forall_mem_singleton.mpr (.leaf rfl)

section Every

variable (hp : ∀ e ∈ payload.entries, Json.Every P e.2)
include hp

lemma every_takeTexts {t : Table String} (h : takeTexts tag payload key = .ok t) :
    Json.Every P (Json.ofTextTable t) := by
  rcases take_ok h with rfl | ⟨e, he, hd⟩
  · exact Json.Every.object_iff.mpr fun e he => absurd he List.not_mem_nil
  · exact Json.every_ofTextTable hd (hp e he)

lemma every_takeLists {t : Table (List String)} (h : takeLists tag payload key = .ok t) :
    Json.Every P (lists t) := by
  rcases take_ok h with rfl | ⟨e, he, hd⟩
  · exact Json.Every.object_iff.mpr fun e he => absurd he List.not_mem_nil
  · exact Json.every_lists hd (hp e he)

lemma every_takeTables {t : Table (Table String)}
    (h : take tag payload key ∅ (Json.toTable (Json.toTable Json.toText)) = .ok t) :
    Json.Every P (tables t) := by
  rcases take_ok h with rfl | ⟨e, he, hd⟩
  · exact Json.Every.object_iff.mpr fun e he => absurd he List.not_mem_nil
  · exact Json.every_tables hd (hp e he)

lemma every_toPayload {k : Kind} {b : Body} (h : ofKind tag payload k = .ok b) :
    ∀ e ∈ b.toPayload.entries, Json.Every P e.2 := by
  cases k with
  | metadata =>
    rw [toPayload_of_metadata h]
    exact hp
  | custom => simp [ofKind] at h
  | entry =>
    simp only [ofKind, Outcome.bind_ok_iff, Outcome.pure_ok_iff] at h
    obtain ⟨t, ht, _, _, rfl⟩ := h
    exact every_ofList (List.forall_mem_singleton.mpr (every_takeTables hp ht))
  | entryCode | entryCodeMapping =>
    simp only [ofKind, Outcome.bind_ok_iff, Outcome.pure_ok_iff] at h
    obtain ⟨t, ht, _, _, rfl⟩ := h
    exact every_ofList (List.forall_mem_singleton.mpr (every_takeLists hp ht))
  | sensitive =>
    simp only [ofKind, Outcome.bind_ok_iff, Outcome.pure_ok_iff] at h
    obtain ⟨names, _, _, _, rfl⟩ := h
    exact every_ofList (List.forall_mem_singleton.mpr (.leaf rfl))
  | conditional =>
    simp only [ofKind, Outcome.bind_ok_iff, Outcome.pure_ok_iff] at h
    obtain ⟨s, hs, t, ht, _, _, rfl⟩ := h
    exact every_ofList (List.forall_mem_cons.mpr
      ⟨every_takeTexts hp hs, List.forall_mem_singleton.mpr (every_takeLists hp ht)⟩)
  | characterEncoding | unit | link =>
    simp only [ofKind, Outcome.bind_ok_iff, Outcome.pure_ok_iff] at h
    obtain ⟨o, _, t, ht, _, _, rfl⟩ := h
    exact every_ofList (List.forall_mem_append.mpr
      ⟨every_optionalText o, List.forall_mem_singleton.mpr (every_takeTexts hp ht)⟩)
  | _ =>
    simp only [ofKind, takeOnly, Outcome.bind_ok_iff, Outcome.pure_ok_iff] at h
    obtain ⟨t, ht, _, _, rfl⟩ := h
    exact every_ofList (List.forall_mem_singleton.mpr (every_takeTexts hp ht))

end Every

end Body

lemma Property.Every.mem {R : String → PropertyValue → Prop} {ps : List Property} (h : Every R ps)
    {p : Property} (hp : p ∈ ps) : R p.key p.value ∧ Every R p.value.inner := by
  induction h with
  | nil => contradiction
  | cons head inner _ _ ih =>
    rcases List.mem_cons.mp hp with rfl | hp
    · exact ⟨head, inner⟩
    · exact ih hp

namespace Assembly

variable {P : String → Bool → Prop} {ctx : Context} {p : Property} {v : Json}

def Keyed (P : String → Bool → Prop) : List Property → Prop :=
  Property.Every fun key value => P key value.isAlone

lemma children_ok_iff {ps : List Property} :
    ctx.children p = .ok ps ↔ p.value.isAlone = true ∧ p.value.inner = ps := by
  rw [Context.children]
  cases p.value <;>
    simp [Context.wrongShape, Context.invalid, PropertyValue.isAlone, PropertyValue.inner]

structure Collected (value : Property → Except Error Json) (ps : List Property)
    (es : Entries Json) : Prop where
  sorted : es.Sorted
  distinct : (ps.map Property.key).Nodup
  names : ∀ k, k ∈ es.names ↔ k ∈ ps.map Property.key
  given : ∀ p ∈ ps, ∃ v, value p = .ok v ∧ es.get? p.key = some v

lemma Collected.property {value : Property → Except Error Json} {ps : List Property}
    {es : Entries Json} (h : Collected value ps es) {e : String × Json} (he : e ∈ es) :
    ∃ q ∈ ps, q.key = e.1 ∧ value q = .ok e.2 := by
  obtain ⟨q, hq, hk⟩ := List.mem_map.mp ((h.names e.1).mp (List.mem_map_of_mem he))
  obtain ⟨u, hu, hg⟩ := h.given q hq
  rw [hk, Entries.get?_of_mem h.sorted.nodup_names he] at hg
  exact ⟨q, hq, hk, Option.some.inj hg ▸ hu⟩

lemma collected_of_foldlM {value : Property → Except Error Json} {inside : String}
    {ps : List Property} {es : Entries Json}
    (h : ps.foldlM (fun (es : Entries Json) child =>
      if es.contains child.key then ctx.invalid child (.duplicateKey inside)
      else return es.insert child.key (← value child)) [] = .ok es) : Collected value ps es := by
  induction ps using List.reverseRecOn generalizing es with
  | nil =>
    obtain rfl := Outcome.pure_ok_iff.mp h
    exact ⟨List.Pairwise.nil, List.nodup_nil, fun k => Iff.rfl, by simp⟩
  | append_singleton ps p ih =>
    simp only [List.foldlM_append, List.foldlM_cons, List.foldlM_nil, Outcome.bind_ok_iff,
      Outcome.pure_ok_iff] at h
    obtain ⟨fs, hf, _, h, rfl⟩ := h
    obtain ⟨hs, hd, hn, hg⟩ := ih hf
    split at h
    · simp [Context.invalid] at h
    · rename_i hc
      obtain ⟨u, hu, h⟩ := Outcome.bind_ok_iff.mp h
      obtain rfl := Outcome.pure_ok_iff.mp h
      rw [Entries.contains_iff, hn] at hc
      refine ⟨Entries.sorted_insert hs, ?_, fun k => ?_, fun q hq => ?_⟩
      · rw [List.map_append, List.map_singleton, ← List.concat_eq_append, List.nodup_concat]
        exact ⟨hc, hd⟩
      · rw [Entries.mem_names_insert, hn, List.map_append, List.mem_append, List.map_singleton,
          List.mem_singleton, or_comm]
      · rcases List.mem_append.mp hq with hq | hq
        · obtain ⟨v, hv, hgv⟩ := hg q hq
          have hne : p.key ≠ q.key := fun he => hc (he ▸ List.mem_map_of_mem hq)
          exact ⟨v, hv, by rw [Entries.get?_insert, if_neg hne, hgv]⟩
        · obtain rfl := List.mem_singleton.mp hq
          exact ⟨u, hu, by rw [Entries.get?_insert, if_pos rfl]⟩

lemma Collected.unique {value : Property → Except Error Json} {ps : List Property}
    {es fs : Entries Json} (h : Collected value ps es) (h' : Collected value ps fs) : es = fs := by
  refine h.sorted.eq_of_get?_eq h'.sorted fun k => ?_
  by_cases hk : k ∈ ps.map Property.key
  · obtain ⟨p, hp, rfl⟩ := List.mem_map.mp hk
    obtain ⟨u, hu, hg⟩ := h.given p hp
    obtain ⟨u', hu', hg'⟩ := h'.given p hp
    rw [hg, hg', Except.ok.inj (hu.symm.trans hu')]
  · rw [Entries.get?_eq_none_iff.mpr fun hm => hk ((h.names k).mp hm),
      Entries.get?_eq_none_iff.mpr fun hm => hk ((h'.names k).mp hm)]

lemma exists_foldlM_collect (ctx : Context) (inside : String)
    {value : Property → Except Error Json} {ps : List Property} (hd : (ps.map Property.key).Nodup)
    (hv : ∀ p ∈ ps, ∃ v, value p = .ok v) :
    ∃ es, ps.foldlM (fun (es : Entries Json) child =>
      if es.contains child.key then ctx.invalid child (.duplicateKey inside)
      else return es.insert child.key (← value child)) [] = .ok es := by
  induction ps using List.reverseRecOn with
  | nil => exact ⟨[], rfl⟩
  | append_singleton ps p ih =>
    rw [List.map_append, List.map_singleton, ← List.concat_eq_append, List.nodup_concat] at hd
    obtain ⟨es, hes⟩ := ih hd.2 fun q hq => hv q (List.mem_append_left _ hq)
    obtain ⟨u, hu⟩ := hv p (by simp)
    have hc : ¬es.contains p.key = true := by
      rw [Entries.contains_iff, (collected_of_foldlM hes).names]
      exact hd.1
    refine ⟨es.insert p.key u, ?_⟩
    simp only [List.foldlM_append, List.foldlM_cons, List.foldlM_nil, hes, hu, Outcome.bind_ok_iff]
    exact ⟨es, rfl, _, if_neg hc, rfl⟩

lemma table_ok_iff {value : Property → Except Error Json} : ctx.table value p = .ok v ↔
    p.value.isAlone = true ∧ ∃ es, v = .object es ∧ Collected value p.value.inner es := by
  simp only [Context.table, Outcome.bind_ok_iff, Outcome.pure_ok_iff]
  constructor
  · rintro ⟨ps, hps, es, hes, rfl⟩
    obtain ⟨ha, rfl⟩ := children_ok_iff.mp hps
    exact ⟨ha, es, rfl, collected_of_foldlM hes⟩
  · rintro ⟨ha, es, rfl, hc⟩
    obtain ⟨fs, hfs⟩ := exists_foldlM_collect ctx p.key hc.distinct
      fun q hq => (hc.given q hq).imp fun _ h => h.1
    exact ⟨_, children_ok_iff.mpr ⟨ha, rfl⟩, fs, hfs,
      congrArg Json.object ((collected_of_foldlM hfs).unique hc)⟩

lemma every_of_table {value : Property → Except Error Json}
    (hv : ∀ q u, value q = .ok u → Keyed P q.value.inner →
      Json.Every P u ∧ u.isObject = q.value.isAlone)
    (h : ctx.table value p = .ok v) (hp : Keyed P p.value.inner) :
    Json.Every P v ∧ v.isObject = p.value.isAlone := by
  obtain ⟨ha, es, rfl, hes⟩ := table_ok_iff.mp h
  refine ⟨Json.Every.object_iff.mpr fun e he => ?_, ha.symm⟩
  obtain ⟨q, hq, hk, hqe⟩ := hes.property he
  obtain ⟨hn, hi⟩ := hp.mem hq
  obtain ⟨hu, ho⟩ := hv q e.2 hqe hi
  exact ⟨by simpa only [ho, ← hk] using hn, hu⟩

lemma textValue_ok_iff : ctx.textValue p = .ok v ↔ ∃ s, p.value = .text s ∧ v = .string s := by
  rw [Context.textValue, Context.text]
  cases p.value <;> simp [Except.map, Context.wrongShape, Context.invalid, eq_comm]

lemma list_ok_iff :
    (ctx.list p).map Json.ofTexts = .ok v ↔ ∃ ss, p.value = .list ss ∧ v = .ofTexts ss := by
  rw [Context.list]
  cases p.value <;> simp [Except.map, Context.wrongShape, Context.invalid, eq_comm]

lemma every_of_textValue (h : ctx.textValue p = .ok v) :
    Json.Every P v ∧ v.isObject = p.value.isAlone := by
  obtain ⟨s, hs, rfl⟩ := textValue_ok_iff.mp h
  exact ⟨.leaf rfl, by rw [hs]; rfl⟩

lemma every_of_list (h : (ctx.list p).map Json.ofTexts = .ok v) :
    Json.Every P v ∧ v.isObject = p.value.isAlone := by
  obtain ⟨ss, hs, rfl⟩ := list_ok_iff.mp h
  exact ⟨.leaf rfl, by rw [hs]; rfl⟩

lemma every_of_shaped {sh : Shape} (h : ctx.shaped p sh = .ok v) (hp : Keyed P p.value.inner) :
    Json.Every P v := by
  cases sh with
  | text => exact (every_of_textValue h).1
  | textTable => exact (every_of_table (fun _ _ hq _ => every_of_textValue hq) h hp).1
  | textTableTable =>
    exact (every_of_table
      (fun _ _ hq => every_of_table (fun _ _ hq _ => every_of_textValue hq) hq) h hp).1
  | listTable => exact (every_of_table (fun _ _ hq _ => every_of_list hq) h hp).1
  | list =>
    rw [Context.shaped] at h
    split at h
    · exact Except.ok.inj h ▸ .leaf rfl
    · simp only [Outcome.bind_ok_iff, Outcome.pure_ok_iff] at h
      obtain ⟨_, _, _, _, rfl⟩ := h
      exact .leaf rfl

lemma every_of_payloadValue {kind : Kind} (hk : kind ≠ .custom)
    (h : payloadValue ctx kind p = .ok v) (hp : Keyed P p.value.inner) : Json.Every P v := by
  unfold payloadValue at h
  cases hs : kind.shapes? with
  | some shapes =>
    simp only [hs] at h
    split at h
    · exact every_of_shaped h hp
    · simp [Context.unexpected] at h
  | none =>
    cases kind with
    | metadata => exact (every_of_textValue h).1
    | custom => contradiction
    | _ => contradiction

lemma property_of_read {kind : Kind} {ps : List Property} {s : Progress}
    (h : ps.foldlM (Progress.read ctx kind) {} = .ok s) :
    ∀ e ∈ s.payload.entries, ∃ q ∈ ps, q.key = e.1 ∧ payloadValue ctx kind q = .ok e.2 := by
  refine Outcome.foldlM_preserves (fun s : Progress => ∀ e ∈ s.payload.entries, ∃ q ∈ ps,
    q.key = e.1 ∧ payloadValue ctx kind q = .ok e.2) ?_ h (fun e he => absurd he List.not_mem_nil)
  intro s q t hq hi h
  rcases read_ok_iff.mp h with ⟨-, -, l, -, rfl⟩ | ⟨-, -, u, hu, rfl⟩
  · exact hi
  · intro e he
    rcases Entries.mem_insert he with rfl | he
    · exact ⟨q, hq, rfl, hu⟩
    · exact hi e he

lemma every_of_overlay {r : Registry} (hr : ∀ d ∈ r.definitions, d.kind ≠ .custom) {line : ℕ}
    {name : String} {ps : List Property} {o : Overlay} (h : overlay r line name ps = .ok o)
    (hp : Keyed P ps) {e : String × Json} (he : e ∈ o.body.toPayload.entries) :
    Json.Every P e.2 ∧ ((∃ shapes sh, o.body.kind.shapes? = some shapes ∧ (e.1, sh) ∈ shapes) ∨
      (e.2.isObject = false ∧ ∃ q ∈ ps, q.key = e.1)) := by
  obtain ⟨d, s, b, hd, hs, hb, rfl⟩ := overlay_ok_iff.mp h
  have hk := hr d (Registry.mem_of_resolve hd)
  have hi := property_of_read hs
  have hv : ∀ f ∈ s.payload.entries, Json.Every P f.2 := by
    intro f hf
    obtain ⟨q, hq, -, hv⟩ := hi f hf
    exact every_of_payloadValue hk hv (hp.mem hq).2
  rw [Body.ofPayload_of_ofTag? (Definition.tag_of_kind hk ▸ Kind.ofTag?_tagOf hk)] at hb
  have hbk := Body.kind_of_ofKind hb
  change e ∈ b.toPayload.entries at he
  refine ⟨Body.every_toPayload hv hb e he, ?_⟩
  change (∃ shapes sh, b.kind.shapes? = some shapes ∧ (e.1, sh) ∈ shapes) ∨ _
  cases hs : b.kind.shapes? with
  | some shapes =>
    obtain ⟨sh, hl, -⟩ := Body.toPayload_fits hs he
    obtain ⟨ls, rs, hlr, -⟩ := List.lookup_eq_some_iff.mp hl
    exact Or.inl ⟨shapes, sh, rfl, by simp [hlr]⟩
  | none =>
    have hm : b.kind = .metadata := by
      cases hc : b.kind with
      | metadata => rfl
      | custom => exact absurd (hbk ▸ hc) hk
      | _ => simp [hc, Kind.shapes?] at hs
    rw [← hbk, hm] at hb
    obtain ⟨t, ht⟩ := Body.toPayload_text hm he
    rw [Body.toPayload_of_metadata hb] at he
    obtain ⟨q, hq, hqe, -⟩ := hi e he
    exact Or.inr ⟨by rw [ht]; rfl, q, hq, hqe⟩

end Assembly

end LayeredSchema

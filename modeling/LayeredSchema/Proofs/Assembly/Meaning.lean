import LayeredSchema.Proofs.Assembly.Keys
import LayeredSchema.Proofs.Overlay.Completion
import Mathlib

/-!
What the properties of an overlay command stand for, said of the properties alone: a property has a
payload value exactly if it stands for the value and its kind takes the value under its key.
-/

namespace LayeredSchema

namespace Property

def IsLast (ps : List Property) (p : Property) : Prop :=
  ∃ before after, ps = before ++ p :: after ∧ p.key ∉ after.map Property.key

variable {ps : List Property} {p : Property}

lemma IsLast.mem (h : p.IsLast ps) : p ∈ ps := by
  obtain ⟨before, after, rfl, -⟩ := h
  simp

lemma isLast_of_nodup (h : (ps.map Property.key).Nodup) (hp : p ∈ ps) : p.IsLast ps := by
  obtain ⟨before, after, rfl⟩ := List.append_of_mem hp
  rw [List.map_append, List.map_cons] at h
  exact ⟨before, after, rfl, (List.nodup_cons.mp h.of_append_right).1⟩

lemma exists_isLast {k : String} (hk : k ∈ ps.map Property.key) :
    ∃ p : Property, p.IsLast ps ∧ p.key = k := by
  induction ps with
  | nil => contradiction
  | cons q ps ih =>
    by_cases hs : k ∈ ps.map Property.key
    · obtain ⟨p, ⟨before, after, hb, ha⟩, rfl⟩ := ih hs
      exact ⟨p, ⟨q :: before, after, by rw [hb]; rfl, ha⟩, rfl⟩
    · obtain rfl : k = q.key := by simpa [hs] using hk
      exact ⟨q, ⟨[], ps, rfl, hs⟩, rfl⟩

end Property

namespace PropertyValue

def ListsKeys : Kind → PropertyValue → Prop
  | .sensitive, _ => True
  | .custom, w => w.inner ≠ [] ∧ ∀ p ∈ w.inner, p.value = .bare
  | _, _ => False

/-- The value that a property value stands for. A text stands for itself, an array for the list of
its members, and a block of keys alone for the list of these, where the kind takes it for that. Any
other block is an object with just the keys of the block, and under each what the last property with
the key stands for; only a custom kind has blocks with a key given twice. A key alone is an empty
block. -/
inductive Stands (k : Kind) : PropertyValue → Json → Prop
  | text (s : String) : Stands k (.text s) (.string s)
  | list (items : List String) : Stands k (.list items) (.ofTexts items)
  | keys {w : PropertyValue} (hw : w.isAlone = true) (hl : ListsKeys k w)
      (alone : ∀ p ∈ w.inner, p.value = .bare) :
      Stands k w (.ofTexts (w.inner.map Property.key))
  | block {w : PropertyValue} {es : Entries Json} (hw : w.isAlone = true) (hl : ¬ListsKeys k w)
      (distinct : k ≠ .custom → (w.inner.map Property.key).Nodup) (sorted : es.Sorted)
      (names : ∀ key, key ∈ es.names ↔ key ∈ w.inner.map Property.key)
      (values : ∀ (p : Property) (v : Json), p.IsLast w.inner → es.get? p.key = some v →
        Stands k p.value v) :
      Stands k w (.object es)

variable {k : Kind} {w : PropertyValue} {v u : Json}

lemma not_listsKeys (hc : k ≠ .custom) (hs : k ≠ .sensitive) : ¬ListsKeys k w := by
  cases k <;> simp_all [ListsKeys]

namespace Stands

lemma eq_text {s : String} (h : Stands k w (.string s)) : w = .text s := by
  cases h
  rfl

lemma eq_list (hl : ¬ListsKeys k w) {ss : List String} (h : Stands k w (.ofTexts ss)) :
    w = .list ss := by
  rw [Json.ofTexts] at h
  generalize hv : ss.map Json.string = vs at h
  cases h with
  | list items =>
    rw [List.map_injective_iff.mpr (fun _ _ => Json.string.inj) hv]
  | keys _ hk => exact absurd hk hl

lemma unique (h : Stands k w v) (h' : Stands k w u) : v = u := by
  induction h generalizing u with
  | text s =>
    cases h' with
    | text => rfl
    | keys hw | block hw => contradiction
  | list items =>
    cases h' with
    | list => rfl
    | keys hw | block hw => contradiction
  | keys hw hl =>
    cases h' with
    | text | list => contradiction
    | keys => rfl
    | block _ hl' => exact absurd hl hl'
  | @block w es hw hl _ sorted names _ ih =>
    cases h' with
    | text | list => contradiction
    | keys _ hl' => exact absurd hl' hl
    | @block _ fs _ _ _ sorted' names' values' =>
      refine congrArg Json.object (sorted.eq_of_get?_eq sorted' fun key => ?_)
      by_cases hk : key ∈ w.inner.map Property.key
      · obtain ⟨p, hp, rfl⟩ := Property.exists_isLast hk
        obtain ⟨a, ha⟩ := Entries.mem_names_iff.mp ((names _).mpr hk)
        obtain ⟨b, hb⟩ := Entries.mem_names_iff.mp ((names' _).mpr hk)
        rw [ha, hb, ih p a hp ha (values' p b hp hb)]
      · rw [Entries.get?_eq_none_iff.mpr (mt (names key).mp hk),
          Entries.get?_eq_none_iff.mpr (mt (names' key).mp hk)]

lemma plain (h : Stands k w v) : v.Plain := by
  induction h with
  | text s => exact .string s
  | list | keys => exact .texts _
  | @block w es _ _ _ sorted names _ ih =>
    refine .object es sorted fun e he => ?_
    obtain ⟨p, hp, hk⟩ := Property.exists_isLast ((names e.1).mp (List.mem_map_of_mem he))
    exact ih p e.2 hp (hk ▸ Entries.get?_of_mem sorted.nodup_names he)

end Stands

end PropertyValue

namespace Json

variable {α : Type} {encode : α → Json} {es : Entries Json}

lemma exists_table (hs : es.Sorted) (h : ∀ e ∈ es, ∃ a, e.2 = encode a) :
    ∃ t : Table α, es = t.entries.map fun e => (e.1, encode e.2) := by
  have hr : es ∈ Set.range (List.map fun e : String × α => (e.1, encode e.2)) := by
    rw [Set.range_list_map]
    intro e he
    obtain ⟨a, ha⟩ := h e he
    exact ⟨(e.1, a), Prod.ext rfl ha.symm⟩
  obtain ⟨ts, rfl⟩ := hr
  rw [Entries.Sorted, List.pairwise_map] at hs
  exact ⟨⟨ts, hs⟩, rfl⟩

end Json

namespace Kind

lemma list_mem_shapes {k : Kind} {shapes : List (String × Shape)} (h : k.shapes? = some shapes)
    {key : String} {sh : Shape} (hm : (key, sh) ∈ shapes) : sh = .list ↔ k = .sensitive := by
  have hd : ∀ e ∈ shapes, e.2 = .list ↔ k = .sensitive := by
    cases k with
    | metadata | custom => contradiction
    | _ =>
      obtain rfl := Option.some.inj h
      decide
  exact hd _ hm

end Kind

namespace Assembly

open PropertyValue (Stands ListsKeys)

variable {ctx : Context} {k : Kind} {p : Property} {v : Json}

lemma names_customEntries (ps : List Property) :
    Entries.names (customEntries ps) = ps.map Property.key := by
  rw [customEntries_eq_map, Entries.names, List.map_map]
  rfl

lemma get?_customEntries {ps : List Property} (h : p.IsLast ps) :
    (Entries.ofList (customEntries ps)).get? p.key = some (customValue p.value) := by
  obtain ⟨before, after, rfl, ha⟩ := h
  rw [← names_customEntries] at ha
  rw [customEntries_eq_map] at ha ⊢
  rw [List.map_append, List.map_cons]
  exact Entries.get?_ofList_append_cons ha

mutual

lemma stands_customValue : (w : PropertyValue) → w.Stands .custom (customValue w)
  | .bare => .block rfl (fun h => h.1 rfl) (fun h => absurd rfl h) List.Pairwise.nil
      (fun k => Iff.rfl) fun p v hp => absurd hp.mem List.not_mem_nil
  | .text s => .text s
  | .list ss => .list ss
  | .block ps => by
    have hl : ListsKeys .custom (.block ps) ↔
        (!ps.isEmpty && ps.all (·.value.isBare)) = true := by
      simp [ListsKeys, PropertyValue.inner, PropertyValue.isBare_iff]
    rw [customValue]
    split
    · rename_i h
      exact .keys rfl (hl.mpr h) (hl.mpr h).2
    · rename_i h
      refine .block rfl (mt hl.mp h) (fun h => absurd rfl h) (Entries.sorted_ofList _)
        (fun k => ?_) fun p v hp hg => ?_
      · rw [Entries.mem_names_ofList, names_customEntries]
        rfl
      · rw [get?_customEntries (show p.IsLast ps from hp)] at hg
        obtain rfl := Option.some.inj hg
        exact stands_of_mem ps p (show p.IsLast ps from hp).mem

lemma stands_of_mem : (ps : List Property) → ∀ p ∈ ps, p.value.Stands .custom (customValue p.value)
  | [], _, h => absurd h List.not_mem_nil
  | .mk n k w :: ps, p, h => by
    rcases List.mem_cons.mp h with rfl | h
    · exact stands_customValue w
    · exact stands_of_mem ps p h

end

lemma customValue_eq_iff {w : PropertyValue} : customValue w = v ↔ w.Stands .custom v := by
  constructor
  · rintro rfl
    exact stands_customValue w
  · exact (stands_customValue w).unique

lemma textValue_iff_stands :
    ctx.textValue p = .ok v ↔ p.value.Stands k v ∧ ∃ s, v = .string s := by
  rw [textValue_ok_iff]
  constructor
  · rintro ⟨s, hs, rfl⟩
    exact ⟨hs ▸ .text s, s, rfl⟩
  · rintro ⟨h, s, rfl⟩
    exact ⟨s, h.eq_text, rfl⟩

lemma list_iff_stands (hl : ∀ w, ¬ListsKeys k w) :
    (ctx.list p).map Json.ofTexts = .ok v ↔ p.value.Stands k v ∧ ∃ ss, v = .ofTexts ss := by
  rw [list_ok_iff]
  constructor
  · rintro ⟨ss, hs, rfl⟩
    exact ⟨hs ▸ .list ss, ss, rfl⟩
  · rintro ⟨h, ss, rfl⟩
    exact ⟨ss, h.eq_list (hl _), rfl⟩

lemma table_iff_stands {α : Type} {encode : α → Json} {value : Property → Except Error Json}
    (hc : k ≠ .custom) (hl : ∀ w, ¬ListsKeys k w)
    (hv : ∀ q u, value q = .ok u ↔ q.value.Stands k u ∧ ∃ a, u = encode a) :
    ctx.table value p = .ok v ↔
      p.value.Stands k v ∧ ∃ t : Table α, v = .object (t.entries.map fun e => (e.1, encode e.2)) := by
  rw [table_ok_iff]
  constructor
  · rintro ⟨ha, es, rfl, hes⟩
    have he : ∀ e ∈ es, ∃ a, e.2 = encode a := by
      intro e he
      obtain ⟨q, -, -, hq⟩ := hes.property he
      exact ((hv q e.2).mp hq).2
    obtain ⟨t, rfl⟩ := Json.exists_table hes.sorted he
    refine ⟨.block ha (hl _) (fun _ => hes.distinct) hes.sorted hes.names fun q u hq hu => ?_, t, rfl⟩
    obtain ⟨u', hu', hg⟩ := hes.given q hq.mem
    rw [hu, Option.some.injEq] at hg
    exact hg ▸ ((hv q u').mp hu').1
  · rintro ⟨h, t, rfl⟩
    generalize hes : t.entries.map (fun e => (e.1, encode e.2)) = es at h
    generalize p.value = w at h
    cases h with
    | block ha _ distinct sorted names values =>
      refine ⟨ha, es, rfl, sorted, distinct hc, names, fun q hq => ?_⟩
      obtain ⟨u, hu⟩ := Entries.mem_names_iff.mp ((names q.key).mpr (List.mem_map_of_mem hq))
      have he := Entries.mem_of_get? hu
      rw [← hes] at he
      obtain ⟨e, -, hee⟩ := List.mem_map.mp he
      have hs := values q u (Property.isLast_of_nodup (distinct hc) hq) hu
      exact ⟨u, (hv q u).mpr ⟨hs, e.2, (congrArg Prod.snd hee).symm⟩, hu⟩

lemma bareKeys_ok_iff {ps : List Property} {ss : List String} : ps.mapM ctx.bareKey = .ok ss ↔
    (∀ p ∈ ps, p.value = .bare) ∧ ss = ps.map Property.key := by
  have hb (p : Property) (s : String) : ctx.bareKey p = .ok s ↔ p.value = .bare ∧ p.key = s := by
    rw [Context.bareKey]
    cases p.value <;> simp [Context.wrongShape, Context.invalid]
  have hk : List.Forall₂ (fun (p : Property) s => p.key = s) ps ss ↔ ss = ps.map Property.key := by
    rw [← List.forall₂_map_left_iff (R := Eq), List.forall₂_eq_eq_eq, eq_comm]
  simp only [Outcome.mapM_ok_iff, hb, List.forall₂_and_left, hk]

lemma shaped_list_ok_iff : ctx.shaped p .list = .ok v ↔
    (∃ items, p.value = .list items ∧ v = .ofTexts items) ∨
      (p.value.isAlone = true ∧ (∀ q ∈ p.value.inner, q.value = .bare) ∧
        v = .ofTexts (p.value.inner.map Property.key)) := by
  rw [Context.shaped]
  split
  · rename_i items hv
    simp [hv, PropertyValue.isAlone, eq_comm]
  · rename_i hv
    simp only [Outcome.bind_ok_iff, Outcome.pure_ok_iff, children_ok_iff, bareKeys_ok_iff]
    constructor
    · rintro ⟨ps, ⟨ha, rfl⟩, ss, ⟨hb, rfl⟩, rfl⟩
      exact Or.inr ⟨ha, hb, rfl⟩
    · rintro (⟨items, hi, -⟩ | ⟨ha, hb, rfl⟩)
      · exact absurd hi (hv items)
      · exact ⟨_, ⟨ha, rfl⟩, _, ⟨hb, rfl⟩, rfl⟩

lemma shaped_list_iff_stands : ctx.shaped p .list = .ok v ↔ p.value.Stands .sensitive v ∧
    ∃ ss, v = .ofTexts ss := by
  rw [shaped_list_ok_iff]
  constructor
  · rintro (⟨items, hi, rfl⟩ | ⟨ha, hb, rfl⟩)
    · exact ⟨hi ▸ .list items, items, rfl⟩
    · exact ⟨.keys ha trivial hb, _, rfl⟩
  · rintro ⟨h, ss, rfl⟩
    generalize hp : p.value = w at h
    generalize hv : Json.ofTexts ss = v at h
    cases h with
    | text | block => contradiction
    | list items => exact .inl ⟨items, rfl, rfl⟩
    | keys ha _ hb => exact .inr ⟨ha, hb, rfl⟩

lemma shaped_ok_iff {shapes : List (String × Shape)} (h : k.shapes? = some shapes) {sh : Shape}
    (hm : (p.key, sh) ∈ shapes) :
    ctx.shaped p sh = .ok v ↔ p.value.Stands k v ∧ sh.Fits v := by
  have hc : k ≠ .custom := by
    rintro rfl
    contradiction
  have hs := Kind.list_mem_shapes h hm
  by_cases hk : k = .sensitive
  · obtain rfl := hs.mpr hk
    subst hk
    rw [Shape.fits_list_iff]
    exact shaped_list_iff_stands
  · have hl (w : PropertyValue) : ¬ListsKeys k w := PropertyValue.not_listsKeys hc hk
    have ht (q : Property) (u : Json) : ctx.textValue q = .ok u ↔
        q.value.Stands k u ∧ ∃ s, u = .string s := textValue_iff_stands
    cases sh with
    | text =>
      rw [Shape.fits_text_iff]
      exact textValue_iff_stands
    | textTable =>
      rw [Shape.fits_textTable_iff]
      exact table_iff_stands hc hl ht
    | textTableTable =>
      rw [Shape.fits_textTableTable_iff]
      exact table_iff_stands hc hl fun q u => table_iff_stands hc hl ht
    | listTable =>
      rw [Shape.fits_listTable_iff]
      exact table_iff_stands hc hl fun q u => list_iff_stands hl
    | list => exact absurd (hs.mp rfl) hk

lemma payloadValue_ok_iff :
    payloadValue ctx k p = .ok v ↔ p.value.Stands k v ∧ k.Takes p.key v := by
  unfold payloadValue
  rw [Kind.Takes]
  cases hs : k.shapes? with
  | some shapes =>
    simp only [Entries.get?_eq_lookup]
    cases hl : shapes.lookup p.key with
    | none => simp [Context.unexpected]
    | some sh =>
      obtain ⟨ls, rs, rfl, -⟩ := List.lookup_eq_some_iff.mp hl
      simp only [shaped_ok_iff hs (List.mem_append_right ls List.mem_cons_self),
        Option.some.injEq, exists_eq_left']
      exact and_congr_right fun h => (or_iff_right h.plain.ne_null).symm
  | none =>
    cases k with
    | metadata =>
      simp only [forall_true_left]
      exact textValue_iff_stands
    | custom =>
      simp only [Except.ok.injEq, customValue_eq_iff, reduceCtorEq, false_imp_iff, and_true]
    | _ => contradiction

end Assembly

end LayeredSchema

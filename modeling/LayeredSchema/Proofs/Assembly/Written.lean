import LayeredSchema.Assembly.Basic
import LayeredSchema.Assembly.Commands
import LayeredSchema.Proofs.Overlay.Payload

/-!
Payload values written as properties: a value that a property stands for is what is read from the
property, through a shape or as the value of a custom kind.
-/

namespace LayeredSchema

inductive Json.Plain : Json → Prop
  | string (s : String) : Plain (.string s)
  | texts (ss : List String) : Plain (.ofTexts ss)
  | object (es : Entries Json) (hs : es.Sorted) (h : ∀ e ∈ es, Plain e.2) : Plain (.object es)

inductive Shape.Fits : Shape → Json → Prop
  | text (s : String) : Fits .text (.string s)
  | textTable (t : Table String) : Fits .textTable (.ofTextTable t)
  | textTableTable (t : Table (Table String)) : Fits .textTableTable (Body.tables t)
  | listTable (t : Table (List String)) : Fits .listTable (Body.lists t)
  | list (ss : List String) : Fits .list (.ofTexts ss)

namespace Json

mutual

/-- Whether a property value stands for a value. An empty object may be a key alone. -/
def IsWritten : Json → PropertyValue → Prop
  | .string s, w => w = .text s
  | .array items, w => ∃ ss, items = ss.map Json.string ∧ w = .list ss
  | .object es, w => (∃ ps, w = .block ps ∧ AreWritten es ps) ∨ (es = [] ∧ w = .bare)
  | _, _ => False

def AreWritten : List (String × Json) → List Property → Prop
  | [], ps => ps = []
  | (k, v) :: es, ps => ∃ n w qs, ps = .mk n k w :: qs ∧ IsWritten v w ∧ AreWritten es qs

end

lemma areWritten_iff {es : Entries Json} {ps : List Property} :
    AreWritten es ps ↔
      List.Forall₂ (fun (p : Property) e => p.key = e.1 ∧ IsWritten e.2 p.value) ps es := by
  induction es generalizing ps with
  | nil => simp [AreWritten]
  | cons e es ih =>
    simp only [AreWritten, ih, List.forall₂_cons_right_iff]
    constructor
    · rintro ⟨n, w, qs, rfl, hw, hs⟩
      exact ⟨.mk n e.1 w, qs, ⟨rfl, hw⟩, hs, rfl⟩
    · rintro ⟨⟨n, k, w⟩, qs, ⟨rfl, hw⟩, hs, rfl⟩
      exact ⟨n, w, qs, rfl, hw, hs⟩

lemma Plain.ne_null {v : Json} (h : v.Plain) : v ≠ .null := by
  cases h <;> exact nofun

lemma plain_ofTextTable (t : Table String) : (ofTextTable t).Plain := by
  refine .object _ (t.sorted.map _) fun e he => ?_
  obtain ⟨f, _, rfl⟩ := List.mem_map.mp he
  exact .string f.2

end Json

lemma Shape.Fits.plain {sh : Shape} {v : Json} (h : sh.Fits v) : v.Plain := by
  cases h with
  | text s => exact .string s
  | textTable t => exact Json.plain_ofTextTable t
  | textTableTable t =>
    refine .object _ (t.sorted.map _) fun e he => ?_
    obtain ⟨f, _, rfl⟩ := List.mem_map.mp he
    exact Json.plain_ofTextTable f.2
  | listTable t =>
    refine .object _ (t.sorted.map _) fun e he => ?_
    obtain ⟨f, _, rfl⟩ := List.mem_map.mp he
    exact .texts f.2
  | list ss => exact .texts ss

namespace Shape

variable {v : Json}

lemma fits_text_iff : Fits .text v ↔ ∃ s, v = .string s := by
  constructor
  · rintro ⟨s⟩
    exact ⟨s, rfl⟩
  · rintro ⟨s, rfl⟩
    exact .text s

lemma fits_textTable_iff : Fits .textTable v ↔ ∃ t, v = .ofTextTable t := by
  constructor
  · intro h
    cases h with
    | textTable t => exact ⟨t, rfl⟩
  · rintro ⟨t, rfl⟩
    exact .textTable t

lemma fits_textTableTable_iff : Fits .textTableTable v ↔ ∃ t, v = Body.tables t := by
  constructor
  · intro h
    cases h with
    | textTableTable t => exact ⟨t, rfl⟩
  · rintro ⟨t, rfl⟩
    exact .textTableTable t

lemma fits_listTable_iff : Fits .listTable v ↔ ∃ t, v = Body.lists t := by
  constructor
  · intro h
    cases h with
    | listTable t => exact ⟨t, rfl⟩
  · rintro ⟨t, rfl⟩
    exact .listTable t

lemma fits_list_iff : Fits .list v ↔ ∃ ss, v = .ofTexts ss := by
  constructor
  · intro h
    cases h with
    | list ss => exact ⟨ss, rfl⟩
  · rintro ⟨ss, rfl⟩
    exact .list ss

end Shape

lemma PropertyValue.ofJson_ofTexts (ss : List String) : ofJson (.ofTexts ss) = .list ss := by
  have h : (ss.map Json.string).mapM Json.asText? = some ss := by
    induction ss with
    | nil => rfl
    | cons s ss ih => simp [Json.asText?, ih]
  simp [Json.ofTexts, ofJson, h]

lemma Property.ofEntries_eq_map (es : Entries Json) :
    ofEntries es = es.map fun e => .mk 0 e.1 (PropertyValue.ofJson e.2) := by
  induction es with
  | nil => rfl
  | cons e es ih => simp [ofEntries, ih]

lemma Json.Plain.isWritten {v : Json} (h : v.Plain) : v.IsWritten (.ofJson v) := by
  induction h with
  | string s => simp [IsWritten, PropertyValue.ofJson]
  | texts ss =>
    rw [PropertyValue.ofJson_ofTexts]
    exact ⟨ss, rfl, rfl⟩
  | object es hs h ih =>
    refine Or.inl ⟨_, rfl, areWritten_iff.mpr ?_⟩
    rw [Property.ofEntries_eq_map, List.forall₂_map_left_iff, List.forall₂_same]
    exact fun e he => ⟨rfl, ih e he⟩

lemma PropertyValue.isBare_ofJson (v : Json) : (ofJson v).isBare = false := by
  cases v with
  | array items => rw [ofJson]; split <;> rfl
  | _ => rfl

namespace Assembly

lemma customEntries_eq_map (ps : List Property) :
    customEntries ps = ps.map fun p => (p.key, customValue p.value) := by
  induction ps with
  | nil => rfl
  | cons p ps ih =>
    cases p
    simp [customEntries, ih, Property.key, Property.value]

lemma not_all_bare (es : Entries Json) :
    (!(Property.ofEntries es).isEmpty && (Property.ofEntries es).all (·.value.isBare)) = false := by
  cases es with
  | nil => rfl
  | cons e es => simp [Property.ofEntries, Property.value, PropertyValue.isBare_ofJson]

lemma customValue_ofJson {v : Json} (h : v.Plain) : customValue (.ofJson v) = v := by
  induction h with
  | string s => rfl
  | texts ss => rw [PropertyValue.ofJson_ofTexts, customValue]
  | object es hs h ih =>
    have he : customEntries (Property.ofEntries es) = es := by
      rw [customEntries_eq_map, Property.ofEntries_eq_map, List.map_map]
      refine (List.map_congr_left fun e he => ?_).trans (List.map_id es)
      simp [Property.key, Property.value, ih e he]
    rw [PropertyValue.ofJson, customValue, if_neg (by simp [not_all_bare]), he,
      Entries.ofList_eq_self hs]

mutual

lemma plain_customValue : (w : PropertyValue) → (customValue w).Plain
  | .bare => .object [] List.Pairwise.nil (by simp)
  | .text s => .string s
  | .list ss => .texts ss
  | .block ps => by
    rw [customValue]
    split
    · exact .texts _
    · exact .object _ (Entries.sorted_ofList _) fun e he =>
        plain_customEntries ps e (Entries.mem_of_mem_ofList he)

lemma plain_customEntries : (ps : List Property) → ∀ e ∈ customEntries ps, e.2.Plain
  | [] => by simp [customEntries]
  | .mk n k w :: ps => by
    intro e he
    rcases List.mem_cons.mp he with rfl | he
    · exact plain_customValue w
    · exact plain_customEntries ps e he

end

variable {ctx : Context}

lemma foldlM_block {value : Property → Except Error Json} {inside : String} {ps : List Property}
    {es fs : Entries Json} (hs : Entries.Sorted (fs ++ es))
    (h : List.Forall₂ (fun p e => p.key = e.1 ∧ value p = .ok e.2) ps es) :
    ps.foldlM (fun (es : Entries Json) child =>
      if es.contains child.key then ctx.invalid child (.duplicateKey inside)
      else return es.insert child.key (← value child)) fs = .ok (fs ++ es) := by
  induction h generalizing fs with
  | nil => simp [pure, Except.pure]
  | @cons p e ps es hp _ ih =>
    obtain ⟨hk, hv⟩ := hp
    have hlt : ∀ f ∈ fs, f.1 < e.1 := fun f hf => hs.lt_of_append hf List.mem_cons_self
    rw [List.foldlM_cons, hk, Entries.contains_of_lt hlt, hv]
    change (List.foldlM _ (fs.insert e.1 e.2) ps) = _
    rw [Entries.insert_of_lt hlt, ih (by simpa using hs)]
    simp

lemma children_of_isWritten (ctx : Context) {p : Property} {es : Entries Json}
    (h : Json.IsWritten (.object es) p.value) :
    ∃ ps, ctx.children p = .ok ps ∧
      List.Forall₂ (fun p e => p.key = e.1 ∧ Json.IsWritten e.2 p.value) ps es := by
  rcases h with ⟨ps, hp, h⟩ | ⟨rfl, hp⟩
  · exact ⟨ps, by rw [Context.children, hp], Json.areWritten_iff.mp h⟩
  · exact ⟨[], by rw [Context.children, hp], .nil⟩

lemma table_of_isWritten {value : Property → Except Error Json} {p : Property}
    {es : Entries Json} (hs : es.Sorted) (h : Json.IsWritten (.object es) p.value)
    (hv : ∀ e ∈ es, ∀ q : Property, Json.IsWritten e.2 q.value → value q = .ok e.2) :
    ctx.table value p = .ok (.object es) := by
  obtain ⟨ps, hps, hw⟩ := children_of_isWritten ctx h
  have hr : List.Forall₂ (fun p e => p.key = e.1 ∧ value p = .ok e.2) ps es :=
    Outcome.forall₂_of_mem hw fun q e he hqe => ⟨hqe.1, hv e he q hqe.2⟩
  simp only [Context.table, Outcome.bind_ok_iff]
  exact ⟨ps, hps, es, foldlM_block hs hr, rfl⟩

lemma textValue_of_isWritten {s : String} {p : Property} (h : Json.IsWritten (.string s) p.value) :
    ctx.textValue p = .ok (.string s) := by
  rw [Context.textValue, Context.text, show p.value = .text s from h]
  rfl

lemma list_of_isWritten {ss : List String} {p : Property}
    (h : Json.IsWritten (.ofTexts ss) p.value) : p.value = .list ss := by
  obtain ⟨ts, ht, hp⟩ := h
  rwa [List.map_injective_iff.mpr (fun _ _ => Json.string.inj) ht]

lemma textTable_of_isWritten {t : Table String} {p : Property}
    (h : Json.IsWritten (.ofTextTable t) p.value) :
    ctx.table ctx.textValue p = .ok (.ofTextTable t) := by
  refine table_of_isWritten (t.sorted.map _) h fun e he q hq => ?_
  obtain ⟨f, _, rfl⟩ := List.mem_map.mp he
  exact textValue_of_isWritten hq

lemma shaped_of_isWritten {sh : Shape} {v : Json} (hv : sh.Fits v) {p : Property}
    (h : v.IsWritten p.value) : ctx.shaped p sh = .ok v := by
  cases hv with
  | text s => exact textValue_of_isWritten h
  | textTable t => exact textTable_of_isWritten h
  | textTableTable t =>
    refine table_of_isWritten (t.sorted.map _) h fun e he q hq => ?_
    obtain ⟨f, _, rfl⟩ := List.mem_map.mp he
    exact textTable_of_isWritten hq
  | listTable t =>
    refine table_of_isWritten (t.sorted.map _) h fun e he q hq => ?_
    obtain ⟨f, _, rfl⟩ := List.mem_map.mp he
    rw [Context.list, list_of_isWritten hq]
    rfl
  | list ss => rw [Context.shaped, list_of_isWritten h]

end Assembly

end LayeredSchema

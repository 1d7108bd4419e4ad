import LayeredSchema.Proofs.Json.Normal
import LayeredSchema.Proofs.Text.Blank
import Mathlib.Data.Finset.Sort

/-!
Payloads that are decoded and written again: nothing of them is lost, and only what is missing is
filled in.
-/

namespace LayeredSchema

namespace Entries

variable {α β : Type} {es : Entries α}

def choose (f : String → α → Option β) (es : Entries α) : Entries β :=
  es.filterMap fun e => (f e.1 e.2).map fun b => (e.1, b)

lemma choose_cons (f : String → α → Option β) (e : String × α) : choose f (e :: es) =
    match f e.1 e.2 with
    | some b => (e.1, b) :: choose f es
    | none => choose f es := by
  rw [choose, List.filterMap_cons]
  cases f e.1 e.2 <;> rfl

lemma names_choose_sublist (f : String → α → Option β) : (choose f es).names.Sublist es.names := by
  induction es with
  | nil => exact .slnil
  | cons e es ih =>
    rw [choose_cons]
    split
    · exact ih.cons_cons _
    · exact ih.cons _

lemma get?_choose (f : String → α → Option β) (h : es.names.Nodup) (k : String) :
    (choose f es).get? k = (get? es k).bind (f k) := by
  induction es with
  | nil => rfl
  | cons e es ih =>
    obtain ⟨he, hs⟩ := List.nodup_cons.mp h
    have hn : get? es e.1 = none := get?_eq_none_iff.mpr he
    rw [choose_cons, get?_cons]
    by_cases hk : e.1 = k
    · subst hk
      split
      · rename_i hf
        simp [get?_cons, hf]
      · rename_i hf
        simp [ih hs, hn, hf]
    · split
      · simp [get?_cons, hk, ih hs]
      · simp [hk, ih hs]

end Entries

lemma NameSet.names_ofList (names : List String) :
    (NameSet.ofList names).names = names.toFinset.sort := by
  have hs : (NameSet.ofList names).names.SortedLT :=
    (List.pairwise_map.mpr (NameSet.ofList names).sorted).sortedLT
  refine hs.eq_of_mem_iff (Finset.sortedLT_sort _) fun name => ?_
  rw [Finset.mem_sort, List.mem_toFinset]
  refine Entries.mem_names_ofList.trans ?_
  simp [Entries.names]

namespace Json

lemma isNormal_object_iff {es : Entries Json} :
    IsNormal (.object es) ↔ es.Sorted ∧ ∀ e ∈ es, IsNormal e.2 := by
  constructor
  · intro h
    have he : Entries.ofList (normalEntries es) = es := Json.object.inj h
    rw [← he]
    exact ⟨Entries.sorted_ofList _, fun e hm =>
      isNormal_of_mem_normalEntries es e (Entries.mem_of_mem_ofList hm)⟩
  · exact fun h => isNormal_object h.1 h.2

lemma toText_ok_iff {v : Json} {s : String} : v.toText = .ok s ↔ v = .string s := by
  cases v <;> simp [toText]

lemma toTexts_ok_iff {v : Json} {ss : List String} : v.toTexts = .ok ss ↔ v = .ofTexts ss := by
  simp only [toTexts, Outcome.bind_ok_iff, Outcome.mapM_ok_iff_eq_map fun a _ s => toText_ok_iff]
  cases v <;> simp [toItems, ofTexts]

lemma toTable_ok_iff {α : Type} {encode : α → Json} {decode : Json → Except Fault α}
    (h : ∀ u a, IsNormal u → (decode u = .ok a ↔ u = encode a)) {v : Json} (hv : v.IsNormal)
    {t : Table α} :
    toTable decode v = .ok t ↔ v = .object (t.entries.map fun e => (e.1, encode e.2)) := by
  cases v with
  | object es =>
    obtain ⟨hs, hn⟩ := isNormal_object_iff.mp hv
    have he : ∀ e ∈ es, ∀ f : String × α,
        (do return (e.1, ← decode e.2) : Except Fault (String × α)) = .ok f ↔
          e = (f.1, encode f.2) := by
      rintro ⟨k, v⟩ he ⟨l, a⟩
      simp only [Outcome.bind_ok_iff, Outcome.pure_ok_iff, Prod.mk.injEq, h v _ (hn _ he)]
      aesop
    simp only [toTable, toEntries, Outcome.bind_ok_iff, Outcome.pure_ok_iff]
    constructor
    · rintro ⟨_, ⟨rfl⟩, bs, hbs, rfl⟩
      have hb := (Outcome.mapM_ok_iff_eq_map he).mp hbs
      have hbs : Entries.Sorted bs := by
        rwa [hb, Entries.Sorted, List.pairwise_map] at hs
      have ht : (Table.ofList bs).entries = bs := Entries.ofList_eq_self hbs
      rw [ht, hb]
    · intro ht
      obtain rfl := Json.object.inj ht
      exact ⟨_, rfl, t.entries, (Outcome.mapM_ok_iff_eq_map he).mpr rfl, t.ofList_entries⟩
  | _ => simp [toTable, toEntries, Outcome.bind_ok_iff]

end Json

/-- What stands under a key when nothing is given for it. A single text is then left out. -/
def Shape.blank? : Shape → Option Json
  | .text => none
  | .list => some (.array [])
  | .textTable | .textTableTable | .listTable => some (.object [])

/-- What a value is written as: a list of names in order and without repetitions, any other value
as it is. -/
def Shape.settled : Shape → Json → Json
  | .list, .array items => .ofTexts (items.filterMap Json.asText?).toFinset.sort
  | _, v => v

lemma Shape.settled_ofTexts (names : List String) :
    Shape.settled .list (.ofTexts names) = .ofTexts names.toFinset.sort := by
  have hm : (names.map Json.string).filterMap Json.asText? = names := by
    rw [List.filterMap_map]
    exact List.filterMap_some
  change Shape.settled .list (.array (names.map Json.string)) = _
  rw [Shape.settled, hm]

namespace Kind

/-- What a kind makes of an entry that is given. Null counts as nothing under a key that the kind
defines. -/
def keep (shapes : Entries Shape) (key : String) (v : Json) : Option Json :=
  match shapes.get? key with
  | some sh => if v.isNull then none else some (sh.settled v)
  | none => some v

/-- The entries that are given, over blank ones for the keys that must be there. -/
def completed (k : Kind) (payload : Table Json) : Table Json :=
  match k.shapes? with
  | some shapes =>
    .ofList (Entries.choose (fun _ => Shape.blank?) shapes ++
      Entries.choose (keep shapes) payload.entries)
  | none => payload

def Takes (k : Kind) (key : String) (v : Json) : Prop :=
  match k.shapes? with
  | some shapes => ∃ sh, Entries.get? shapes key = some sh ∧ (v = .null ∨ sh.Fits v)
  | none => k = .metadata → ∃ s, v = .string s

lemma nodup_shapes {k : Kind} {shapes : Entries Shape} (h : k.shapes? = some shapes) :
    shapes.names.Nodup := by
  cases k <;> simp only [shapes?, reduceCtorEq, Option.some.injEq] at h <;> subst h <;> decide

def written (sh : Shape) : Option Json → Option Json
  | none | some .null => sh.blank?
  | some v => some (sh.settled v)

lemma get?_completed {k : Kind} {shapes : Entries Shape} (h : k.shapes? = some shapes)
    (payload : Table Json) (key : String) : (k.completed payload).get? key =
      match shapes.get? key with
      | some sh => written sh (payload.get? key)
      | none => payload.get? key := by
  have hp := payload.sorted.nodup_names
  have hn := nodup_shapes h
  have hg : (k.completed payload).get? key =
      ((payload.get? key).bind (keep shapes key)).or ((shapes.get? key).bind Shape.blank?) := by
    rw [completed, h]
    refine (Entries.get?_ofList_append ((Entries.names_choose_sublist _).nodup hn)
      ((Entries.names_choose_sublist _).nodup hp) key).trans ?_
    rw [Entries.get?_choose _ hp, Entries.get?_choose _ hn]
    rfl
  rw [hg]
  cases hs : shapes.get? key with
  | none => cases payload.get? key <;> simp [keep, hs]
  | some sh =>
    cases payload.get? key with
    | none => simp [written]
    | some v => cases v <;> simp [keep, hs, written, Json.isNull]

end Kind

namespace Body

variable {tag key : String} {payload : Table Json} {sh : Shape} {α : Type} {default : α}
  {decode : Json → Except Json.Fault α} {write : α → Option Json}

lemma take_ok_iff {a : α} : take tag payload key default decode = .ok a ↔
    (payload.get? key = none ∨ payload.get? key = some .null) ∧ a = default ∨
      ∃ v, payload.get? key = some v ∧ v ≠ .null ∧ decode v = .ok a := by
  rw [take]
  split
  · rename_i h
    simp [h, eq_comm]
  · rename_i h
    simp [h, eq_comm]
  · rename_i v hn h
    have hv : v ≠ .null := by
      rintro rfl
      exact hn rfl
    simp [h, hv, Outcome.mapError_ok_iff]

structure Reads (sh : Shape) (default : α) (decode : Json → Except Json.Fault α)
    (write : α → Option Json) : Prop where
  blank : write default = sh.blank?
  fits : ∀ v, v.IsNormal → ((∃ a, decode v = .ok a) ↔ sh.Fits v)
  settled : ∀ v a, v.IsNormal → decode v = .ok a → write a = some (sh.settled v)

lemma reads_text : Reads .text none (fun v => v.toText.map some) (Option.map Json.string) where
  blank := rfl
  fits v _ := by
    rw [Shape.fits_text_iff]
    simp only [Outcome.map_ok_iff, Json.toText_ok_iff]
    constructor
    · rintro ⟨_, s, rfl, -⟩
      exact ⟨s, rfl⟩
    · rintro ⟨s, rfl⟩
      exact ⟨_, s, rfl, rfl⟩
  settled v a _ h := by
    simp only [Outcome.map_ok_iff, Json.toText_ok_iff] at h
    obtain ⟨s, rfl, rfl⟩ := h
    rfl

lemma reads_table {encode : α → Json} {decode : Json → Except Json.Fault α}
    (hd : ∀ u a, u.IsNormal → (decode u = .ok a ↔ u = encode a))
    (hf : ∀ v, sh.Fits v ↔ ∃ t : Table α, v = .object (t.entries.map fun e => (e.1, encode e.2)))
    (hb : sh.blank? = some (.object [])) (hs : ∀ v, sh.settled v = v) :
    Reads sh ∅ (Json.toTable decode)
      (fun t : Table α => some (.object (t.entries.map fun e => (e.1, encode e.2)))) where
  blank := hb.symm
  fits v hv := by simp only [Json.toTable_ok_iff hd hv, hf]
  settled v t hv h := by rw [hs, (Json.toTable_ok_iff hd hv).mp h]

lemma reads_textTable :
    Reads .textTable ∅ (Json.toTable Json.toText) (fun t => some (Json.ofTextTable t)) := by
  exact reads_table (fun u s _ => Json.toText_ok_iff) (fun v => Shape.fits_textTable_iff) rfl
    fun _ => rfl

lemma reads_textTableTable :
    Reads .textTableTable ∅ (Json.toTable (Json.toTable Json.toText))
      (fun t => some (tables t)) := by
  exact reads_table (fun u t hu => Json.toTable_ok_iff (fun w s _ => Json.toText_ok_iff) hu)
    (fun v => Shape.fits_textTableTable_iff) rfl fun _ => rfl

lemma reads_listTable :
    Reads .listTable ∅ (Json.toTable Json.toTexts) (fun t => some (lists t)) := by
  exact reads_table (fun u ss _ => Json.toTexts_ok_iff) (fun v => Shape.fits_listTable_iff) rfl
    fun _ => rfl

lemma reads_list :
    Reads .list [] Json.toTexts (fun names => some (.ofTexts (NameSet.ofList names).names)) where
  blank := rfl
  fits v _ := by rw [Shape.fits_list_iff]; simp only [Json.toTexts_ok_iff]
  settled v names _ h := by
    obtain rfl := Json.toTexts_ok_iff.mp h
    rw [Shape.settled_ofTexts, NameSet.names_ofList]

section Reading

variable (hr : Reads sh default decode write) (hp : ∀ e ∈ payload.entries, e.2.IsNormal)
include hr hp

lemma Reads.exists_take (tag key : String) : (∃ a, take tag payload key default decode = .ok a) ↔
    ∀ v, payload.get? key = some v → v = .null ∨ sh.Fits v := by
  simp only [take_ok_iff]
  cases hg : payload.get? key with
  | none => simp
  | some v =>
    have hv : v.IsNormal := hp _ (Entries.mem_of_get? hg)
    by_cases hn : v = .null
    · simp [hn]
    · simp [hn, hr.fits v hv]

lemma Reads.write_take {a : α} (h : take tag payload key default decode = .ok a) :
    write a = Kind.written sh (payload.get? key) := by
  rcases take_ok_iff.mp h with ⟨hg | hg, rfl⟩ | ⟨v, hg, hn, hd⟩
  · rw [hr.blank, hg, Kind.written]
  · rw [hr.blank, hg, Kind.written]
  · rw [hr.settled v a (hp _ (Entries.mem_of_get? hg)) hd, hg]
    cases v with
    | null => contradiction
    | _ => rfl

end Reading

structure Decodes (shapes : Entries Shape) (payload : Table Json) (x : Except Error Body) :
    Prop where
  success : (∃ b, x = .ok b) ↔
    (∀ f ∈ shapes, ∀ v, payload.get? f.1 = some v → v = .null ∨ f.2.Fits v) ∧
      ∀ e ∈ payload.entries, e.1 ∈ shapes.names
  payload : ∀ b, x = .ok b → b.toPayload =
    .ofList (Entries.choose (fun key sh => Kind.written sh (payload.get? key)) shapes)

def present (es : Entries (Option Json)) : Entries Json := Entries.choose (fun _ v => v) es

section Keys

variable (hp : ∀ e ∈ payload.entries, e.2.IsNormal)
include hp

lemma decodes_one (hr : Reads sh default decode write) {mk : α → Body}
    (hw : ∀ a, (mk a).toPayload = .ofList (present [(key, write a)])) :
    Decodes [(key, sh)] payload (do
      let a ← take tag payload key default decode
      finish tag payload [key]
      return mk a) where
  success := by
    have ht := hr.exists_take hp tag key
    simp only [List.forall_mem_singleton, ← ht, Outcome.bind_ok_iff, Outcome.pure_ok_iff]
    constructor
    · rintro ⟨-, a, ha, ⟨⟩, hf, -⟩
      exact ⟨⟨a, ha⟩, finish_ok_iff.mp hf⟩
    · rintro ⟨⟨a, ha⟩, hf⟩
      exact ⟨_, a, ha, (), finish_ok_iff.mpr hf, rfl⟩
  payload b h := by
    simp only [Outcome.bind_ok_iff, Outcome.pure_ok_iff] at h
    obtain ⟨a, ha, -, -, rfl⟩ := h
    rw [hw, hr.write_take hp ha]
    rfl

lemma decodes_two {key' : String} {sh' : Shape} {β : Type} {default' : β}
    {decode' : Json → Except Json.Fault β} {write' : β → Option Json}
    (hr : Reads sh default decode write) (hr' : Reads sh' default' decode' write')
    {mk : α → β → Body}
    (hw : ∀ a b, (mk a b).toPayload = .ofList (present [(key, write a), (key', write' b)])) :
    Decodes [(key, sh), (key', sh')] payload (do
      let a ← take tag payload key default decode
      let b ← take tag payload key' default' decode'
      finish tag payload [key, key']
      return mk a b) where
  success := by
    have ht := hr.exists_take hp tag key
    have ht' := hr'.exists_take hp tag key'
    simp only [List.forall_mem_cons, ← ht, ← ht', Outcome.bind_ok_iff, Outcome.pure_ok_iff]
    constructor
    · rintro ⟨-, a, ha, b, hb, ⟨⟩, hf, -⟩
      exact ⟨⟨⟨a, ha⟩, ⟨b, hb⟩, by simp⟩, finish_ok_iff.mp hf⟩
    · rintro ⟨⟨⟨a, ha⟩, ⟨b, hb⟩, -⟩, hf⟩
      exact ⟨_, a, ha, b, hb, (), finish_ok_iff.mpr hf, rfl⟩
  payload c h := by
    simp only [Outcome.bind_ok_iff, Outcome.pure_ok_iff] at h
    obtain ⟨a, ha, b, hb, -, -, rfl⟩ := h
    rw [hw, hr.write_take hp ha, hr'.write_take hp hb]
    rfl

lemma ofKind_decodes {k : Kind} {shapes : Entries Shape} (h : k.shapes? = some shapes) :
    Decodes shapes payload (ofKind tag payload k) := by
  cases k with
  | metadata | custom => contradiction
  | label | information | format | cardinality | standard | mapping | conformance =>
    obtain rfl := Option.some.inj h
    exact decodes_one hp reads_textTable fun _ => rfl
  | entry =>
    obtain rfl := Option.some.inj h
    exact decodes_one hp reads_textTableTable fun _ => rfl
  | entryCode | entryCodeMapping =>
    obtain rfl := Option.some.inj h
    exact decodes_one hp reads_listTable fun _ => rfl
  | sensitive =>
    obtain rfl := Option.some.inj h
    exact decodes_one hp reads_list fun _ => rfl
  | conditional =>
    obtain rfl := Option.some.inj h
    exact decodes_two hp reads_textTable reads_listTable fun _ _ => rfl
  | characterEncoding | unit | link =>
    obtain rfl := Option.some.inj h
    refine decodes_two hp reads_text reads_textTable fun o _ => ?_
    cases o <;> rfl

end Keys

lemma Decodes.payload_eq_completed {k : Kind} {shapes : Entries Shape} {x : Except Error Body}
    (hd : Decodes shapes payload x) (h : k.shapes? = some shapes) {b : Body} (hb : x = .ok b) :
    b.toPayload = k.completed payload := by
  have hn := Kind.nodup_shapes h
  have hk := (hd.success.mp ⟨b, hb⟩).2
  refine (hd.payload b hb).trans (Table.ext_get? fun key => ?_)
  rw [Kind.get?_completed h, get?_ofList ((Entries.names_choose_sublist _).nodup hn),
    Entries.get?_choose _ hn]
  cases hs : shapes.get? key with
  | some sh => rfl
  | none =>
    refine (Entries.get?_eq_none_iff.mpr fun hm => ?_).symm
    obtain ⟨e, he, rfl⟩ := List.mem_map.mp hm
    exact Entries.get?_eq_none_iff.mp hs (hk e he)

lemma Decodes.success_iff_takes {k : Kind} {shapes : Entries Shape} {x : Except Error Body}
    (hd : Decodes shapes payload x) (h : k.shapes? = some shapes) :
    (∃ b, x = .ok b) ↔ ∀ e ∈ payload.entries, k.Takes e.1 e.2 := by
  have hn := Kind.nodup_shapes h
  have hp := payload.sorted.nodup_names
  simp only [Kind.Takes, h]
  refine hd.success.trans ⟨fun ⟨hf, hk⟩ e he => ?_, fun ht => ⟨fun f hf v hv => ?_, fun e he => ?_⟩⟩
  · obtain ⟨f, hm, hfe⟩ := List.mem_map.mp (hk e he)
    refine ⟨f.2, hfe ▸ Entries.get?_of_mem hn hm, hf f hm e.2 ?_⟩
    exact hfe ▸ Entries.get?_of_mem hp he
  · obtain ⟨sh, hsh, hv⟩ := ht _ (Entries.mem_of_get? hv)
    rw [Entries.get?_of_mem hn hf, Option.some.injEq] at hsh
    exact hsh ▸ hv
  · obtain ⟨sh, hsh, -⟩ := ht e he
    exact List.mem_map.mpr ⟨_, Entries.mem_of_get? hsh, rfl⟩

lemma metaText_ok_iff {e : String × Json} :
    (∃ f, metaText tag e = .ok f) ↔ ∃ s, e.2 = .string s := by
  obtain ⟨k, v⟩ := e
  cases v <;> simp [metaText]

lemma ofKind_metadata_iff :
    (∃ b, ofKind tag payload .metadata = .ok b) ↔
      ∀ e ∈ payload.entries, Kind.metadata.Takes e.1 e.2 := by
  have hm : (∃ es, payload.entries.mapM (metaText tag) = .ok es) ↔ _ := Outcome.exists_mapM_ok_iff
  simp only [metaText_ok_iff] at hm
  simp only [ofKind, Kind.Takes, Kind.shapes?, forall_const, ← hm, Outcome.bind_ok_iff,
    Outcome.pure_ok_iff]
  constructor
  · rintro ⟨-, es, hes, -⟩
    exact ⟨es, hes⟩
  · rintro ⟨es, hes⟩
    exact ⟨_, es, hes, rfl⟩

/-- What a payload under a tag is written as, once it is decoded. -/
def completed (tag : String) (payload : Table Json) : Table Json :=
  match Kind.ofTag? tag with
  | some k => k.completed payload
  | none => payload

section OfKind

variable {k : Kind} (hk : k ≠ .custom) (hp : ∀ e ∈ payload.entries, e.2.IsNormal)
include hk hp

lemma ofKind_ok_iff_takes :
    (∃ b, ofKind tag payload k = .ok b) ↔ ∀ e ∈ payload.entries, k.Takes e.1 e.2 := by
  cases hs : k.shapes? with
  | some shapes => exact (ofKind_decodes hp hs).success_iff_takes hs
  | none =>
    cases k with
    | metadata => exact ofKind_metadata_iff
    | custom => contradiction
    | _ => contradiction

lemma toPayload_ofKind {b : Body} (h : ofKind tag payload k = .ok b) :
    b.toPayload = k.completed payload := by
  cases hs : k.shapes? with
  | some shapes => exact (ofKind_decodes hp hs).payload_eq_completed hs h
  | none =>
    cases k with
    | metadata => exact toPayload_of_metadata h
    | custom => contradiction
    | _ => contradiction

end OfKind

end Body

lemma Kind.ofTag?_eq_some_iff {tag : String} {k : Kind} :
    ofTag? tag = some k ↔ k.tag? = some tag := by
  constructor
  · intro h
    obtain ⟨rfl, hc⟩ := of_ofTag? h
    cases k <;> first | contradiction | rfl
  · intro h
    cases k with
    | custom => contradiction
    | _ => exact Option.some.inj h ▸ ofTag?_tagOf nofun

namespace Body

variable {tag : String} {payload : Table Json}

lemma ofPayload_error_of_builtin (hp : ∀ e ∈ payload.entries, e.2.IsNormal) {k : Kind}
    (hk : k.tag? = some tag) : (∃ e, ofPayload tag payload = .error e) ↔
      ∃ e ∈ payload.entries, ¬k.Takes e.1 e.2 := by
  have ht := Kind.ofTag?_eq_some_iff.mpr hk
  rw [Outcome.exists_error_iff, ofPayload_of_ofTag? ht,
    ofKind_ok_iff_takes (Kind.of_ofTag? ht).2 hp]
  push Not
  rfl

lemma ofPayload_error_of_other (h : ∀ k : Kind, k.tag? ≠ some tag) :
    (∃ e, ofPayload tag payload = .error e) ↔ ¬"overlay/".toList <+: tag.toList := by
  have hn : Kind.ofTag? tag = none :=
    Option.eq_none_iff_forall_ne_some.mpr fun k hk => h k (Kind.ofTag?_eq_some_iff.mp hk)
  rw [Outcome.exists_error_iff, not_iff_not, ← Text.isSome_dropStem?]
  simp only [ofPayload_ok_iff, hn, reduceCtorEq, false_and, exists_false, false_or]
  constructor
  · rintro ⟨_, t, rfl, -⟩
    exact t.isOverlayTag
  · exact fun ht => ⟨_, ⟨tag, ht, hn⟩, rfl, rfl⟩

lemma toPayload_ofPayload (hp : ∀ e ∈ payload.entries, e.2.IsNormal) {b : Body}
    (h : ofPayload tag payload = .ok b) : b.toPayload = completed tag payload := by
  rw [completed]
  rcases ofPayload_ok_iff.mp h with ⟨k, hk, hb⟩ | ⟨t, rfl, rfl⟩
  · rw [hk]
    exact toPayload_ofKind (Kind.of_ofTag? hk).2 hp hb
  · rw [t.notBuiltin]
    rfl

/-- A payload that decodes is written as it was given, with null dropped, the names of a list in
order, and blank values filled in; it then decodes again to the same body. A payload fails to decode
only for its tag, or for an entry that its kind does not take. The values of a JSON object are in
order of names at every depth. -/
theorem ofPayload_completed (hp : ∀ e ∈ payload.entries, e.2.IsNormal) :
    (∀ b, ofPayload tag payload = .ok b → b.tag = tag ∧ b.toPayload = completed tag payload ∧
      ofPayload tag b.toPayload = .ok b) ∧
    ((∃ e, ofPayload tag payload = .error e) ↔
      ((∀ k : Kind, k.tag? ≠ some tag) ∧ ¬"overlay/".toList <+: tag.toList) ∨
        ∃ k : Kind, k.tag? = some tag ∧ ∃ e ∈ payload.entries, ¬k.Takes e.1 e.2) := by
  constructor
  · intro b h
    have ht := tag_of_ofPayload h
    exact ⟨ht, toPayload_ofPayload hp h, ht ▸ ofPayload_toPayload b⟩
  · by_cases hb : ∃ k : Kind, k.tag? = some tag
    · obtain ⟨k, hk⟩ := hb
      rw [ofPayload_error_of_builtin hp hk]
      constructor
      · exact fun h => .inr ⟨k, hk, h⟩
      · rintro (⟨h, -⟩ | ⟨l, hl, h⟩)
        · exact absurd hk (h k)
        · rw [← Kind.ofTag?_eq_some_iff] at hk hl
          obtain rfl := Option.some.inj (hk.symm.trans hl)
          exact h
    · rw [not_exists] at hb
      rw [ofPayload_error_of_other hb]
      constructor
      · exact fun h => .inl ⟨hb, h⟩
      · rintro (⟨-, h⟩ | ⟨k, hk, -⟩)
        · exact h
        · exact absurd hk (hb k)

def unsettledNames : Table Json := .ofList [("attributes", .ofTexts ["name", "age", "name"])]

lemma isNormal_unsettledNames : ∀ e ∈ unsettledNames.entries, e.2.IsNormal := by
  intro e he
  obtain rfl := List.mem_singleton.mp he
  rfl

theorem ofPayload_completed_unsettledNames :
    (∃ b, ofPayload "overlay/sensitive/2.0.0" unsettledNames = .ok b ∧
      b.toPayload = completed "overlay/sensitive/2.0.0" unsettledNames ∧
      b.toPayload = .ofList [("attributes", .ofTexts ["age", "name"])] ∧
      ofPayload "overlay/sensitive/2.0.0" b.toPayload = .ok b) ∧
    ∃ e, ofPayload "overlay/label/2.0.0" unsettledNames = .error e := by
  have hp := isNormal_unsettledNames
  constructor
  · have hb : ofPayload "overlay/sensitive/2.0.0" unsettledNames =
        .ok (.sensitive (.ofList ["age", "name"])) := by decide
    obtain ⟨-, hc, hr⟩ := (ofPayload_completed hp).1 _ hb
    exact ⟨_, hb, hc, by decide, hr⟩
  · refine (ofPayload_completed hp).2.mpr (.inr ⟨.label, rfl, _, List.mem_singleton_self _, ?_⟩)
    rintro ⟨sh, hsh, -⟩
    contradiction

end Body

end LayeredSchema

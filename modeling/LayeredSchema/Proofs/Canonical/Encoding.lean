import LayeredSchema.Proofs.Canonical.Head
import LayeredSchema.Proofs.Json.Held
import Mathlib.Data.List.Perm.Basic
import Mathlib.Data.List.Sort

/-!
The canonical encoding of values: equal exactly for values that differ in the order of names alone,
and with an end of its own, whatever follows it.
-/

namespace LayeredSchema

lemma Double.bits_lt (x : Double) : x.bits < 256 ^ 8 := by
  have h := x.finite
  unfold Double.bits
  split <;> omega

lemma Double.bits_inj {x y : Double} (h : x.bits = y.bits) : x = y := by
  obtain ⟨sx, mx, hx⟩ := x
  obtain ⟨sy, my, hy⟩ := y
  cases sx <;> cases sy <;> simp only [bits, if_true, if_false, Bool.false_eq_true] at h
  · rw [Double.mk.injEq]
    exact ⟨rfl, h⟩
  · omega
  · omega
  · rw [Double.mk.injEq]
    exact ⟨rfl, by omega⟩

namespace Canonical

variable {v w : Json} {x y : List UInt8}

def majorType : Json → ℕ
  | .number (.natural _ _) => 0
  | .number (.negative _ _) => 1
  | .string _ => 3
  | .array _ => 4
  | .object _ => 5
  | _ => 7

lemma majorType?_encode (v : Json) (x : List UInt8) :
    majorType? (encode v ++ x) = some (majorType v) := by
  cases v with
  | null => rfl
  | bool b => cases b <;> rfl
  | number n =>
    cases n with
    | natural n _ => exact majorType?_head (by decide) n x
    | negative n _ => exact majorType?_head (by decide) n x
    | double d => rfl
  | string s =>
    rw [encode, encodeText, List.append_assoc]
    exact majorType?_head (by decide) _ _
  | array items =>
    rw [encode, List.append_assoc]
    exact majorType?_head (by decide) _ _
  | object es =>
    rw [encode, List.append_assoc]
    exact majorType?_head (by decide) _ _

lemma majorType_eq (h : encode v ++ x = encode w ++ y) : majorType v = majorType w := by
  have hx := majorType?_encode v x
  rw [h, majorType?_encode] at hx
  exact (Option.some.inj hx).symm

lemma encodeNumber_append_inj {m n : Number} (h : encodeNumber m ++ x = encodeNumber n ++ y) :
    m = n ∧ x = y := by
  have hm : majorType (.number m) = majorType (.number n) := majorType_eq (by simpa [encode] using h)
  cases m with
  | natural i hi =>
    cases n with
    | natural j hj =>
      obtain ⟨rfl, hxy⟩ := head_append_inj hi hj (by decide) h
      exact ⟨rfl, hxy⟩
    | _ => simp [majorType] at hm
  | negative i hi =>
    cases n with
    | negative j hj =>
      obtain ⟨rfl, hxy⟩ := head_append_inj (by omega) (by omega) (by decide) h
      exact ⟨rfl, hxy⟩
    | _ => simp [majorType] at hm
  | double a =>
    cases n with
    | double b =>
      obtain ⟨hb, hxy⟩ := List.append_inj (List.cons.inj h).2
        (by rw [length_bigEndian, length_bigEndian])
      have hv := congrArg value hb
      rw [value_bigEndian, value_bigEndian, Nat.mod_eq_of_lt a.bits_lt,
        Nat.mod_eq_of_lt b.bits_lt] at hv
      exact ⟨congrArg Number.double (Double.bits_inj hv), hxy⟩
    | _ => simp [majorType] at hm

/-- Whether the encoding of a value tells the value and its own end. -/
def Delimits (v : Json) : Prop :=
  ∀ ⦃w⦄, w.IsHeld → ∀ ⦃x y⦄, encode v ++ x = encode w ++ y → v.normal = w.normal ∧ x = y

lemma Delimits.encode_eq (hv : Delimits v) (hw : w.IsHeld) (h : encode v ++ x = encode w ++ y) :
    encode v = encode w := by
  rw [(hv hw h).2] at h
  exact List.append_cancel_right h

lemma encodeItems_append_inj {vs ws : List Json} (hv : ∀ v ∈ vs, Delimits v)
    (hw : ∀ w ∈ ws, w.IsHeld) (hl : vs.length = ws.length)
    (h : encodeItems vs ++ x = encodeItems ws ++ y) :
    vs.map Json.normal = ws.map Json.normal ∧ x = y := by
  induction vs generalizing ws with
  | nil =>
    obtain rfl := List.eq_nil_of_length_eq_zero hl.symm
    exact ⟨rfl, h⟩
  | cons v vs ih =>
    cases ws with
    | nil => simp at hl
    | cons w ws =>
      simp only [encodeItems, List.append_assoc] at h
      obtain ⟨hn, h⟩ := hv v List.mem_cons_self (hw w List.mem_cons_self) h
      obtain ⟨hns, hxy⟩ := ih (fun v hm => hv v (List.mem_cons_of_mem _ hm))
        (fun w hm => hw w (List.mem_cons_of_mem _ hm)) (Nat.succ.inj hl) h
      exact ⟨by rw [List.map_cons, List.map_cons, hn, hns], hxy⟩

def encodeEntry (e : String × Json) : List UInt8 × List UInt8 := (encodeText e.1, encode e.2)

lemma encodeEntries_eq_map (es : Entries Json) : encodeEntries es = es.map encodeEntry := by
  induction es with
  | nil => rfl
  | cons e es ih => rw [encodeEntries, ih, List.map_cons, encodeEntry]

def normalEntry (e : String × Json) : String × Json := (e.1, e.2.normal)

def DelimitsEntry (e : String × Json) : Prop := e.1.utf8ByteSize < 1 <<< 64 ∧ Delimits e.2

def IsHeldEntry (e : String × Json) : Prop := e.1.utf8ByteSize < 1 <<< 64 ∧ e.2.IsHeld

lemma encodeEntry_append_inj {e f : String × Json} (he : DelimitsEntry e) (hf : IsHeldEntry f)
    (h : (encodeEntry e).1 ++ ((encodeEntry e).2 ++ x) =
      (encodeEntry f).1 ++ ((encodeEntry f).2 ++ y)) :
    encodeEntry e = encodeEntry f ∧ normalEntry e = normalEntry f ∧ x = y := by
  obtain ⟨hk, h⟩ := encodeText_append_inj he.1 hf.1 h
  obtain ⟨hn, hxy⟩ := he.2 hf.2 h
  have hv : encode e.2 = encode f.2 := he.2.encode_eq hf.2 h
  exact ⟨by rw [encodeEntry, encodeEntry, hk, hv], by rw [normalEntry, normalEntry, hk, hn], hxy⟩

lemma flatMap_append_inj {ps qs : List (List UInt8 × List UInt8)}
    (hp : ∀ p ∈ ps, ∃ e, DelimitsEntry e ∧ encodeEntry e = p)
    (hq : ∀ q ∈ qs, ∃ f, IsHeldEntry f ∧ encodeEntry f = q) (hl : ps.length = qs.length)
    (h : (ps.flatMap fun (key, value) => key ++ value) ++ x =
      (qs.flatMap fun (key, value) => key ++ value) ++ y) : ps = qs ∧ x = y := by
  induction ps generalizing qs with
  | nil =>
    obtain rfl := List.eq_nil_of_length_eq_zero hl.symm
    exact ⟨rfl, h⟩
  | cons p ps ih =>
    cases qs with
    | nil => simp at hl
    | cons q qs =>
      obtain ⟨e, he, rfl⟩ := hp p List.mem_cons_self
      obtain ⟨f, hf, rfl⟩ := hq q List.mem_cons_self
      simp only [List.flatMap_cons, List.append_assoc] at h
      obtain ⟨hpq, -, h⟩ := encodeEntry_append_inj he hf h
      obtain ⟨hs, hxy⟩ := ih (fun p hm => hp p (List.mem_cons_of_mem _ hm))
        (fun q hm => hq q (List.mem_cons_of_mem _ hm)) (Nat.succ.inj hl) h
      exact ⟨by rw [hpq, hs], hxy⟩

section Sorting

variable {α β : Type}

lemma placeEntry_perm (p : List UInt8 × α) (ps : List (List UInt8 × α)) :
    (placeEntry p ps).Perm (p :: ps) := by
  induction ps with
  | nil => exact .rfl
  | cons q ps ih =>
    rw [placeEntry]
    split_ifs
    · exact (ih.cons q).trans (.swap p q ps)
    · exact .rfl

lemma sortEntries_perm (ps : List (List UInt8 × α)) : (sortEntries ps).Perm ps := by
  induction ps with
  | nil => exact .rfl
  | cons p ps ih => exact (placeEntry_perm p _).trans (ih.cons p)

lemma sortEntries_map (f : α → β) (ps : List (List UInt8 × α)) :
    sortEntries (ps.map fun p => (p.1, f p.2)) = (sortEntries ps).map fun p => (p.1, f p.2) := by
  have hp (p : List UInt8 × α) (qs : List (List UInt8 × α)) :
      placeEntry (p.1, f p.2) (qs.map fun q => (q.1, f q.2)) =
        (placeEntry p qs).map fun q => (q.1, f q.2) := by
    induction qs with
    | nil => rfl
    | cons q qs ih =>
      rw [List.map_cons, placeEntry, placeEntry, ih, apply_ite (List.map _)]
      rfl
  induction ps with
  | nil => rfl
  | cons p ps ih =>
    rw [List.map_cons, sortEntries, List.foldr_cons, ← sortEntries, ih, hp]
    rfl

def InOrder (ps : List (List UInt8 × α)) : Prop := ps.Pairwise fun p q => p.1 ≤ q.1

lemma InOrder.place {ps : List (List UInt8 × α)} (h : InOrder ps) (p : List UInt8 × α) :
    InOrder (placeEntry p ps) := by
  induction ps with
  | nil => exact List.pairwise_singleton _ _
  | cons q ps ih =>
    obtain ⟨hq, hps⟩ := List.pairwise_cons.mp h
    rw [placeEntry]
    split_ifs with hlt
    · refine List.pairwise_cons.mpr ⟨fun r hr => ?_, ih hps⟩
      rcases List.mem_cons.mp ((placeEntry_perm p ps).subset hr) with rfl | hr
      · exact List.le_of_lt hlt
      · exact hq r hr
    · refine List.pairwise_cons.mpr ⟨fun r hr => ?_, h⟩
      have hpq : p.1 ≤ q.1 := List.not_lt.mp hlt
      rcases List.mem_cons.mp hr with rfl | hr
      · exact hpq
      · exact List.le_trans hpq (hq r hr)

lemma inOrder_sortEntries (ps : List (List UInt8 × α)) : InOrder (sortEntries ps) := by
  induction ps with
  | nil => exact .nil
  | cons p ps ih => exact ih.place p

end Sorting

lemma perm_map_of_perm_map {α β γ : Type} {f : α → β} {g : α → γ} {as bs : List α}
    (hg : ∀ a ∈ as, ∀ b ∈ bs, f a = f b → g a = g b) (h : (as.map f).Perm (bs.map f)) :
    (as.map g).Perm (bs.map g) := by
  induction as generalizing bs with
  | nil =>
    obtain rfl := List.map_eq_nil_iff.mp (List.nil_perm.mp h)
    exact .nil
  | cons a as ih =>
    obtain ⟨b, hb, hab⟩ := List.mem_map.mp (h.subset List.mem_cons_self)
    obtain ⟨ls, rs, rfl⟩ := List.append_of_mem hb
    have hm : (as.map f).Perm ((ls ++ rs).map f) := by
      have hp := h.trans (List.perm_middle.map f)
      rw [List.map_cons, List.map_cons, hab] at hp
      exact hp.cons_inv
    have hi := ih (fun a ha b hb => hg a (List.mem_cons_of_mem _ ha) b
      (List.perm_middle.symm.subset (List.mem_cons_of_mem _ hb))) hm
    have ha := hg a List.mem_cons_self b hb hab.symm
    rw [List.map_cons, ha]
    exact (hi.cons _).trans (List.perm_middle.symm.map g)

lemma normal_array (items : List Json) :
    Json.normal (.array items) = .array (items.map Json.normal) := by
  rw [Json.normal, Json.normalItems_eq_map]

lemma normal_object (es : Entries Json) :
    Json.normal (.object es) = .object (Entries.ofList (es.map normalEntry)) := by
  rw [Json.normal, Json.normalEntries_eq_map]
  rfl

lemma names_map_normalEntry (es : Entries Json) :
    Entries.names (es.map normalEntry) = Entries.names es := by
  rw [Entries.names, List.map_map]
  rfl

lemma ofList_eq_of_perm {es fs : Entries Json} (he : es.names.Nodup) (h : es.Perm fs) :
    Entries.ofList es = Entries.ofList fs := by
  have hf : fs.names.Nodup := (h.map _).nodup_iff.mp he
  have hp := (Entries.perm_ofList he).trans (h.trans (Entries.perm_ofList hf).symm)
  exact (Entries.sorted_ofList es).eq_of_perm (Entries.sorted_ofList fs) hp

lemma normal_object_eq_of_perm {es fs : Entries Json} (he : es.names.Nodup)
    (h : (es.map normalEntry).Perm (fs.map normalEntry)) :
    Json.normal (.object es) = Json.normal (.object fs) := by
  rw [normal_object, normal_object, ofList_eq_of_perm (by rwa [names_map_normalEntry]) h]

lemma normal_object_eq_iff {es fs : Entries Json} (he : es.names.Nodup) (hf : fs.names.Nodup) :
    Json.normal (.object es) = Json.normal (.object fs) ↔
      ∀ k, (es.get? k).map Json.normal = (fs.get? k).map Json.normal := by
  have hget (es : Entries Json) (h : es.names.Nodup) (k : String) :
      (Entries.ofList (es.map normalEntry)).get? k = (es.get? k).map Json.normal := by
    rw [Entries.get?_ofList (by rwa [names_map_normalEntry])]
    exact Entries.get?_map es Json.normal k
  rw [normal_object, normal_object, Json.object.injEq]
  constructor
  · intro h k
    rw [← hget es he, h, hget fs hf]
  · intro h
    have hs := Entries.sorted_ofList (es.map normalEntry)
    have ht := Entries.sorted_ofList (fs.map normalEntry)
    refine hs.eq_of_perm ht (Entries.perm_of_get?_eq hs.nodup_names ht.nodup_names fun k => ?_)
    rw [hget es he, hget fs hf, h]

lemma encodeObject_append_inj {es fs : Entries Json} (he : ∀ e ∈ es, DelimitsEntry e)
    (hf : ∀ f ∈ fs, IsHeldEntry f) (hn : es.names.Nodup) (hl : es.length = fs.length)
    (h : ((sortEntries (encodeEntries es)).flatMap fun (key, value) => key ++ value) ++ x =
      ((sortEntries (encodeEntries fs)).flatMap fun (key, value) => key ++ value) ++ y) :
    Json.normal (.object es) = Json.normal (.object fs) ∧ x = y := by
  rw [encodeEntries_eq_map, encodeEntries_eq_map] at h
  have hp : ∀ p ∈ sortEntries (es.map encodeEntry), ∃ e, DelimitsEntry e ∧ encodeEntry e = p := by
    intro p hp
    obtain ⟨e, hm, rfl⟩ := List.mem_map.mp ((sortEntries_perm _).subset hp)
    exact ⟨e, he e hm, rfl⟩
  have hq : ∀ q ∈ sortEntries (fs.map encodeEntry), ∃ f, IsHeldEntry f ∧ encodeEntry f = q := by
    intro q hq
    obtain ⟨f, hm, rfl⟩ := List.mem_map.mp ((sortEntries_perm _).subset hq)
    exact ⟨f, hf f hm, rfl⟩
  have hlen : (sortEntries (es.map encodeEntry)).length =
      (sortEntries (fs.map encodeEntry)).length := by
    rw [(sortEntries_perm _).length_eq, (sortEntries_perm _).length_eq, List.length_map,
      List.length_map, hl]
  obtain ⟨hs, hxy⟩ := flatMap_append_inj hp hq hlen h
  have hperm : (es.map encodeEntry).Perm (fs.map encodeEntry) :=
    (sortEntries_perm _).symm.trans (hs ▸ sortEntries_perm _)
  refine ⟨normal_object_eq_of_perm hn (perm_map_of_perm_map (fun e hem f hfm hef => ?_) hperm), hxy⟩
  exact (encodeEntry_append_inj (x := []) (y := []) (he e hem) (hf f hfm) (by rw [hef])).2.1

lemma IsHeldEntry.of_mem {es : Entries Json} (h : Json.IsHeld (.object es)) {e : String × Json}
    (he : e ∈ es) : IsHeldEntry e :=
  ⟨h.here.1.2 e he, h.value he⟩

lemma delimits_simple (hv : v = .null ∨ ∃ b, v = .bool b) : Delimits v := by
  intro w _ x y h
  have hm := majorType_eq h
  rcases hv with rfl | ⟨b, rfl⟩
  · cases w with
    | null => exact ⟨rfl, (List.cons.inj h).2⟩
    | bool c => cases c <;> simp [encode] at h
    | number n => cases n <;> simp [majorType, encode, encodeNumber] at hm h
    | _ => simp [majorType] at hm
  · cases w with
    | null => cases b <;> simp [encode] at h
    | bool c => cases b <;> cases c <;> simp [encode] at h <;> exact ⟨rfl, h⟩
    | number n => cases n <;> cases b <;> simp [majorType, encode, encodeNumber] at hm h
    | _ => simp [majorType] at hm

lemma delimits (hv : v.IsHeld) : Delimits v := by
  induction hv with
  | @intro v hv inside ih =>
    intro w hw x y h
    have hm := majorType_eq h
    cases v with
    | null => exact delimits_simple (Or.inl rfl) hw h
    | bool b => exact delimits_simple (Or.inr ⟨b, rfl⟩) hw h
    | number n =>
      cases w with
      | number m =>
        obtain ⟨rfl, hxy⟩ := encodeNumber_append_inj h
        exact ⟨rfl, hxy⟩
      | null => cases n <;> simp [majorType, encode, encodeNumber] at hm h
      | bool c => cases n <;> cases c <;> simp [majorType, encode, encodeNumber] at hm h
      | _ => cases n <;> simp [majorType] at hm
    | string s =>
      cases w with
      | string t =>
        obtain ⟨rfl, hxy⟩ := encodeText_append_inj hv.1 hw.here.1 h
        exact ⟨rfl, hxy⟩
      | number n => cases n <;> simp [majorType] at hm
      | _ => simp [majorType] at hm
    | array items =>
      cases w with
      | array items' =>
        simp only [encode, List.append_assoc] at h
        obtain ⟨hl, h⟩ := head_append_inj hv.1 hw.here.1 (by decide) h
        have hi : ∀ v ∈ items, Delimits v := ih
        have hi' : ∀ w ∈ items', w.IsHeld := hw.inside
        obtain ⟨hn, hxy⟩ := encodeItems_append_inj hi hi' hl h
        exact ⟨by rw [normal_array, normal_array, hn], hxy⟩
      | number n => cases n <;> simp [majorType] at hm
      | _ => simp [majorType] at hm
    | object es =>
      cases w with
      | object fs =>
        simp only [encode, List.append_assoc] at h
        obtain ⟨hl, h⟩ := head_append_inj hv.1.1 hw.here.1.1 (by decide) h
        refine encodeObject_append_inj (fun e he => ⟨hv.1.2 e he, ?_⟩)
          (fun f hf => .of_mem hw hf) hv.2 hl h
        exact ih e.2 (List.mem_map.mpr ⟨e, he, rfl⟩)
      | number n => cases n <;> simp [majorType] at hm
      | _ => simp [majorType] at hm

lemma sortEntries_eq_of_perm {ps qs : List (List UInt8 × List UInt8)}
    (hn : (ps.map (·.1)).Nodup) (h : ps.Perm qs) : sortEntries ps = sortEntries qs := by
  have hp := (sortEntries_perm ps).trans (h.trans (sortEntries_perm qs).symm)
  refine hp.eq_of_pairwise (fun a b ha hb hab hba => ?_) (inOrder_sortEntries ps)
    (inOrder_sortEntries qs)
  have hk : a.1 = b.1 := List.le_antisymm hab hba
  have ha' := (sortEntries_perm ps).subset ha
  have hb' := h.symm.subset ((sortEntries_perm qs).subset hb)
  exact List.inj_on_of_nodup_map hn ha' hb' hk

lemma encodeItems_eq_flatMap (vs : List Json) : encodeItems vs = vs.flatMap encode := by
  induction vs with
  | nil => rfl
  | cons v vs ih => rw [encodeItems, ih, List.flatMap_cons]

lemma nodup_keys {es : Entries Json} (h : Json.IsHeld (.object es)) :
    ((es.map encodeEntry).map (·.1)).Nodup := by
  have hk : (es.map encodeEntry).map (·.1) = (Entries.names es).map encodeText := by
    rw [Entries.names, List.map_map, List.map_map]
    rfl
  have hsize : ∀ k ∈ Entries.names es, k.utf8ByteSize < 1 <<< 64 := by
    intro k hk
    obtain ⟨e, he, rfl⟩ := List.mem_map.mp hk
    exact h.here.1.2 e he
  rw [hk]
  refine List.Nodup.map_on (fun k hk l hl hkl => ?_) h.here.2
  exact (encodeText_append_inj (x := []) (y := []) (hsize k hk) (hsize l hl) (by rw [hkl])).1

lemma encode_normal (hv : v.IsHeld) : encode v.normal = encode v := by
  induction hv with
  | @intro v hv inside ih =>
    cases v with
    | null | bool _ | number _ | string _ => rfl
    | array items =>
      have hi : ∀ v ∈ items, encode v.normal = encode v := ih
      rw [normal_array, encode, encode, encodeItems_eq_flatMap, encodeItems_eq_flatMap,
        List.length_map, List.flatMap_map, List.flatMap_congr hi]
    | object es =>
      have hi : ∀ e ∈ es, encodeEntry (normalEntry e) = encodeEntry e := by
        intro e he
        exact congrArg (Prod.mk _) (ih e.2 (List.mem_map.mpr ⟨e, he, rfl⟩))
      have hp : (Entries.ofList (es.map normalEntry)).Perm (es.map normalEntry) :=
        Entries.perm_ofList (by rw [names_map_normalEntry]; exact hv.2)
      have he : (encodeEntries es).Perm (encodeEntries (Entries.ofList (es.map normalEntry))) := by
        rw [encodeEntries_eq_map, encodeEntries_eq_map]
        have hm : es.map (encodeEntry ∘ normalEntry) = es.map encodeEntry := List.map_congr_left hi
        refine List.Perm.trans ?_ (hp.map encodeEntry).symm
        rw [List.map_map, hm]
      have hn : ((encodeEntries es).map (·.1)).Nodup := by
        rw [encodeEntries_eq_map]
        exact nodup_keys (.intro hv inside)
      rw [normal_object, encode, encode, hp.length_eq, List.length_map,
        sortEntries_eq_of_perm hn he]

lemma encode_append_eq_iff (hv : v.IsHeld) (hw : w.IsHeld) :
    encode v ++ x = encode w ++ y ↔ v.normal = w.normal ∧ x = y := by
  constructor
  · exact fun h => delimits hv hw h
  · rintro ⟨hn, rfl⟩
    rw [← encode_normal hv, ← encode_normal hw, hn]

lemma encode_eq_iff (hv : v.IsHeld) (hw : w.IsHeld) : encode v = encode w ↔ v.normal = w.normal := by
  simpa using encode_append_eq_iff (x := []) (y := []) hv hw

end Canonical

end LayeredSchema

import LayeredSchema.Proofs.Canonical.Item
import LayeredSchema.Proofs.Canonical.Shortest

/-!
The form of canonical encodings: every head is as short as its number lets it be, containers state
how many elements they have, and keys of maps ascend, byte by byte, which orders them by length
first. A reader that asks for none of this gets the value back. Main statement:
`encode_deterministic`.
-/

namespace LayeredSchema.Canonical

variable {major n : ℕ} {x bs rest : List UInt8} {v : Json} {i : Item}

/-! ### Encodings of items -/

/-- Bytes are the deterministic encoding of an item: heads are the shortest, containers state how
many elements they have, and the encoded keys of a map ascend. -/
inductive IsDeterministic : Item → List UInt8 → Prop
  | natural {n : ℕ} {start : List UInt8} (short : IsShortest 0 n start) :
    IsDeterministic (.integer n) start
  | negative {n : ℕ} {start : List UInt8} (short : IsShortest 1 n start) :
    IsDeterministic (.integer (-1 - n)) start
  | text {s : String} {start : List UInt8} (short : IsShortest 3 (textBytes s).length start) :
    IsDeterministic (.text s) (start ++ textBytes s)
  | array {items : List (Item × List UInt8)} {start : List UInt8}
    (short : IsShortest 4 items.length start) (inside : ∀ p ∈ items, IsDeterministic p.1 p.2) :
    IsDeterministic (.array (items.map (·.1))) (start ++ items.flatMap (·.2))
  | map {entries : List ((Item × List UInt8) × Item × List UInt8)} {start : List UInt8}
    (short : IsShortest 5 entries.length start)
    (keys : ∀ e ∈ entries, IsDeterministic e.1.1 e.1.2)
    (values : ∀ e ∈ entries, IsDeterministic e.2.1 e.2.2)
    (ascending : entries.Pairwise fun e f => e.1.2 < f.1.2) :
    IsDeterministic (.map (entries.map fun e => (e.1.1, e.2.1)))
      (start ++ entries.flatMap fun e => e.1.2 ++ e.2.2)
  | bool (b : Bool) : IsDeterministic (.bool b) [if b then 0xf5 else 0xf4]
  | null : IsDeterministic .null [0xf6]
  | float (bits : UInt64) : IsDeterministic (.float bits) (0xfb :: bigEndian 8 bits.toNat)

lemma takeBytes?_append (x rest : List UInt8) :
    takeBytes? x.length (x ++ rest) = some (x, rest) := by
  rw [takeBytes?, if_pos (by simp), List.take_left, List.drop_left]

lemma readText?_textBytes (s : String) : readText? (textBytes s) = some s := by
  have hs : (⟨(textBytes s).toArray⟩ : ByteArray) = s.toUTF8 := rfl
  rw [readText?, hs]
  exact dif_pos s.isValidUTF8

lemma item?_of_readHead? {h : Head} (hx : x ≠ [])
    (hr : readHead? (x ++ rest) = some (h, rest)) : item? (x ++ rest) = content? h rest := by
  rw [item?, hr]
  exact if_pos (by simpa using List.length_pos_iff.mpr hx)

lemma item?_of_isShortest {r : Option (Item × List UInt8)} (h : IsShortest major n bs)
    (hm : major < 8) (hc : ∀ info, content? ⟨major, info, n⟩ rest = r) :
    item? (bs ++ rest) = r := by
  obtain ⟨info, hr⟩ := readHead?_of_isShortest hm h rest
  rw [item?_of_readHead? h.ne_nil hr, hc]

def Reads (i : Item) (bs : List UInt8) : Prop :=
  bs ≠ [] ∧ ∀ rest, item? (bs ++ rest) = some (i, rest)

lemma items?_of_reads {ps : List (Item × List UInt8)} (h : ∀ p ∈ ps, Reads p.1 p.2)
    (rest : List UInt8) :
    items? ps.length (ps.flatMap (·.2) ++ rest) = some (ps.map (·.1), rest) := by
  induction ps with
  | nil => simp [items?]
  | cons p ps ih =>
    obtain ⟨⟨hpos, hp⟩, hps⟩ := List.forall_mem_cons.mp h
    rw [List.length_cons, List.flatMap_cons, List.append_assoc, items?, hp]
    simp [List.length_pos_iff, hpos, ih hps]

lemma entries?_of_reads {es : List ((Item × List UInt8) × Item × List UInt8)}
    (hk : ∀ e ∈ es, Reads e.1.1 e.1.2) (hv : ∀ e ∈ es, Reads e.2.1 e.2.2) (rest : List UInt8) :
    entries? es.length (es.flatMap (fun e => e.1.2 ++ e.2.2) ++ rest) =
      some (es.map fun e => (e.1.1, e.2.1), rest) := by
  induction es with
  | nil => simp [entries?]
  | cons e es ih =>
    obtain ⟨⟨hkpos, hk⟩, hks⟩ := List.forall_mem_cons.mp hk
    obtain ⟨⟨hvpos, hv⟩, hvs⟩ := List.forall_mem_cons.mp hv
    rw [List.length_cons, List.flatMap_cons, List.append_assoc, List.append_assoc, entries?, hk]
    simp [List.length_pos_iff, hkpos, hv, hvpos, ih hks hvs]

lemma reads_of_isDeterministic (h : IsDeterministic i bs) : Reads i bs := by
  -- What follows is left free, since inside a container it is the encoding of the other elements.
  induction h with
  | @natural n start short =>
    refine ⟨short.ne_nil, fun rest => item?_of_isShortest short (by decide) fun info => ?_⟩
    rw [content?]
    rfl
  | @negative n start short =>
    refine ⟨short.ne_nil, fun rest => item?_of_isShortest short (by decide) fun info => ?_⟩
    rw [content?]
    rfl
  | @text s start short =>
    refine ⟨List.append_ne_nil_of_left_ne_nil short.ne_nil _, fun rest => ?_⟩
    rw [List.append_assoc]
    refine item?_of_isShortest short (by decide) fun info => ?_
    simp [content?, takeBytes?_append, readText?_textBytes]
  | @array items start short _ ih =>
    refine ⟨List.append_ne_nil_of_left_ne_nil short.ne_nil _, fun rest => ?_⟩
    rw [List.append_assoc]
    refine item?_of_isShortest short (by decide) fun info => ?_
    simp [content?, items?_of_reads ih]
  | @map entries start short _ _ _ ihk ihv =>
    refine ⟨List.append_ne_nil_of_left_ne_nil short.ne_nil _, fun rest => ?_⟩
    rw [List.append_assoc]
    refine item?_of_isShortest short (by decide) fun info => ?_
    simp only [content?, entries?_of_reads ihk ihv, Option.map_some]
  | bool b =>
    refine ⟨List.cons_ne_nil _ _, fun rest => ?_⟩
    have hr : readHead? ([if b then 0xf5 else 0xf4] ++ rest) =
        some (⟨7, if b then 21 else 20, if b then 21 else 20⟩, rest) := by cases b <;> rfl
    rw [item?_of_readHead? (List.cons_ne_nil _ _) hr, content?]
    cases b <;> rfl
  | null =>
    refine ⟨List.cons_ne_nil _ _, fun rest => ?_⟩
    have hr : readHead? ([0xf6] ++ rest) = some (⟨7, 22, 22⟩, rest) := rfl
    rw [item?_of_readHead? (List.cons_ne_nil _ _) hr, content?]
    rfl
  | float bits =>
    refine ⟨List.cons_ne_nil _ _, fun rest => ?_⟩
    have hb : Holds 8 bits.toNat := bits.toNat_lt
    have hr := readHead?_headOf (by decide : 7 < 8) (by decide) hb rest
    have hs : 0xfb :: bigEndian 8 bits.toNat = headOf 7 8 bits.toNat := rfl
    rw [hs, item?_of_readHead? (x := headOf 7 8 bits.toNat) (List.cons_ne_nil _ _) hr, content?]
    simp [simple?, mark]

/-! ### Values in the order of their encoding -/

def arrange (es : Entries Json) : Entries Json :=
  (sortEntries (es.map fun e => (encodeText e.1, e))).map (·.2)

mutual

def arranged : Json → Json
  | .array items => .array (arrangedItems items)
  | .object es => .object (arrange (arrangedEntries es))
  | v => v

def arrangedItems : List Json → List Json
  | [] => []
  | v :: vs => arranged v :: arrangedItems vs

def arrangedEntries : List (String × Json) → List (String × Json)
  | [] => []
  | (k, v) :: es => (k, arranged v) :: arrangedEntries es

end

def arrangedEntry (e : String × Json) : String × Json := (e.1, arranged e.2)

lemma arrangedItems_eq_map (vs : List Json) : arrangedItems vs = vs.map arranged := by
  induction vs with
  | nil => rfl
  | cons v vs ih => rw [arrangedItems, ih, List.map_cons]

lemma arrangedEntries_eq_map (es : Entries Json) : arrangedEntries es = es.map arrangedEntry := by
  induction es with
  | nil => rfl
  | cons e es ih => rw [arrangedEntries, ih, List.map_cons, arrangedEntry]

lemma arrange_perm (es : Entries Json) : (arrange es).Perm es := by
  have h := (sortEntries_perm (es.map fun e => (encodeText e.1, e))).map (·.2)
  rw [List.map_map] at h
  simpa [arrange, Function.comp_def] using h

lemma sortEntries_keyed {α : Type} (f : String × Json → α) (es : Entries Json) :
    sortEntries (es.map fun e => (encodeText e.1, f e)) =
      (arrange es).map fun e => (encodeText e.1, f e) := by
  have h := sortEntries_map f (es.map fun e => (encodeText e.1, e))
  rw [List.map_map] at h
  rw [arrange, List.map_map]
  refine h.trans (List.map_congr_left fun p hp => ?_)
  obtain ⟨e, -, rfl⟩ := List.mem_map.mp ((sortEntries_perm _).subset hp)
  rfl

lemma arrange_map_arrangedEntry (es : Entries Json) :
    arrange (es.map arrangedEntry) = (arrange es).map arrangedEntry := by
  have h := sortEntries_keyed arrangedEntry es
  rw [arrange, List.map_map]
  exact (congrArg (List.map (·.2)) h).trans (List.map_map ..)

lemma arranged_array (items : List Json) :
    arranged (.array items) = .array (items.map arranged) := by
  rw [arranged, arrangedItems_eq_map]

lemma arranged_object (es : Entries Json) :
    arranged (.object es) = .object ((arrange es).map arrangedEntry) := by
  rw [arranged, arrangedEntries_eq_map, arrange_map_arrangedEntry]

lemma encode_object (es : Entries Json) : encode (.object es) =
    head 5 (arrange es).length ++ (arrange es).flatMap fun e => encodeText e.1 ++ encode e.2 := by
  have h := sortEntries_keyed (fun e => encode e.2) es
  rw [encode, encodeEntries_eq_map, (arrange_perm es).length_eq]
  exact congrArg _ ((congrArg _ h).trans (List.flatMap_map ..))

lemma ascending_arrange {es : Entries Json} (h : Json.IsHeld (.object es)) :
    (arrange es).Pairwise fun e f => encodeText e.1 < encodeText f.1 := by
  have hle := inOrder_sortEntries (es.map fun e => (encodeText e.1, e))
  rw [sortEntries_keyed fun e => e, InOrder, List.pairwise_map] at hle
  have hne : ((arrange es).map fun e => encodeText e.1).Nodup := by
    have hn := nodup_keys h
    rw [List.map_map] at hn
    exact ((arrange_perm es).map _).nodup_iff.mpr hn
  refine (hle.and (List.pairwise_map.mp hne)).imp fun {e f} hef => ?_
  exact List.not_le.mp fun hfe => hef.2 (List.le_antisymm hef.1 hfe)

lemma ofItems_eq_map (vs : List Json) : Item.ofItems vs = vs.map Item.ofJson := by
  induction vs with
  | nil => rfl
  | cons v vs ih => rw [Item.ofItems, ih, List.map_cons]

lemma ofEntries_eq_map (es : Entries Json) :
    Item.ofEntries es = es.map fun e => (.text e.1, Item.ofJson e.2) := by
  induction es with
  | nil => rfl
  | cons e es ih => rw [Item.ofEntries, ih, List.map_cons]

lemma isDeterministic_text {s : String} (hs : s.utf8ByteSize < 1 <<< 64) :
    IsDeterministic (.text s) (encodeText s) :=
  .text (head_isShortest (by rwa [length_textBytes]))

lemma toNat_bits (x : Double) : (UInt64.ofNat x.bits).toNat = x.bits := by
  rw [UInt64.toNat_ofNat']
  exact Nat.mod_eq_of_lt x.bits_lt

lemma isDeterministic_number (n : Number) :
    IsDeterministic (Item.ofJson (.number n)) (encodeNumber n) := by
  cases n with
  | natural n hn => exact .natural (head_isShortest hn)
  | negative n hn => exact .negative (head_isShortest (Nat.lt_trans hn (by decide)))
  | double x =>
    have h := IsDeterministic.float (UInt64.ofNat x.bits)
    rwa [toNat_bits] at h

def encoded (v : Json) : Item × List UInt8 := (Item.ofJson (arranged v), encode v)

def encodedEntry (e : String × Json) : (Item × List UInt8) × Item × List UInt8 :=
  ((.text e.1, encodeText e.1), encoded e.2)

lemma isDeterministic_array {items : List Json} (hl : items.length < 1 <<< 64)
    (hi : ∀ v ∈ items, IsDeterministic (encoded v).1 (encoded v).2) :
    IsDeterministic (Item.ofJson (arranged (.array items))) (encode (.array items)) := by
  have h : IsDeterministic (.array ((items.map encoded).map (·.1)))
      (head 4 (items.map encoded).length ++ (items.map encoded).flatMap (·.2)) := by
    refine .array (head_isShortest (by rwa [List.length_map])) fun p hp => ?_
    obtain ⟨v, hv, rfl⟩ := List.mem_map.mp hp
    exact hi v hv
  rw [List.map_map, List.length_map, List.flatMap_map] at h
  rw [arranged_array, Item.ofJson, ofItems_eq_map, List.map_map, encode, encodeItems_eq_flatMap]
  exact h

lemma isDeterministic_object {es : Entries Json} (h : Json.IsHeld (.object es))
    (hi : ∀ e ∈ es, IsDeterministic (encoded e.2).1 (encoded e.2).2) :
    IsDeterministic (Item.ofJson (arranged (.object es))) (encode (.object es)) := by
  have hp := arrange_perm es
  have hd : IsDeterministic
      (.map (((arrange es).map encodedEntry).map fun e => (e.1.1, e.2.1)))
      (head 5 ((arrange es).map encodedEntry).length ++
        ((arrange es).map encodedEntry).flatMap fun e => e.1.2 ++ e.2.2) := by
    refine .map (head_isShortest ?_) (fun p hm => ?_) (fun p hm => ?_)
      (List.pairwise_map.mpr (ascending_arrange h))
    · rw [List.length_map, hp.length_eq]
      exact h.here.1.1
    · obtain ⟨e, he, rfl⟩ := List.mem_map.mp hm
      exact isDeterministic_text (h.here.1.2 e (hp.subset he))
    · obtain ⟨e, he, rfl⟩ := List.mem_map.mp hm
      exact hi e (hp.subset he)
  rw [List.map_map, List.length_map, List.flatMap_map] at hd
  rw [arranged_object, Item.ofJson, ofEntries_eq_map, List.map_map, encode_object]
  exact hd

lemma isDeterministic_encode (hv : v.IsHeld) :
    IsDeterministic (Item.ofJson (arranged v)) (encode v) := by
  induction hv with
  | @intro v hv inside ih =>
    cases v with
    | null => exact .null
    | bool b => cases b <;> exact .bool _
    | number n => exact isDeterministic_number n
    | string s => exact isDeterministic_text hv.1
    | array items => exact isDeterministic_array hv.1 ih
    | object es =>
      exact isDeterministic_object (.intro hv inside) fun e he =>
        ih e.2 (List.mem_map.mpr ⟨e, he, rfl⟩)

lemma normal_arranged (hv : v.IsHeld) : (arranged v).normal = v.normal := by
  induction hv with
  | @intro v hv inside ih =>
    cases v with
    | null | bool _ | number _ | string _ => rfl
    | array items =>
      have hi : ∀ v ∈ items, (Json.normal ∘ arranged) v = v.normal := ih
      rw [arranged_array, normal_array, normal_array, List.map_map, List.map_congr_left hi]
    | object es =>
      have hp := arrange_perm es
      have hi : ∀ e ∈ arrange es, (normalEntry ∘ arrangedEntry) e = normalEntry e := fun e he =>
        congrArg (Prod.mk _) (ih e.2 (List.mem_map.mpr ⟨e, hp.subset he, rfl⟩))
      have hn : (Entries.names ((arrange es).map arrangedEntry)).Nodup := by
        rw [Entries.names, List.map_map]
        exact (hp.map _).nodup_iff.mpr hv.2
      rw [arranged_object]
      refine normal_object_eq_of_perm hn ?_
      rw [List.map_map, List.map_congr_left hi]
      exact hp.map _

/-! ### Values from items -/

lemma double?_bits (x : Double) : double? x.bits = some x := by
  obtain ⟨negative, m, hm⟩ := x
  have hlt : m < 1 <<< 63 := Nat.lt_trans hm (by decide)
  cases negative with
  | false =>
    have hb : Double.bits ⟨false, m, hm⟩ = m := rfl
    have hn : decide (1 <<< 63 ≤ m) = false := decide_eq_false (by omega)
    rw [double?, hb, hn, Nat.mod_eq_of_lt hlt]
    exact dif_pos hm
  | true =>
    have hb : Double.bits ⟨true, m, hm⟩ = 1 <<< 63 + m := rfl
    have hn : decide (1 <<< 63 ≤ 1 <<< 63 + m) = true := decide_eq_true (by omega)
    rw [double?, hb, hn, Nat.add_mod_left, Nat.mod_eq_of_lt hlt]
    exact dif_pos hm

mutual

lemma toJson?_ofJson : (v : Json) → (Item.ofJson v).toJson? = some v
  | .null => rfl
  | .bool _ => rfl
  | .number (.natural n hn) => by
    rw [Item.ofJson, Item.toJson?, if_pos (by omega)]
    exact dif_pos hn
  | .number (.negative n hn) => by
    have h : (-1 - (-1 - (n : ℤ))).toNat = n := by omega
    rw [Item.ofJson, Item.toJson?, if_neg (by omega)]
    simp only [h]
    exact dif_pos hn
  | .number (.double x) => by
    rw [Item.ofJson, Item.toJson?, toNat_bits, double?_bits]
    rfl
  | .string _ => rfl
  | .array items => by
    rw [Item.ofJson, Item.toJson?, itemsToJson?_ofItems items]
    rfl
  | .object es => by
    rw [Item.ofJson, Item.toJson?, entriesToJson?_ofEntries es]
    rfl

lemma itemsToJson?_ofItems : (vs : List Json) →
    Item.itemsToJson? (Item.ofItems vs) = some vs
  | [] => rfl
  | v :: vs => by
    rw [Item.ofItems, Item.itemsToJson?, toJson?_ofJson v, itemsToJson?_ofItems vs]
    rfl

lemma entriesToJson?_ofEntries : (es : List (String × Json)) →
    Item.entriesToJson? (Item.ofEntries es) = some es
  | [] => rfl
  | (k, v) :: es => by
    rw [Item.ofEntries, Item.entriesToJson?, toJson?_ofJson v, entriesToJson?_ofEntries es]
    rfl

end

lemma decode?_encode (hv : v.IsHeld) : decode? (encode v) = some (arranged v) := by
  have h := (reads_of_isDeterministic (isDeterministic_encode hv)).2 []
  rw [List.append_nil] at h
  rw [decode?, h]
  exact toJson?_ofJson _

/-- The canonical bytes of a value are the deterministic encoding of the value with its objects in
another order, and that is the value that is read from them. The order is that of the encoded names:
shorter ones first, those of one length byte by byte. -/
theorem encode_deterministic (hv : v.IsHeld) :
    (Item.ofJson v).bytes = .ok (encode v) ∧
      IsDeterministic (Item.ofJson (arranged v)) (encode v) ∧
        decode? (encode v) = some (arranged v) ∧ (arranged v).normal = v.normal ∧
          ∀ s t : String, s.utf8ByteSize < 1 <<< 64 → t.utf8ByteSize < 1 <<< 64 →
            (encodeText s < encodeText t ↔ s.utf8ByteSize < t.utf8ByteSize ∨
              s.utf8ByteSize = t.utf8ByteSize ∧ textBytes s < textBytes t) :=
  ⟨Item.bytes_ofJson v, isDeterministic_encode hv, decode?_encode hv, normal_arranged hv,
    fun _ _ hs ht => encodeText_lt_iff hs ht⟩

def longNameFirst : Json :=
  .object [("aa", .array [.number (.natural 300 (by decide))]), ("b", .string "é")]

def shortNameFirst : Json :=
  .object [("b", .string "é"), ("aa", .array [.number (.natural 300 (by decide))])]

lemma isHeld_longNameFirst : longNameFirst.IsHeld := by
  have hs : "aa".utf8ByteSize < 1 <<< 64 ∧ "b".utf8ByteSize < 1 <<< 64 ∧
      "é".utf8ByteSize < 1 <<< 64 := by decide
  refine Json.throughout_object ⟨⟨Nat.lt_of_lt_of_le (by decide : 2 < 3) (by decide), ?_⟩, ?_⟩ ?_
  · simp only [List.forall_mem_cons]
    exact ⟨hs.1, hs.2.1, nofun⟩
  · exact (by decide : ["aa", "b"].Nodup)
  · simp only [List.forall_mem_cons]
    refine ⟨.intro ⟨Nat.lt_of_lt_of_le (by decide : 1 < 2) (by decide), trivial⟩ ?_,
      Json.throughout_string ⟨hs.2.2, trivial⟩, nofun⟩
    simp only [Json.parts, List.forall_mem_singleton]
    exact .intro ⟨trivial, trivial⟩ nofun

theorem encode_longNameFirst : longNameFirst.IsHeld ∧
    (Item.ofJson longNameFirst).bytes = .ok [0xa2, 0x61, 0x62, 0x62, 0xc3, 0xa9, 0x62, 0x61, 0x61,
      0x81, 0x19, 0x01, 0x2c] ∧
      IsDeterministic (Item.ofJson shortNameFirst) (encode longNameFirst) ∧
        decode? (encode longNameFirst) = some shortNameFirst ∧
          shortNameFirst.normal = longNameFirst.normal := by
  have hv := isHeld_longNameFirst
  have ha : arranged longNameFirst = shortNameFirst := by decide +kernel
  have he : encode longNameFirst = [0xa2, 0x61, 0x62, 0x62, 0xc3, 0xa9, 0x62, 0x61, 0x61, 0x81,
      0x19, 0x01, 0x2c] := by decide +kernel
  obtain ⟨hb, hd, hr, hn, -⟩ := encode_deterministic hv
  rw [ha] at hd hr hn
  exact ⟨hv, hb.trans (congrArg _ he), hd, hr, hn⟩

end LayeredSchema.Canonical

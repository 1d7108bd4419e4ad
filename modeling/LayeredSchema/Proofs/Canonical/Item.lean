import LayeredSchema.Canonical.Item
import LayeredSchema.Proofs.Canonical.Encoding
import LayeredSchema.Proofs.Outcome

/-!
The canonical bytes of the items that stand for JSON values: there are always some, they are those of
the encoding, and rows of bytes that start with them start with no other value.
-/

namespace LayeredSchema.Canonical

variable {v w : Json}

namespace Item

def made (p : List UInt8 × List UInt8) : List UInt8 × Except Unsupported (List UInt8) :=
  (p.1, .ok p.2)

lemma mapM_made (ps : List (List UInt8 × List UInt8)) :
    ((ps.map made).mapM fun (key, value) => do return key ++ (← value)) =
      (.ok (ps.map fun (key, value) => key ++ value) : Except Unsupported _) := by
  rw [Outcome.mapM_ok_iff, List.forall₂_map_left_iff, List.forall₂_map_right_iff, List.forall₂_same]
  exact fun _ _ => rfl

lemma length_ofItems (vs : List Json) : (ofItems vs).length = vs.length := by
  induction vs with
  | nil => rfl
  | cons v vs ih => rw [ofItems, List.length_cons, List.length_cons, ih]

lemma length_encodeEntries (es : Entries Json) : (encodeEntries es).length = es.length := by
  rw [encodeEntries_eq_map, List.length_map]

mutual

lemma bytes_ofJson : (v : Json) → (ofJson v).bytes = .ok (encode v)
  | .null => rfl
  | .bool b => by cases b <;> rfl
  | .number (.natural n _) => by
    rw [ofJson, bytes, if_pos (by omega)]
    rfl
  | .number (.negative n _) => by
    have hn : (-1 - (-1 - (n : ℤ))).toNat = n := by omega
    rw [ofJson, bytes, if_neg (by omega), hn]
    rfl
  | .number (.double x) => by
    have hx : (UInt64.ofNat x.bits).toNat = x.bits := by
      rw [UInt64.toNat_ofNat']
      exact Nat.mod_eq_of_lt x.bits_lt
    rw [ofJson, bytes, hx]
    rfl
  | .string s => rfl
  | .array items => by
    rw [ofJson, bytes, itemsBytes_ofItems, length_ofItems]
    rfl
  | .object es => by
    have hl : ((encodeEntries es).map made).length = es.length := by
      rw [List.length_map, length_encodeEntries]
    simp only [ofJson, bytes, Outcome.bind_ok_iff]
    refine ⟨_, keyedBytes_ofEntries es,
      (sortEntries (encodeEntries es)).map fun (key, value) => key ++ value, ?_, ?_⟩
    · have hs : sortEntries ((encodeEntries es).map made) =
          (sortEntries (encodeEntries es)).map made := sortEntries_map Except.ok _
      rw [hs, mapM_made]
    · rw [hl, encode, List.flatMap]
      rfl

lemma itemsBytes_ofItems : (vs : List Json) → itemsBytes (ofItems vs) = .ok (encodeItems vs)
  | [] => rfl
  | v :: vs => by
    rw [ofItems, itemsBytes, bytes_ofJson v, itemsBytes_ofItems vs]
    rfl

lemma keyedBytes_ofEntries : (es : List (String × Json)) →
    keyedBytes (ofEntries es) = .ok ((encodeEntries es).map made)
  | [] => rfl
  | (k, v) :: es => by
    rw [ofEntries, keyedBytes, bytes_ofJson v, keyedBytes_ofEntries es]
    rfl

end

end Item

/-- Values have canonical bytes, and those that a row of bytes starts with are the bytes of one value
alone, up to the order of names in objects. -/
theorem encode_append_iff (hv : v.IsHeld) (hw : w.IsHeld) (x y : List UInt8) :
    (Item.ofJson v).bytes = .ok (encode v) ∧
      (encode v ++ x = encode w ++ y ↔ v.normal = w.normal ∧ x = y) ∧
        (encode v <+: encode w ↔ v.normal = w.normal) := by
  refine ⟨Item.bytes_ofJson v, encode_append_eq_iff hv hw, ?_⟩
  constructor
  · rintro ⟨z, hz⟩
    have h : encode v ++ z = encode w ++ [] := by rw [hz, List.append_nil]
    exact ((encode_append_eq_iff hv hw).mp h).1
  · intro h
    have he : encode v = encode w := (encode_eq_iff hv hw).mpr h
    exact he ▸ List.prefix_rfl

def besideLeast (one : Number) : Json :=
  .object [("b", .number (.negative (1 <<< 63 - 1) (by decide))), ("a", .array [.number one])]

lemma isHeld_besideLeast (one : Number) : (besideLeast one).IsHeld := by
  have hs : "b".utf8ByteSize < 1 <<< 64 ∧ "a".utf8ByteSize < 1 <<< 64 := by decide
  have ha : Json.IsHeld (.array [.number one]) := by
    refine .intro ⟨Nat.lt_of_lt_of_le (by decide : 1 < 2) (by decide), trivial⟩ ?_
    simp only [Json.parts, List.forall_mem_singleton]
    exact .intro ⟨trivial, trivial⟩ nofun
  refine Json.throughout_object ⟨⟨Nat.lt_of_lt_of_le (by decide : 2 < 3) (by decide), ?_⟩, ?_⟩ ?_
  · simp only [List.forall_mem_cons]
    exact ⟨hs.1, hs.2, nofun⟩
  · exact (by decide : ["b", "a"].Nodup)
  · simp only [List.forall_mem_cons]
    exact ⟨.intro ⟨trivial, trivial⟩ nofun, ha, nofun⟩

def integerOne : Json := besideLeast (.natural 1 (by decide))

def doubleOne : Json := besideLeast (.double ⟨false, 1023 <<< 52, by decide⟩)

theorem encode_append_one : integerOne.IsHeld ∧ doubleOne.IsHeld ∧
    (Item.ofJson integerOne).bytes = .ok (encode integerOne) ∧
      (∀ x y, encode integerOne ++ x ≠ encode doubleOne ++ y) ∧
        ¬encode integerOne <+: encode doubleOne := by
  have hn : integerOne.normal ≠ doubleOne.normal := by decide +kernel
  have hv : integerOne.IsHeld := isHeld_besideLeast _
  have hw : doubleOne.IsHeld := isHeld_besideLeast _
  have h := encode_append_iff hv hw
  exact ⟨hv, hw, (h [] []).1, fun x y hxy => hn ((h x y).2.1.mp hxy).1,
    fun hp => hn ((h [] []).2.2.mp hp)⟩

end LayeredSchema.Canonical

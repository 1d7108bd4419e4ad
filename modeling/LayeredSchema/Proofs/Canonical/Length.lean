import LayeredSchema.Proofs.Canonical.Encoding

/-!
Lengths of canonical encodings: a value takes more bytes than each of its texts and containers is
long, so only values as a machine of 64 bits holds them have short encodings.
-/

namespace LayeredSchema.Canonical

variable {u v : Json}

lemma length_head_pos (major n : ℕ) : 0 < (head major n).length := by
  rw [head_eq]
  exact Nat.succ_pos _

lemma length_encode_pos (v : Json) : 0 < (encode v).length := by
  have h := majorType?_encode v []
  cases he : encode v with
  | nil => simp [he, majorType?] at h
  | cons b bs => exact Nat.succ_pos _

lemma length_encodeText (s : String) :
    (encodeText s).length = (head 3 s.utf8ByteSize).length + s.utf8ByteSize := by
  rw [encodeText, List.length_append, length_textBytes]

section Pieces

variable {α : Type} {f : α → List UInt8} {as : List α}

lemma length_le_flatMap {a : α} (h : a ∈ as) : (f a).length ≤ (as.flatMap f).length := by
  obtain ⟨ls, rs, rfl⟩ := List.append_of_mem h
  simp only [List.flatMap_append, List.flatMap_cons, List.length_append]
  omega

lemma count_le_flatMap (h : ∀ a, 0 < (f a).length) : as.length ≤ (as.flatMap f).length := by
  induction as with
  | nil => exact Nat.le_refl _
  | cons a as ih =>
    have ha := h a
    rw [List.flatMap_cons, List.length_append, List.length_cons]
    omega

end Pieces

def entryBytes (e : String × Json) : List UInt8 := encodeText e.1 ++ encode e.2

lemma length_encode_array (items : List Json) : (encode (.array items)).length =
    (head 4 items.length).length + (items.flatMap encode).length := by
  rw [encode, List.length_append, encodeItems_eq_flatMap]

lemma length_encode_object (es : Entries Json) : (encode (.object es)).length =
    (head 5 es.length).length + (es.flatMap entryBytes).length := by
  rw [encode, List.length_append, ((sortEntries_perm (encodeEntries es)).flatMap_right _).length_eq,
    encodeEntries_eq_map, List.flatMap_map]
  rfl

lemma length_entryBytes (e : String × Json) :
    (entryBytes e).length = (encodeText e.1).length + (encode e.2).length :=
  List.length_append

lemma length_encode_lt (h : u ∈ v.parts) : (encode u).length < (encode v).length := by
  cases v with
  | array items =>
    have hu : (encode u).length ≤ (items.flatMap encode).length := length_le_flatMap h
    have hh := length_head_pos 4 items.length
    rw [length_encode_array]
    omega
  | object es =>
    obtain ⟨e, he, rfl⟩ := List.mem_map.mp h
    have hu : (entryBytes e).length ≤ (es.flatMap entryBytes).length := length_le_flatMap he
    have hh := length_head_pos 5 es.length
    rw [length_entryBytes] at hu
    rw [length_encode_object]
    omega
  | _ => simp [Json.parts] at h

lemma hasSize_of_short (h : (encode v).length < 1 <<< 64) : v.HasSize := by
  cases v with
  | string s =>
    rw [encode, length_encodeText] at h
    exact (by omega : s.utf8ByteSize < 1 <<< 64)
  | array items =>
    have hc : items.length ≤ (items.flatMap encode).length := count_le_flatMap length_encode_pos
    rw [length_encode_array] at h
    exact (by omega : items.length < 1 <<< 64)
  | object es =>
    rw [length_encode_object] at h
    have hpos (e : String × Json) : 0 < (entryBytes e).length := by
      rw [length_entryBytes]
      exact Nat.add_pos_right _ (length_encode_pos e.2)
    have hc : es.length ≤ (es.flatMap entryBytes).length := count_le_flatMap hpos
    refine ⟨by omega, fun e he => ?_⟩
    have hb : (entryBytes e).length ≤ (es.flatMap entryBytes).length := length_le_flatMap he
    rw [length_entryBytes, length_encodeText] at hb
    omega
  | _ => trivial

lemma isSized_of_short (h : (encode v).length < 1 <<< 64) : v.IsSized := by
  -- the parts of a value take fewer bytes than the value
  induction hn : (encode v).length using Nat.strong_induction_on generalizing v with
  | h n ih =>
    subst hn
    refine .intro (hasSize_of_short h) fun u hu => ?_
    have hl := length_encode_lt hu
    exact ih _ hl (hl.trans h) rfl

end LayeredSchema.Canonical

import LayeredSchema.Canonical
import Mathlib.Tactic.Common
import Mathlib.Tactic.Ring

/-!
Heads of canonical items: a head gives its major type, its number and its own end, whatever follows
it, and so does a text.
-/

namespace LayeredSchema.Canonical

variable {major major' n m : ℕ} {x y : List UInt8}

def value : List UInt8 → ℕ
  | [] => 0
  | b :: bs => b.toNat * 256 ^ bs.length + value bs

lemma length_bigEndian (width n : ℕ) : (bigEndian width n).length = width := by
  induction width with
  | zero => rfl
  | succ width ih => simp [bigEndian, ih]

lemma value_bigEndian (width n : ℕ) : value (bigEndian width n) = n % 256 ^ width := by
  induction width with
  | zero => simp [bigEndian, value, Nat.mod_one]
  | succ width ih =>
    have hs : n >>> (8 * width) = n / 256 ^ width := by
      rw [Nat.shiftRight_eq_div_pow, pow_mul]
      rfl
    have hd : (UInt8.ofNat (n >>> (8 * width))).toNat = n / 256 ^ width % 256 := by
      rw [UInt8.toNat_ofNat', hs]
    rw [bigEndian, value, length_bigEndian, ih, hd, pow_succ, Nat.mod_mul]
    ring

/-- What the low five bits of the first byte of a head say: the number itself, or how many bytes it
takes. -/
def info (n : ℕ) : ℕ :=
  if n < 24 then n
  else if n < 1 <<< 8 then 24
  else if n < 1 <<< 16 then 25
  else if n < 1 <<< 32 then 26
  else 27

def extent (info : ℕ) : ℕ :=
  if info < 24 then 0
  else if info = 24 then 1
  else if info = 25 then 2
  else if info = 26 then 4
  else 8

lemma info_lt (n : ℕ) : info n < 32 := by
  unfold info
  split_ifs <;> omega

lemma head_eq (major n : ℕ) :
    head major n = UInt8.ofNat (32 * major + info n) :: bigEndian (extent (info n)) n := by
  unfold head info
  split_ifs with h₀
  · rw [extent, if_pos h₀]
    rfl
  all_goals rfl

lemma lt_of_info (hn : n < 1 <<< 64) (h : ¬info n < 24) : n < 256 ^ extent (info n) := by
  unfold info at h ⊢
  split_ifs at h ⊢
  · omega
  · exact (by omega : n < 256 ^ 1)
  · exact (by omega : n < 256 ^ 2)
  · exact (by omega : n < 256 ^ 4)
  · exact (by omega : n < 256 ^ 8)

lemma eq_of_info (hn : n < 1 <<< 64) (hm : m < 1 <<< 64) (hi : info n = info m)
    (h : bigEndian (extent (info n)) n = bigEndian (extent (info m)) m) : n = m := by
  by_cases hlt : info n < 24
  · unfold info at hi hlt
    split_ifs at hi hlt <;> omega
  · have hv := congrArg value h
    have hn' := lt_of_info hn hlt
    have hm' := lt_of_info hm (hi ▸ hlt)
    rwa [value_bigEndian, value_bigEndian, Nat.mod_eq_of_lt hn', Nat.mod_eq_of_lt hm'] at hv

def majorType? (bytes : List UInt8) : Option ℕ := bytes.head?.map (·.toNat / 32)

lemma toNat_start (h : major < 8) : (UInt8.ofNat (32 * major + info n)).toNat = 32 * major + info n := by
  have hi := info_lt n
  rw [UInt8.toNat_ofNat', Nat.mod_eq_of_lt (by omega)]

lemma majorType?_head (h : major < 8) (n : ℕ) (x : List UInt8) :
    majorType? (head major n ++ x) = some major := by
  have hi := info_lt n
  rw [head_eq, majorType?, List.cons_append, List.head?_cons, Option.map_some, toNat_start h]
  congr 1
  omega

lemma head_append_inj (hn : n < 1 <<< 64) (hm : m < 1 <<< 64) (hj : major < 8)
    (h : head major n ++ x = head major m ++ y) : n = m ∧ x = y := by
  rw [head_eq, head_eq, List.cons_append, List.cons_append, List.cons.injEq] at h
  obtain ⟨hs, h⟩ := h
  have hi : info n = info m := by
    have ht := congrArg UInt8.toNat hs
    rw [toNat_start hj, toNat_start hj] at ht
    omega
  obtain ⟨hb, hxy⟩ := List.append_inj h (by rw [length_bigEndian, length_bigEndian, hi])
  exact ⟨eq_of_info hn hm hi hb, hxy⟩

lemma length_textBytes (s : String) : (textBytes s).length = s.utf8ByteSize := by
  simp [textBytes]

lemma textBytes_inj {s t : String} (h : textBytes s = textBytes t) : s = t := by
  rw [textBytes, textBytes, Array.toList_inj] at h
  exact String.toByteArray_inj.mp (ByteArray.ext h)

lemma encodeText_append_inj {s t : String} (hs : s.utf8ByteSize < 1 <<< 64)
    (ht : t.utf8ByteSize < 1 <<< 64) (h : encodeText s ++ x = encodeText t ++ y) :
    s = t ∧ x = y := by
  rw [← length_textBytes] at hs ht
  simp only [encodeText, List.append_assoc] at h
  obtain ⟨hl, h⟩ := head_append_inj hs ht (by decide) h
  obtain ⟨hb, hxy⟩ := List.append_inj h hl
  exact ⟨textBytes_inj hb, hxy⟩

end LayeredSchema.Canonical

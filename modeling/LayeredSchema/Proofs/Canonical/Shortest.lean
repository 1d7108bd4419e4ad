import LayeredSchema.Proofs.Canonical.Encoding
import LayeredSchema.Proofs.Canonical.Reader

/-!
Heads that are as short as their number lets them be: canonical heads are, and so encoded texts are
in order of their length first, and byte by byte among those of one length. Main statements:
`head_isShortest` and `encodeText_lt_iff`.
-/

namespace LayeredSchema.Canonical

variable {major m n width : ℕ} {x y bs : List UInt8}

/-! ### Heads -/

def widths : List ℕ := [0, 1, 2, 4, 8]

/-- Whether a head of a width has room for a number. Alone, a first byte takes numbers below 24. -/
def Holds (width n : ℕ) : Prop := if width = 0 then n < 24 else n < 256 ^ width

def mark : ℕ → ℕ → ℕ
  | 0, n => n
  | 1, _ => 24
  | 2, _ => 25
  | 4, _ => 26
  | _, _ => 27

def headOf (major width n : ℕ) : List UInt8 :=
  UInt8.ofNat (32 * major + mark width n) :: bigEndian width n

/-- Bytes are a head of the least width that holds the number. -/
def IsShortest (major n : ℕ) (bs : List UInt8) : Prop :=
  ∃ width ∈ widths, Holds width n ∧ bs = headOf major width n ∧
    ∀ w ∈ widths, Holds w n → width ≤ w

lemma extent_info (n : ℕ) : extent (info n) =
    if n < 24 then 0
    else if n < 1 <<< 8 then 1
    else if n < 1 <<< 16 then 2
    else if n < 1 <<< 32 then 4
    else 8 := by
  unfold info
  split_ifs with h
  · exact if_pos h
  all_goals rfl

lemma head_eq_headOf (major n : ℕ) : head major n = headOf major (extent (info n)) n := by
  have hm : mark (extent (info n)) n = info n := by
    rw [extent_info]
    unfold info
    split_ifs <;> rfl
  rw [head_eq, headOf, hm]

lemma head_isShortest (hn : n < 1 <<< 64) : IsShortest major n (head major n) := by
  refine ⟨extent (info n), ?_, ?_, head_eq_headOf major n, ?_⟩
  · rw [extent_info]
    split_ifs <;> decide
  · rw [extent_info, Holds]
    split_ifs <;> first | contradiction | omega
  · intro w hw h
    simp only [widths, List.mem_cons, List.not_mem_nil, or_false] at hw
    rw [extent_info]
    rcases hw with rfl | rfl | rfl | rfl | rfl
    · rw [if_pos (by simpa [Holds] using h)]
    all_goals
      simp only [Holds, OfNat.ofNat_ne_zero, one_ne_zero, if_false] at h
      split_ifs <;> omega

lemma mark_of_ne_zero (hw : width ∈ widths) (h0 : width ≠ 0) (n : ℕ) :
    24 ≤ mark width n ∧ mark width n < 28 ∧ extent (mark width n) = width := by
  simp only [widths, List.mem_cons, List.not_mem_nil, or_false] at hw
  rcases hw with rfl | rfl | rfl | rfl | rfl
  · contradiction
  · exact (by decide : 24 ≤ 24 ∧ 24 < 28 ∧ extent 24 = 1)
  · exact (by decide : 24 ≤ 25 ∧ 25 < 28 ∧ extent 25 = 2)
  · exact (by decide : 24 ≤ 26 ∧ 26 < 28 ∧ extent 26 = 4)
  · exact (by decide : 24 ≤ 27 ∧ 27 < 28 ∧ extent 27 = 8)

lemma mark_lt (hw : width ∈ widths) (h : Holds width n) : mark width n < 28 := by
  by_cases h0 : width = 0
  · subst h0
    have hn : n < 24 := h
    exact (by omega : n < 28)
  · exact (mark_of_ne_zero hw h0 n).2.1

lemma readHead?_headOf (hm : major < 8) (hw : width ∈ widths) (h : Holds width n)
    (rest : List UInt8) : readHead? (headOf major width n ++ rest) =
      some (⟨major, mark width n, n⟩, rest) := by
  have hlt := mark_lt hw h
  have hb : (UInt8.ofNat (32 * major + mark width n)).toNat = 32 * major + mark width n := by
    rw [UInt8.toNat_ofNat', Nat.mod_eq_of_lt (by omega)]
  have hmod : (32 * major + mark width n) % 32 = mark width n := by omega
  have hdiv : (32 * major + mark width n) / 32 = major := by omega
  rw [headOf, List.cons_append, readHead?, hb, hmod, hdiv]
  by_cases h0 : width = 0
  · subst h0
    exact if_pos h
  · obtain ⟨hge, -, he⟩ := mark_of_ne_zero hw h0 n
    have hn : n < 256 ^ width := by rwa [Holds, if_neg h0] at h
    have hl := length_bigEndian width n
    have ht : takeBytes? width (bigEndian width n ++ rest) = some (bigEndian width n, rest) := by
      rw [takeBytes?, if_pos (by simp [hl]), List.take_left' hl, List.drop_left' hl]
    rw [if_neg (by omega), if_pos hlt, he, ht]
    simp only [Option.map_some, value_bigEndian, Nat.mod_eq_of_lt hn]

lemma readHead?_of_isShortest (hm : major < 8) (h : IsShortest major n bs) (rest : List UInt8) :
    ∃ info, readHead? (bs ++ rest) = some (⟨major, info, n⟩, rest) := by
  obtain ⟨width, hw, hh, rfl, -⟩ := h
  exact ⟨_, readHead?_headOf hm hw hh rest⟩

lemma IsShortest.ne_nil (h : IsShortest major n bs) : bs ≠ [] := by
  obtain ⟨width, -, -, rfl, -⟩ := h
  exact List.cons_ne_nil _ _

/-! ### The order of keys -/

lemma value_lt (bs : List UInt8) : value bs < 256 ^ bs.length := by
  induction bs with
  | nil => exact Nat.one_pos
  | cons b bs ih =>
    have hb := b.toNat_lt
    calc value (b :: bs) = b.toNat * 256 ^ bs.length + value bs := rfl
      _ < b.toNat * 256 ^ bs.length + 256 ^ bs.length := Nat.add_lt_add_left ih _
      _ = (b.toNat + 1) * 256 ^ bs.length := by ring
      _ ≤ 256 * 256 ^ bs.length := Nat.mul_le_mul_right _ (by omega)
      _ = 256 ^ (b :: bs).length := by rw [List.length_cons, pow_succ, Nat.mul_comm]

lemma append_lt_of_value_lt {as bs : List UInt8} (hl : as.length = bs.length)
    (h : value as < value bs) : as ++ x < bs ++ y := by
  induction as generalizing bs with
  | nil =>
    obtain rfl := List.eq_nil_of_length_eq_zero hl.symm
    exact absurd h (Nat.lt_irrefl _)
  | cons a as ih =>
    cases bs with
    | nil => simp at hl
    | cons b bs =>
      have hl := Nat.succ.inj hl
      have hb := value_lt bs
      rw [List.cons_append, List.cons_append, List.cons_lt_cons_iff]
      rw [value, value, hl] at h
      rcases Nat.lt_trichotomy a.toNat b.toNat with hab | hab | hab
      · exact Or.inl (UInt8.lt_iff_toNat_lt.mpr hab)
      · rw [hab] at h
        exact Or.inr ⟨UInt8.toNat_inj.mp hab, ih hl (Nat.lt_of_add_lt_add_left h)⟩
      · have hm : (b.toNat + 1) * 256 ^ bs.length ≤ a.toNat * 256 ^ bs.length :=
          Nat.mul_le_mul_right _ hab
        rw [Nat.add_mul, Nat.one_mul] at hm
        omega

lemma info_mono (h : m ≤ n) : info m ≤ info n := by
  unfold info
  split_ifs <;> omega

lemma head_append_lt (hm : major < 8) (hn : n < 1 <<< 64) (h : m < n) :
    head major m ++ x < head major n ++ y := by
  rw [head_eq, head_eq, List.cons_append, List.cons_append, List.cons_lt_cons_iff,
    UInt8.lt_iff_toNat_lt, toNat_start hm, toNat_start hm]
  rcases Nat.lt_or_eq_of_le (info_mono h.le) with hi | hi
  · exact Or.inl (by omega)
  · refine Or.inr ⟨by rw [hi], ?_⟩
    by_cases hlt : info n < 24
    · unfold info at hi hlt
      split_ifs at hi hlt <;> omega
    · have hm' := lt_of_info (h.trans hn) (hi ▸ hlt)
      have hn' := lt_of_info hn hlt
      refine append_lt_of_value_lt (by rw [length_bigEndian, length_bigEndian, hi]) ?_
      rwa [value_bigEndian, value_bigEndian, Nat.mod_eq_of_lt hm', Nat.mod_eq_of_lt hn']

lemma append_lt_append_iff (x : List UInt8) {y z : List UInt8} : x ++ y < x ++ z ↔ y < z := by
  induction x with
  | nil => rfl
  | cons b x ih => simp [ih]

lemma encodeText_lt_iff {s t : String} (hs : s.utf8ByteSize < 1 <<< 64)
    (ht : t.utf8ByteSize < 1 <<< 64) : encodeText s < encodeText t ↔
      s.utf8ByteSize < t.utf8ByteSize ∨
        s.utf8ByteSize = t.utf8ByteSize ∧ textBytes s < textBytes t := by
  unfold encodeText
  rw [length_textBytes, length_textBytes]
  rcases Nat.lt_trichotomy s.utf8ByteSize t.utf8ByteSize with h | h | h
  · exact iff_of_true (head_append_lt (by decide) ht h) (Or.inl h)
  · rw [h, append_lt_append_iff]
    simp
  · refine iff_of_false (List.lt_asymm (head_append_lt (by decide) hs h)) ?_
    omega

end LayeredSchema.Canonical

import LayeredSchema.Proofs.Text.Blank
import LayeredSchema.Text.Ascii

/-!
Texts by their bytes: where a byte offset stands between two characters, what stands between two of
them, and stems that are looked for by their length in bytes.
-/

namespace LayeredSchema.Text

variable {n : ℕ} {stem stem' head rest rest' cs : List Char} {c : Char}

def splitAtByte? : ℕ → List Char → Option (List Char × List Char)
  | 0, cs => some ([], cs)
  | _ + 1, [] => none
  | n + 1, c :: cs =>
    if c.utf8Size ≤ n + 1 then
      (splitAtByte? (n + 1 - c.utf8Size) cs).map fun (head, rest) => (c :: head, rest)
    else none

lemma splitAtByte?_append (head rest : List Char) :
    splitAtByte? (byteLength head) (head ++ rest) = some (head, rest) := by
  induction head with
  | nil => rw [byteLength_nil, splitAtByte?, List.nil_append]
  | cons c head ih =>
    obtain ⟨k, hk⟩ : ∃ k, byteLength (c :: head) = k + 1 := by
      have hc := c.utf8Size_pos
      exact ⟨byteLength (c :: head) - 1, by simp only [byteLength_cons]; omega⟩
    have hs : k + 1 - c.utf8Size = byteLength head := by
      rw [← hk, byteLength_cons, Nat.add_sub_cancel_left]
    have hle : c.utf8Size ≤ k + 1 := by
      rw [← hk, byteLength_cons]
      exact Nat.le_add_right _ _
    rw [hk, List.cons_append, splitAtByte?, if_pos hle, hs, ih]
    rfl

lemma splitAtByte?_eq_some_iff :
    splitAtByte? n cs = some (head, rest) ↔ cs = head ++ rest ∧ byteLength head = n := by
  constructor
  · intro h
    fun_induction splitAtByte? n cs generalizing head with
    | case1 cs =>
      obtain ⟨rfl, rfl⟩ := Prod.mk.inj (Option.some.inj h)
      exact ⟨rfl, rfl⟩
    | case2 => contradiction
    | case3 n c cs hc ih =>
      obtain ⟨⟨head, rest⟩, hs, he⟩ := Option.map_eq_some_iff.mp h
      obtain ⟨rfl, rfl⟩ := Prod.mk.inj he
      obtain ⟨rfl, hl⟩ := ih hs
      refine ⟨rfl, ?_⟩
      rw [byteLength_cons, hl]
      omega
    | case4 => contradiction
  · rintro ⟨rfl, rfl⟩
    exact splitAtByte?_append head rest

def slice? (start stop : ℕ) (cs : List Char) : Option (List Char) :=
  (splitAtByte? stop cs).bind fun (head, _) => (splitAtByte? start head).map Prod.snd

lemma slice?_append (u v w : List Char) :
    slice? (byteLength u) (byteLength u + byteLength v) (u ++ (v ++ w)) = some v := by
  rw [← byteLength_append, ← List.append_assoc, slice?, splitAtByte?_append, Option.bind_some]
  dsimp only
  rw [splitAtByte?_append]
  rfl

def bytesBefore (p : Char → Bool) : List Char → ℕ
  | [] => 0
  | c :: cs => if p c then 0 else c.utf8Size + bytesBefore p cs

lemma bytesBefore_eq (p : Char → Bool) (cs : List Char) :
    bytesBefore p cs = byteLength (cs.takeWhile fun c => !p c) := by
  induction cs with
  | nil => rfl
  | cons c cs ih =>
    rw [bytesBefore, List.takeWhile_cons]
    cases p c with
    | true => rfl
    | false => exact congrArg (c.utf8Size + ·) ih

def offset? (p : Char → Bool) : List Char → Option ℕ
  | [] => none
  | c :: cs => if p c then some 0 else (offset? p cs).map (c.utf8Size + ·)

lemma length_le_byteLength (cs : List Char) : cs.length ≤ byteLength cs := by
  induction cs with
  | nil => exact Nat.le_refl 0
  | cons c cs ih =>
    have hc := c.utf8Size_pos
    rw [List.length_cons, byteLength_cons]
    omega

lemma byteLength_takeWhile_le (p : Char → Bool) (cs : List Char) :
    byteLength (cs.takeWhile p) ≤ byteLength cs := by
  have h := congrArg byteLength (List.takeWhile_append_dropWhile (p := p) (l := cs))
  rw [byteLength_append] at h
  exact h ▸ Nat.le_add_right _ _

lemma utf8Size_eq_one (h : isAscii c = true) : c.utf8Size = 1 := by
  rw [Char.utf8Size_eq_one_iff, UInt32.le_iff_toNat_le]
  have hc : c.toNat < 128 := by simpa [isAscii] using h
  exact Nat.le_of_lt_succ hc

lemma isAscii_toLower : isAscii c.toLower = isAscii c := by
  unfold Char.toLower
  split
  · rename_i h
    have hl : 65 ≤ c.val.toNat := UInt32.le_iff_toNat_le.mp h.1
    have hu : c.val.toNat ≤ 90 := UInt32.le_iff_toNat_le.mp h.2
    have ht : (c.val + ('a'.val - 'A'.val)).toNat = c.val.toNat + 32 := by
      rw [UInt32.toNat_add]
      exact Nat.mod_eq_of_lt (by change c.val.toNat + 32 < 2 ^ 32; omega)
    have hc : (c.val + ('a'.val - 'A'.val)).toNat < 128 ∧ c.val.toNat < 128 := by omega
    exact (decide_eq_true hc.1).trans (decide_eq_true hc.2).symm
  · rfl

lemma lower_append (xs ys : List Char) : lower (xs ++ ys) = lower xs ++ lower ys :=
  List.map_append

lemma length_lower (cs : List Char) : (lower cs).length = cs.length := List.length_map _

lemma byteLength_of_same (ha : stem.all isAscii = true)
    (h : sameIgnoringCase stem head = true) : byteLength head = stem.length := by
  have hl : lower stem = lower head := eq_of_beq h
  have hc : ∀ c ∈ head, isAscii c = true := by
    intro c hc
    obtain ⟨d, hd, hdc⟩ := List.mem_map.mp (hl ▸ List.mem_map_of_mem hc : c.toLower ∈ lower stem)
    rw [← isAscii_toLower, ← hdc, isAscii_toLower]
    exact List.all_eq_true.mp ha d hd
  have hn : stem.length = head.length := by rw [← length_lower stem, hl, length_lower]
  rw [hn]
  clear hl hn h
  induction head with
  | nil => rfl
  | cons c head ih =>
    rw [byteLength_cons, utf8Size_eq_one (hc c List.mem_cons_self),
      ih fun d hd => hc d (List.mem_cons_of_mem c hd), List.length_cons, Nat.add_comm]

lemma dropStemIgnoringCase?_eq_some_iff : dropStemIgnoringCase? stem cs = some rest ↔
    ∃ head, cs = head ++ rest ∧ sameIgnoringCase stem head = true := by
  induction stem generalizing cs with
  | nil =>
    constructor
    · intro h
      exact ⟨[], Option.some.inj h, rfl⟩
    · rintro ⟨head, rfl, h⟩
      obtain rfl : head = [] := List.map_eq_nil_iff.mp (eq_of_beq h).symm
      rfl
  | cons p ps ih =>
    cases cs with
    | nil =>
      constructor
      · intro h
        contradiction
      · rintro ⟨head, hc, h⟩
        obtain ⟨rfl, rfl⟩ := List.append_eq_nil_iff.mp hc.symm
        exact absurd (eq_of_beq h) (by simp [lower])
    | cons c cs =>
      rw [dropStemIgnoringCase?]
      constructor
      · intro h
        split at h
        · rename_i hp
          obtain ⟨head, rfl, hs⟩ := ih.mp h
          refine ⟨c :: head, rfl, beq_iff_eq.mpr ?_⟩
          exact congrArg₂ List.cons hp (eq_of_beq hs)
        · contradiction
      · rintro ⟨head, hc, h⟩
        cases head with
        | nil => exact absurd (eq_of_beq h) (by simp [lower])
        | cons d head =>
          obtain ⟨rfl, rfl⟩ := List.cons.inj hc
          obtain ⟨hp, hs⟩ := List.cons.inj (eq_of_beq h : lower (p :: ps) = lower (c :: head))
          rw [if_pos hp]
          exact ih.mpr ⟨head, rfl, beq_iff_eq.mpr hs⟩

lemma dropStemIgnoringCase?_eq_split (ha : stem.all isAscii = true) :
    dropStemIgnoringCase? stem cs = (splitAtByte? stem.length cs).bind fun (head, rest) =>
      if sameIgnoringCase stem head then some rest else none := by
  refine Option.ext fun rest => ?_
  rw [dropStemIgnoringCase?_eq_some_iff, Option.bind_eq_some_iff]
  constructor
  · rintro ⟨head, rfl, h⟩
    exact ⟨(head, rest), splitAtByte?_eq_some_iff.mpr ⟨rfl, byteLength_of_same ha h⟩, if_pos h⟩
  · rintro ⟨⟨head, rest'⟩, hs, h⟩
    change (if sameIgnoringCase stem head = true then some rest' else none) = some rest at h
    split at h
    · rename_i hc
      obtain rfl := Option.some.inj h
      exact ⟨head, (splitAtByte?_eq_some_iff.mp hs).1, hc⟩
    · contradiction

lemma lower_prefix_or_prefix (h : dropStemIgnoringCase? stem cs = some rest)
    (h' : dropStemIgnoringCase? stem' cs = some rest') :
    lower stem <+: lower stem' ∨ lower stem' <+: lower stem := by
  obtain ⟨head, rfl, hs⟩ := dropStemIgnoringCase?_eq_some_iff.mp h
  obtain ⟨head', he, hs'⟩ := dropStemIgnoringCase?_eq_some_iff.mp h'
  rw [eq_of_beq (hs : (lower stem == lower head) = true),
    eq_of_beq (hs' : (lower stem' == lower head') = true)]
  rcases List.append_eq_append_iff.mp he with ⟨u, rfl, -⟩ | ⟨u, rfl, -⟩
  · exact Or.inl (lower_append head u ▸ List.prefix_append _ _)
  · exact Or.inr (lower_append head' u ▸ List.prefix_append _ _)

end LayeredSchema.Text

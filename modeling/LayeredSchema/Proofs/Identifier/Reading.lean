import LayeredSchema.Proofs.Identifier.Said
import LayeredSchema.Proofs.Text.Bytes
import Mathlib

/-!
Which texts are identifiers: the letter of an algorithm and two hexadecimal digits, in either case,
for each byte of a digest. Main statement: `parse_exactly`.
-/

namespace LayeredSchema

open Text

lemma Text.of_isAscii {c : Char} {P : Char → Prop} (h : ∀ k < 128, P (Char.ofNat k))
    (hc : isAscii c = true) : P c := by
  have hk := h c.toNat (of_decide_eq_true hc)
  rwa [Char.ofNat_toNat] at hk

namespace Hex

variable {c : Char} {n i : ℕ} {cs : List Char} {ns : List ℕ} {bytes : List UInt8}

def IsDigit (c : Char) : Prop :=
  ('0' ≤ c ∧ c ≤ '9') ∨ ('a' ≤ c ∧ c ≤ 'f') ∨ ('A' ≤ c ∧ c ≤ 'F')

lemma isSome_hexDigit?_iff : (hexDigit? c).isSome = true ↔ IsDigit c := by
  rw [hexDigit?, IsDigit]
  split_ifs with h₁ h₂ h₃ <;> simp [*]

lemma isAscii_of_isDigit (h : IsDigit c) : isAscii c = true := by
  have hle : c ≤ 'f' := by
    rcases h with ⟨-, h⟩ | ⟨-, h⟩ | ⟨-, h⟩
    · exact Char.le_trans h (by decide)
    · exact h
    · exact Char.le_trans h (by decide)
  have hn : c.toNat ≤ 102 := hle
  rw [isAscii, decide_eq_true_eq]
  omega

lemma hexDigit?_eq_some_iff : hexDigit? c = some n ↔ n < 16 ∧ c.toLower = hexDigit n := by
  constructor
  · intro h
    have hc : isAscii c = true := isAscii_of_isDigit (isSome_hexDigit?_iff.mp (by rw [h]; rfl))
    have hd : (hexDigit? c).all (fun n => n < 16 && c.toLower == hexDigit n) = true :=
      of_isAscii (P := fun c =>
        (hexDigit? c).all (fun n => n < 16 && c.toLower == hexDigit n) = true)
        (by decide +kernel) hc
    simpa [h] using hd
  · rintro ⟨hn, h⟩
    have ha : ∀ n < 16, isAscii (hexDigit n) = true := by decide
    have hc : isAscii c = true := by rw [← isAscii_toLower, h, ha n hn]
    exact of_isAscii (P := fun c => ∀ n < 16, c.toLower = hexDigit n → hexDigit? c = some n)
      (by decide +kernel) hc n hn h

lemma isDigit_iff : IsDigit c ↔ ∃ n < 16, c.toLower = hexDigit n := by
  rw [← isSome_hexDigit?_iff, Option.isSome_iff_exists]
  exact exists_congr fun n => hexDigit?_eq_some_iff

lemma digits_ok_iff :
    digits i cs = .ok ns ↔ (∀ n ∈ ns, n < 16) ∧ lower cs = ns.map hexDigit := by
  induction cs generalizing i ns with
  | nil =>
    rw [digits]
    cases ns with
    | nil => simp [lower]
    | cons n ns => simp [lower]
  | cons c cs ih =>
    rw [digits]
    cases hc : hexDigit? c with
    | none =>
      refine iff_of_false (by simp) ?_
      rintro ⟨hn, hl⟩
      obtain ⟨n, ns, rfl, hcn, -⟩ := List.map_eq_cons_iff.mp (Eq.symm hl)
      rw [hexDigit?_eq_some_iff.mpr ⟨hn n List.mem_cons_self, hcn.symm⟩] at hc
      contradiction
    | some d =>
      obtain ⟨hd, hcd⟩ := hexDigit?_eq_some_iff.mp hc
      simp only [Outcome.map_ok_iff, ih]
      constructor
      · rintro ⟨ns, ⟨hn, hl⟩, rfl⟩
        exact ⟨List.forall_mem_cons.mpr ⟨hd, hn⟩, congrArg₂ List.cons hcd hl⟩
      · rintro ⟨hn, hl⟩
        obtain ⟨n, ns, rfl, hcn, hl⟩ := List.map_eq_cons_iff.mp (Eq.symm hl)
        obtain ⟨hn, hns⟩ := List.forall_mem_cons.mp hn
        have hdn := hexDigit?_eq_some_iff.mpr ⟨hn, hcn.symm⟩
        rw [hc, Option.some.injEq] at hdn
        exact ⟨ns, ⟨hns, hl.symm⟩, by rw [hdn]⟩

lemma encode_pairs (h : ∀ n ∈ ns, n < 16) (he : ns.length % 2 = 0) :
    encode (pairs ns) = ns.map hexDigit := by
  induction ns using pairs.induct with
  | case1 hi lo ns ih =>
    obtain ⟨hh, h⟩ := List.forall_mem_cons.mp h
    obtain ⟨hl, h⟩ := List.forall_mem_cons.mp h
    have hb : (UInt8.ofNat (16 * hi + lo)).toNat = 16 * hi + lo := by
      rw [UInt8.toNat_ofNat']
      omega
    have hd : encodeByte (UInt8.ofNat (16 * hi + lo)) = [hexDigit hi, hexDigit lo] := by
      rw [encodeByte, hb, show (16 * hi + lo) / 16 = hi by omega,
        show (16 * hi + lo) % 16 = lo by omega]
    rw [pairs, encode, List.flatMap_cons, hd, ← encode, ih h (by simp at he; omega)]
    rfl
  | case2 ns hn =>
    rcases ns with _ | ⟨a, _ | ⟨b, ns⟩⟩
    · rfl
    · simp at he
    · exact absurd rfl (hn a b ns)

lemma decode_ok_iff : decode cs = .ok bytes ↔ lower cs = encode bytes := by
  have hb (ns : List ℕ) (hn : ∀ n ∈ ns, n < 16) (hl : lower cs = ns.map hexDigit) :
      byteLength cs = ns.length := by
    have ha : ∀ n < 16, isAscii (hexDigit n) = true ∧ (hexDigit n).toLower = hexDigit n := by
      decide
    have hs : sameIgnoringCase (ns.map hexDigit) cs = true := by
      rw [sameIgnoringCase, hl, lower, List.map_map, beq_iff_eq]
      exact List.map_congr_left fun n h => (ha n (hn n h)).2
    rw [byteLength_of_same (List.all_eq_true.mpr fun c hc => ?_) hs, List.length_map]
    obtain ⟨n, hm, rfl⟩ := List.mem_map.mp hc
    exact (ha n (hn n hm)).1
  rw [decode]
  constructor
  · intro h
    split at h
    · contradiction
    · rename_i he
      obtain ⟨ns, hd, rfl⟩ := Outcome.map_ok_iff.mp h
      obtain ⟨hn, hl⟩ := digits_ok_iff.mp hd
      rw [hb ns hn hl] at he
      rw [hl, encode_pairs hn (by omega)]
  · intro h
    have hn : ∀ n ∈ bytes.flatMap halves, n < 16 := by
      intro n hn
      obtain ⟨b, -, hb⟩ := List.mem_flatMap.mp hn
      exact halves_lt hb
    have hl : lower cs = (bytes.flatMap halves).map hexDigit := h.trans (encode_eq bytes)
    have he : byteLength cs % 2 ≠ 1 := by
      rw [hb _ hn hl, length_halves]
      omega
    rw [if_neg he, digits_ok_iff.mpr ⟨hn, hl⟩]
    exact congrArg Except.ok (pairs_flatMap bytes)

lemma length_encode (bytes : List UInt8) : (encode bytes).length = 2 * bytes.length := by
  rw [encode_eq, List.length_map, length_halves]

lemma exists_digits (h : ∀ c ∈ cs, IsDigit c) :
    ∃ ns : List ℕ, (∀ n ∈ ns, n < 16) ∧ lower cs = ns.map hexDigit := by
  induction cs with
  | nil => exact ⟨[], by simp, rfl⟩
  | cons c cs ih =>
    obtain ⟨hc, hs⟩ := List.forall_mem_cons.mp h
    obtain ⟨n, hn, hcn⟩ := isDigit_iff.mp hc
    obtain ⟨ns, hns, hl⟩ := ih hs
    exact ⟨n :: ns, List.forall_mem_cons.mpr ⟨hn, hns⟩, congrArg₂ List.cons hcn hl⟩

lemma exists_decode_iff : (∃ bytes, decode cs = .ok bytes ∧ bytes.length = n) ↔
    cs.length = 2 * n ∧ ∀ c ∈ cs, IsDigit c := by
  simp only [decode_ok_iff]
  constructor
  · rintro ⟨bytes, hl, rfl⟩
    refine ⟨by rw [← length_lower cs, hl, length_encode], fun c hc => ?_⟩
    have hm : c.toLower ∈ encode bytes := hl ▸ List.mem_map_of_mem hc
    exact isDigit_iff.mpr (forall_mem_encode (P := fun d => ∃ n < 16, d = hexDigit n)
      (fun n hn => ⟨n, hn, rfl⟩) bytes _ hm)
  · rintro ⟨hc, hd⟩
    obtain ⟨ns, hn, hl⟩ := exists_digits hd
    have hs : ns.length = 2 * n := by
      rw [← List.length_map hexDigit, ← hl, length_lower, hc]
    have he : encode (pairs ns) = ns.map hexDigit := encode_pairs hn (by omega)
    have hp := congrArg List.length he
    rw [length_encode, List.length_map] at hp
    exact ⟨pairs ns, hl.trans he.symm, by omega⟩

end Hex

def SaidError.IsMalformed : SaidError → Prop
  | .unknownAlgorithm _ => False
  | _ => True

namespace Said

variable {t u : String} {s : Said} {c : Char} {ds : List Char}

def SameButCase (t u : String) : Prop :=
  ∃ c ds es, t.toList = c :: ds ∧ u.toList = c :: es ∧ sameIgnoringCase ds es = true

lemma ofCode?_eq_some_iff {a : Algorithm} : Algorithm.ofCode? c = some a ↔ c = 'E' := by
  cases a
  by_cases hc : c = 'E'
  · subst hc
    exact iff_of_true rfl rfl
  · refine iff_of_false ?_ hc
    simp [Algorithm.ofCode?, Algorithm.all, Algorithm.code, Ne.symm hc]

lemma ofCode?_eq_none_iff : Algorithm.ofCode? c = none ↔ c ≠ 'E' := by
  rw [Option.eq_none_iff_forall_ne_some]
  constructor
  · exact fun h hc => h .blake3 (ofCode?_eq_some_iff.mpr hc)
  · exact fun hc a h => hc (ofCode?_eq_some_iff.mp h)

lemma parse_ok_iff : parse t = .ok s ↔
    ∃ ds, t.toList = 'E' :: ds ∧ lower ds = Hex.encode s.bytes := by
  rw [parse]
  cases t.toList with
  | nil => simp
  | cons code digits =>
    dsimp only
    cases ha : Algorithm.ofCode? code with
    | none =>
      have hc := ofCode?_eq_none_iff.mp ha
      refine iff_of_false (by simp) ?_
      rintro ⟨ds, he, -⟩
      exact hc (List.cons.inj he).1
    | some a =>
      obtain rfl := ofCode?_eq_some_iff.mp ha
      have hd : (∃ ds, 'E' :: digits = 'E' :: ds ∧ lower ds = Hex.encode s.bytes) ↔
          Hex.decode digits = .ok s.bytes := by
        simp [Hex.decode_ok_iff]
      rw [hd]
      obtain ⟨a', bytes, hl⟩ := s
      cases a
      cases a'
      dsimp only
      cases hb : Hex.decode digits with
      | error fault => simp
      | ok found =>
        dsimp only
        constructor
        · intro h
          split at h
          · simpa using h
          · contradiction
        · intro h
          obtain rfl := Except.ok.inj h
          rw [dif_pos hl]

lemma exists_parse_iff : (∃ s, parse t = .ok s) ↔
    ∃ ds, t.toList = 'E' :: ds ∧ ds.length = 64 ∧ ∀ c ∈ ds, Hex.IsDigit c := by
  have hd (ds : List Char) : (∃ bytes, Hex.decode ds = .ok bytes ∧ bytes.length = 32) ↔
      ds.length = 64 ∧ ∀ c ∈ ds, Hex.IsDigit c := Hex.exists_decode_iff
  simp only [parse_ok_iff, ← Hex.decode_ok_iff]
  constructor
  · rintro ⟨s, ds, ht, hb⟩
    exact ⟨ds, ht, (hd ds).mp ⟨s.bytes, hb, by cases s.algorithm; exact s.length_bytes⟩⟩
  · rintro ⟨ds, ht, h⟩
    obtain ⟨bytes, hb, hl⟩ := (hd ds).mpr h
    exact ⟨⟨.blake3, bytes, hl⟩, ds, ht, hb⟩

lemma text_eq (s : Said) : s.text = String.ofList ('E' :: Hex.encode s.bytes) := by
  cases s with
  | mk a bytes h => cases a; rfl

lemma parse_error_iff : parse t = .error (.unknownAlgorithm c) ↔
    t.toList.head? = some c ∧ c ≠ 'E' := by
  rw [parse]
  cases t.toList with
  | nil => simp
  | cons code digits =>
    dsimp only
    cases ha : Algorithm.ofCode? code with
    | none =>
      have hc := ofCode?_eq_none_iff.mp ha
      simp only [Except.error.injEq, SaidError.unknownAlgorithm.injEq, List.head?_cons,
        Option.some.injEq]
      exact ⟨fun h => ⟨h, h ▸ hc⟩, And.left⟩
    | some a =>
      obtain rfl := ofCode?_eq_some_iff.mp ha
      refine iff_of_false ?_ (by simp [eq_comm])
      dsimp only
      split
      · simp
      · split <;> simp

lemma parse_malformed_iff : (∃ e, parse t = .error e ∧ e.IsMalformed) ↔
    (¬∃ s, parse t = .ok s) ∧ ∀ c, t.toList.head? = some c → c = 'E' := by
  rw [← Outcome.exists_error_iff]
  constructor
  · rintro ⟨e, he, hm⟩
    refine ⟨⟨e, he⟩, fun c hc => by_contra fun hne => ?_⟩
    obtain rfl := Except.error.inj (he.symm.trans (parse_error_iff.mpr ⟨hc, hne⟩))
    exact hm
  · rintro ⟨⟨e, he⟩, hc⟩
    refine ⟨e, he, ?_⟩
    cases e with
    | unknownAlgorithm c =>
      obtain ⟨hh, hne⟩ := parse_error_iff.mp he
      exact hne (hc c hh)
    | _ => trivial

/-- A text is read just if it is the letter of the algorithm and 64 hexadecimal digits, and then as
the identifier whose text has the same digits in lower case. -/
theorem parse_exactly :
    (∀ (a : Algorithm) (bytes : List UInt8) (h : bytes.length = a.digestLength),
      parse (text ⟨a, bytes, h⟩) = .ok ⟨a, bytes, h⟩) ∧
    (∀ t, (∃ s, parse t = .ok s) ↔
      ∃ ds, t.toList = 'E' :: ds ∧ ds.length = 64 ∧ ∀ c ∈ ds, Hex.IsDigit c) ∧
    (∀ t s, parse t = .ok s →
      ∃ ds, t.toList = 'E' :: ds ∧ s.text = String.ofList ('E' :: lower ds)) ∧
    (∀ t u s, parse t = .ok s → (parse u = .ok s ↔ SameButCase t u)) ∧
    (∀ t c, parse t = .error (.unknownAlgorithm c) ↔ t.toList.head? = some c ∧ c ≠ 'E') ∧
    ∀ t, (∃ e, parse t = .error e ∧ e.IsMalformed) ↔ t = "" ∨ ∃ ds, t.toList = 'E' :: ds ∧
      ¬(ds.length = 64 ∧ ∀ c ∈ ds, Hex.IsDigit c) := by
  refine ⟨fun a bytes h => parse_text _, fun _ => exists_parse_iff, fun t s h => ?_,
    fun t u s h => ?_, fun _ _ => parse_error_iff, fun t => ?_⟩
  · obtain ⟨ds, ht, hl⟩ := parse_ok_iff.mp h
    exact ⟨ds, ht, by rw [text_eq, hl]⟩
  · obtain ⟨ds, ht, hl⟩ := parse_ok_iff.mp h
    rw [parse_ok_iff, ← hl]
    constructor
    · rintro ⟨es, hu, he⟩
      exact ⟨'E', ds, es, ht, hu, beq_iff_eq.mpr he.symm⟩
    · rintro ⟨c, ds', es, ht', hu, he⟩
      obtain ⟨rfl, rfl⟩ := List.cons.inj (ht.symm.trans ht')
      exact ⟨es, hu, (eq_of_beq he).symm⟩
  · rw [parse_malformed_iff, exists_parse_iff]
    cases ht : t.toList with
    | nil => simp [String.toList_eq_nil_iff.mp ht]
    | cons c ds =>
      have hn : t ≠ "" := fun h => by simp [h] at ht
      simp only [hn, false_or, List.head?_cons, Option.some.injEq, List.cons.injEq]
      constructor
      · rintro ⟨h, hc⟩
        exact ⟨ds, ⟨hc c rfl, rfl⟩, fun hd => h ⟨ds, ⟨hc c rfl, rfl⟩, hd⟩⟩
      · rintro ⟨es, ⟨rfl, rfl⟩, h⟩
        exact ⟨fun ⟨fs, ⟨_, hf⟩, hd⟩ => h (hf ▸ hd), fun c hc => hc.symm⟩

def mixedText : String := String.ofList ('E' :: (List.replicate 32 ['a', 'B']).flatten)

def mixedSaid : Said := ⟨.blake3, List.replicate 32 0xab, by decide⟩

theorem parse_exactly_mixed : parse mixedText = .ok mixedSaid ∧
    (∀ c ∈ mixedText.toList.tail, Hex.IsDigit c) ∧ SameButCase mixedSaid.text mixedText ∧
    parse "É" = .error (.unknownAlgorithm 'É') ∧
    ∃ e, parse "Eab" = .error e ∧ e.IsMalformed := by
  have hs : SameButCase mixedSaid.text mixedText :=
    ⟨'E', _, _, String.toList_ofList, String.toList_ofList, by decide +kernel⟩
  obtain ⟨hp, ha, -, hc, hu, hm⟩ := parse_exactly
  have hr : parse mixedText = .ok mixedSaid := (hc _ _ _ (hp _ _ _)).mpr hs
  obtain ⟨ds, ht, -, hd⟩ := (ha _).mp ⟨_, hr⟩
  refine ⟨hr, by rwa [ht], hs, (hu _ _).mpr (by decide), (hm _).mpr (Or.inr ⟨['a', 'b'], rfl, ?_⟩)⟩
  simp

end Said

end LayeredSchema

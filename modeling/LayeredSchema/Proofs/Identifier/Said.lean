import LayeredSchema.Identifier.Said
import LayeredSchema.Proofs.Outcome
import Mathlib.Tactic.Common

/-! Identifiers: the text of an identifier reads back as the identifier. -/

namespace LayeredSchema

open Text

namespace Hex

lemma hexDigit?_hexDigit {n : ℕ} (h : n < 16) : hexDigit? (hexDigit n) = some n := by
  have hd : ∀ n < 16, hexDigit? (hexDigit n) = some n := by decide
  exact hd n h

def halves (b : UInt8) : List ℕ := [b.toNat / 16, b.toNat % 16]

lemma halves_lt {b : UInt8} {n : ℕ} (h : n ∈ halves b) : n < 16 := by
  have hb := b.toNat_lt
  simp only [halves, List.mem_cons, List.not_mem_nil, or_false] at h
  omega

lemma encode_eq (bytes : List UInt8) : encode bytes = (bytes.flatMap halves).map hexDigit := by
  rw [encode, List.map_flatMap]
  rfl

lemma digits_map {ns : List ℕ} (h : ∀ n ∈ ns, n < 16) (i : ℕ) :
    digits i (ns.map hexDigit) = .ok ns := by
  induction ns generalizing i with
  | nil => rfl
  | cons n ns ih =>
    rw [List.map_cons, digits, hexDigit?_hexDigit (h n List.mem_cons_self)]
    simp only [ih fun m hm => h m (List.mem_cons_of_mem n hm)]
    rfl

lemma pairs_flatMap (bytes : List UInt8) : pairs (bytes.flatMap halves) = bytes := by
  induction bytes with
  | nil => rfl
  | cons b bytes ih =>
    have hb : UInt8.ofNat (16 * (b.toNat / 16) + b.toNat % 16) = b := by
      rw [Nat.div_add_mod, UInt8.ofNat_toNat]
    rw [List.flatMap_cons]
    exact congrArg₂ List.cons hb ih

lemma byteLength_map {ns : List ℕ} (h : ∀ n ∈ ns, n < 16) :
    byteLength (ns.map hexDigit) = ns.length := by
  induction ns with
  | nil => rfl
  | cons n ns ih =>
    have hd : ∀ n < 16, (hexDigit n).utf8Size = 1 := by decide
    rw [List.map_cons, byteLength_cons, hd n (h n List.mem_cons_self),
      ih fun m hm => h m (List.mem_cons_of_mem n hm), List.length_cons, Nat.add_comm]

lemma length_halves (bytes : List UInt8) : (bytes.flatMap halves).length = 2 * bytes.length := by
  induction bytes with
  | nil => rfl
  | cons b bytes ih =>
    rw [List.flatMap_cons, List.length_append, ih, halves]
    simp
    omega

lemma decode_encode (bytes : List UInt8) : decode (encode bytes) = .ok bytes := by
  have hlt : ∀ n ∈ bytes.flatMap halves, n < 16 := by
    intro n hn
    obtain ⟨b, _, hb⟩ := List.mem_flatMap.mp hn
    exact halves_lt hb
  have hl : byteLength (encode bytes) % 2 ≠ 1 := by
    rw [encode_eq, byteLength_map hlt, length_halves]
    omega
  rw [decode, if_neg hl, encode_eq, digits_map hlt]
  exact congrArg Except.ok (pairs_flatMap bytes)

lemma forall_mem_encode {P : Char → Prop} (h : ∀ n < 16, P (hexDigit n)) (bytes : List UInt8) :
    ∀ c ∈ encode bytes, P c := by
  intro c hc
  rw [encode_eq] at hc
  obtain ⟨n, hn, rfl⟩ := List.mem_map.mp hc
  obtain ⟨b, _, hb⟩ := List.mem_flatMap.mp hn
  exact h n (halves_lt hb)

end Hex

namespace Said

lemma parse_text (s : Said) : parse s.text = .ok s := by
  obtain ⟨a, bytes, hl⟩ := s
  have hc : Algorithm.ofCode? a.code = some a := by cases a; rfl
  simp only [parse, text, String.toList_ofList, hc, Hex.decode_encode, hl, dif_pos]

lemma text_inj {s t : Said} : s.text = t.text ↔ s = t := by
  constructor
  · intro h
    have hp := parse_text s
    rw [h, parse_text] at hp
    exact (Except.ok.inj hp).symm
  · rintro rfl
    rfl

lemma forall_mem_text {P : Char → Prop} (hc : P 'E') (h : ∀ n < 16, P (hexDigit n)) (s : Said) :
    ∀ c ∈ s.text.toList, P c := by
  intro c hm
  rw [text, String.toList_ofList] at hm
  rcases List.mem_cons.mp hm with rfl | hm
  · cases s.algorithm
    exact hc
  · exact Hex.forall_mem_encode h _ c hm

lemma isBlank_text (s : Said) : ∀ c ∈ s.text.toList, isBlank c = false :=
  forall_mem_text (by decide) (by decide) s

end Said

end LayeredSchema

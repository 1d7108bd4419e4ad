import LayeredSchema.Condition.Basic
import LayeredSchema.Proofs.Condition.Spans
import Mathlib

/-!
The byte offsets of a condition: spans of tokens start and stop between characters of the text, and
errors are at a character or at the end. Main result: `tokens_tile_text`.
-/

namespace LayeredSchema

namespace Text

variable {n : ℕ} {head rest cs : List Char} {c : Char} {s : String}

lemma utf8ByteSize_ofList (cs : List Char) : (String.ofList cs).utf8ByteSize = byteLength cs := by
  induction cs with
  | nil => rfl
  | cons c cs ih =>
    rw [← List.singleton_append, String.ofList_append, String.utf8ByteSize_append, ih,
      ← String.singleton_eq_ofList, String.utf8ByteSize_singleton]
    rfl

lemma isValid_of_toList (h : s.toList = head ++ rest) :
    (⟨byteLength head⟩ : String.Pos.Raw).IsValid s := by
  rw [String.Pos.Raw.isValid_iff_exists_append]
  refine ⟨String.ofList head, String.ofList rest, ?_, ?_⟩
  · rw [← String.ofList_append, ← h, String.ofList_toList]
  · exact String.Pos.Raw.ext (utf8ByteSize_ofList head).symm

lemma utf8GetAux?_eq_some_iff {p : String.Pos.Raw} (i : String.Pos.Raw) :
    String.Pos.Raw.utf8GetAux? cs i p = some c ↔
      ∃ head rest, cs = head ++ c :: rest ∧ i.byteIdx + byteLength head = p.byteIdx := by
  induction cs generalizing i with
  | nil => simp [String.Pos.Raw.utf8GetAux?]
  | cons d cs ih =>
    rw [String.Pos.Raw.utf8GetAux?]
    by_cases hi : i = p
    · rw [if_pos hi, Option.some_inj]
      refine ⟨fun hd => ⟨[], cs, hd ▸ rfl, hi ▸ rfl⟩, ?_⟩
      rintro ⟨_ | ⟨e, head⟩, rest, hc, hl⟩
      · exact (List.cons.inj hc).1
      · have he := e.utf8Size_pos
        rw [hi, byteLength_cons] at hl
        omega
    · rw [if_neg hi, ih]
      refine ⟨?_, ?_⟩
      · rintro ⟨head, rest, rfl, hl⟩
        refine ⟨d :: head, rest, rfl, ?_⟩
        rw [← hl, String.Pos.Raw.byteIdx_add_char, byteLength_cons, Nat.add_assoc]
      · rintro ⟨_ | ⟨e, head⟩, rest, hc, hl⟩
        · exact absurd (String.Pos.Raw.ext hl) hi
        · obtain ⟨rfl, rfl⟩ := List.cons.inj hc
          refine ⟨head, rest, rfl, ?_⟩
          rw [← hl, String.Pos.Raw.byteIdx_add_char, byteLength_cons, Nat.add_assoc]

lemma get?_eq_some_iff : String.Pos.Raw.get? s ⟨n⟩ = some c ↔
    ∃ head rest, s.toList = head ++ c :: rest ∧ byteLength head = n := by
  refine (utf8GetAux?_eq_some_iff 0).trans ?_
  simp

end Text

namespace Condition

open Text

variable {c : Char} {t : Token} {e : Error} {ss : List Span}

section Faults

variable {l o r p : ℕ × Token} {ts : List (ℕ × Token)} {stop i : ℕ} {clause : List Comparison}

def Error.Awaits (i : ℕ) (e : Error) : Prop := e = .expectedOperand i ∨ e = .expectedOperator i

lemma awaits_of_operand (h : operand p = .error e) : e.Awaits p.1 := by
  rw [operand.eq_def] at h
  split at h
  · contradiction
  · contradiction
  · exact Or.inl (Except.error.inj h).symm

lemma awaits_of_operator (h : operator p = .error e) : e.Awaits p.1 := by
  rw [operator.eq_def] at h
  split at h
  · contradiction
  · exact Or.inr (Except.error.inj h).symm

lemma awaits_of_comparison (h : comparison l o r = .error e) : ∃ p ∈ [l, o, r], e.Awaits p.1 := by
  rcases Outcome.bind_error_iff.mp h with h | ⟨a, -, h⟩
  · exact ⟨l, by simp, awaits_of_operand h⟩
  rcases Outcome.bind_error_iff.mp h with h | ⟨b, -, h⟩
  · exact ⟨o, by simp, awaits_of_operator h⟩
  rcases Outcome.bind_error_iff.mp h with h | ⟨c, -, h⟩
  · exact ⟨r, by simp, awaits_of_operand h⟩
  · contradiction

def Misses (stop : ℕ) (ts : List (ℕ × Token)) (e : Error) : Prop :=
  e.Awaits stop ∨ ∃ p ∈ ts, e.Awaits p.1

lemma Misses.mono {us : List (ℕ × Token)} (h : Misses stop ts e) (hs : ∀ p ∈ ts, p ∈ us) :
    Misses stop us e := by
  rcases h with h | ⟨p, hp, h⟩
  · exact Or.inl h
  · exact Or.inr ⟨p, hs p hp, h⟩

lemma misses_of_comparison (h : comparison l o r = .error e) :
    Misses stop (l :: o :: r :: ts) e := by
  obtain ⟨p, hp, h⟩ := awaits_of_comparison h
  exact Or.inr ⟨p, List.mem_append_left ts hp, h⟩

lemma misses_of_incomplete {α : Type} (h : incomplete stop ts = (.error e : Except Error α)) :
    Misses stop ts e := by
  rw [incomplete.eq_def] at h
  split at h
  · exact Or.inl (Or.inl (Except.error.inj h).symm)
  · rcases Outcome.bind_error_iff.mp h with h | ⟨a, -, h⟩
    · exact Or.inr ⟨_, List.mem_cons_self, awaits_of_operand h⟩
    · exact Or.inl (Or.inr (Except.error.inj h).symm)
  · rcases Outcome.bind_error_iff.mp h with h | ⟨a, -, h⟩
    · exact Or.inr ⟨_, List.mem_cons_self, awaits_of_operand h⟩
    rcases Outcome.bind_error_iff.mp h with h | ⟨b, -, h⟩
    · exact Or.inr ⟨_, by simp, awaits_of_operator h⟩
    · exact Or.inl (Or.inl (Except.error.inj h).symm)

lemma misses_of_readClauses (h : readClauses stop clause ts = .error e) : Misses stop ts e := by
  have tail {l o r p : ℕ × Token} {ts : List (ℕ × Token)} (h : Misses stop ts e) :
      Misses stop (l :: o :: r :: p :: ts) e :=
    h.mono fun q hq => List.mem_append_right [l, o, r, p] hq
  induction clause, ts using readClauses.induct with
  | case1 clause l o r =>
    rcases Outcome.bind_error_iff.mp h with h | ⟨cmp, -, h⟩
    · exact misses_of_comparison h
    · contradiction
  | case2 clause l o r i ts ih =>
    rcases Outcome.bind_error_iff.mp h with h | ⟨cmp, -, h⟩
    · exact misses_of_comparison h
    · exact tail (ih cmp h)
  | case3 clause l o r i ts ih =>
    rcases Outcome.bind_error_iff.mp h with h | ⟨cmp, -, h⟩
    · exact misses_of_comparison h
    rcases Outcome.bind_error_iff.mp h with h | ⟨more, -, h⟩
    · exact tail (ih h)
    · contradiction
  | case4 clause l o r i t ts ha ho =>
    rw [readClauses.eq_4 _ _ _ _ _ _ _ _ ha ho] at h
    rcases Outcome.bind_error_iff.mp h with h | ⟨cmp, -, h⟩
    · exact misses_of_comparison h
    · exact Or.inr ⟨(i, t), by simp, Or.inr (Except.error.inj h).symm⟩
  | case5 clause ts h₁ h₂ h₃ h₄ =>
    rw [readClauses.eq_5 _ _ _ h₁ h₂ h₃ h₄] at h
    exact misses_of_incomplete h

end Faults

section Text

variable {s : Span} {text : String}

def Error.position? : Error → Option ℕ
  | .empty => none
  | .unexpectedChar i _ | .unterminatedString i | .unterminatedVariable i | .expectedOperand i
  | .expectedOperator i => some i

/-- A span stands between characters of a text and is not empty, and what is between its ends is
its token by itself and has no blank at its own ends. -/
structure Span.IsIn (s : Span) (text : String) : Prop where
  start_lt_stop : s.start < s.stop
  start_isValid : (⟨s.start⟩ : String.Pos.Raw).IsValid text
  stop_isValid : (⟨s.stop⟩ : String.Pos.Raw).IsValid text
  reads : ∃ w, slice? s.start s.stop text.toList = some w ∧ trim w = w ∧
    tokens 0 w = .ok [(0, s.token)]

lemma Spanned.isIn (h : Spanned 0 text.toList ss) (hs : s ∈ ss) : s.IsIn text := by
  obtain ⟨u, w, v, ht, hw, hi, hj⟩ := h.exists_word hs
  rw [Nat.zero_add] at hi hj
  have hl : 0 < byteLength w :=
    (List.length_pos_iff.mpr hw.ne_nil).trans_le (length_le_byteLength w)
  refine ⟨by omega, hi ▸ isValid_of_toList ht, ?_, w, ?_, hw.trim_eq, hw.tokens_eq⟩
  · have hv : text.toList = (u ++ w) ++ v := by rw [ht, List.append_assoc]
    rw [hj, ← byteLength_append]
    exact isValid_of_toList hv
  · rw [hi, hj, ht]
    exact slice?_append u w v

lemma parse_error_cases (h : parse text = .error e) : tokens 0 text.toList = .error e ∨
    tokens 0 text.toList = .ok [] ∧ e = .empty ∨
      ∃ ts, tokens 0 text.toList = .ok ts ∧ Misses (byteLength text.toList) ts e := by
  rcases Outcome.bind_error_iff.mp h with h | ⟨ts, ht, h⟩
  · exact Or.inl h
  split at h
  · rename_i hn
    rw [List.isEmpty_iff.mp hn] at ht
    exact Or.inr (Or.inl ⟨ht, (Except.error.inj h).symm⟩)
  rcases Outcome.bind_error_iff.mp h with h | ⟨clauses, -, h⟩
  · exact Or.inr (Or.inr ⟨ts, ht, misses_of_readClauses h⟩)
  · contradiction

/-- What an error says of a text is so: it stands between characters, or at an end, and a character
that it names is there. -/
structure Error.IsIn (e : Error) (text : String) : Prop where
  isValid : ∀ i, e.position? = some i → (⟨i⟩ : String.Pos.Raw).IsValid text
  le : ∀ i, e.position? = some i → i ≤ text.utf8ByteSize
  names : ∀ i c, e = .unexpectedChar i c → String.Pos.Raw.get? text ⟨i⟩ = some c

lemma le_of_isValid {i : ℕ} (h : (⟨i⟩ : String.Pos.Raw).IsValid text) : i ≤ text.utf8ByteSize :=
  String.Pos.Raw.le_iff.mp h.le_rawEndPos

lemma isIn_of_isAt {u w : List Char} (h : e.IsAt (byteLength u) c)
    (ht : text.toList = u ++ c :: w) : e.IsIn text := by
  have hv : ∀ i, e.position? = some i → (⟨i⟩ : String.Pos.Raw).IsValid text := by
    intro i hi
    obtain rfl : byteLength u = i := by
      rcases h with rfl | rfl | rfl <;> exact Option.some.inj hi
    exact isValid_of_toList ht
  refine ⟨hv, fun i hi => le_of_isValid (hv i hi), ?_⟩
  rintro i d rfl
  rcases h with h | h | h
  · obtain ⟨rfl, rfl⟩ := Error.unexpectedChar.inj h
    exact get?_eq_some_iff.mpr ⟨u, w, ht, rfl⟩
  · contradiction
  · contradiction

lemma isIn_of_awaits {i : ℕ} (h : e.Awaits i) (hv : (⟨i⟩ : String.Pos.Raw).IsValid text) :
    e.IsIn text := by
  have hp : ∀ j, e.position? = some j → i = j := by
    intro j hj
    rcases h with rfl | rfl <;> exact Option.some.inj hj
  refine ⟨fun j hj => hp j hj ▸ hv, fun j hj => hp j hj ▸ le_of_isValid hv, ?_⟩
  rintro j c rfl
  rcases h with h | h <;> contradiction

lemma isIn_of_parse (h : parse text = .error e) : e.IsIn text := by
  have hc := spans_cuts text.toList
  generalize spans text.toList = x at hc
  rcases parse_error_cases h with ht | ⟨-, rfl⟩ | ⟨ts, ht, hm⟩
  · rw [ht] at hc
    cases hc with
    | error hu _ he =>
      rw [Nat.zero_add] at he
      exact isIn_of_isAt he hu
  · -- an empty text has no place to report
    exact ⟨nofun, nofun, nofun⟩
  · rw [ht] at hc
    rcases hm with hm | ⟨p, hp, hm⟩
    · exact isIn_of_awaits hm (isValid_of_toList (List.append_nil text.toList).symm)
    · cases hc with
      | ok hs =>
        obtain ⟨s, hm', rfl⟩ := List.mem_map.mp hp
        exact isIn_of_awaits hm (hs.isIn hm').start_isValid

lemma parse_eq_empty_iff :
    parse text = .error .empty ↔ ∀ c ∈ text.toList, isBlank c = true := by
  rw [← tokens_eq_nil_iff 0]
  refine ⟨fun h => ?_, fun h => ?_⟩
  · rcases parse_error_cases h with ht | ⟨ht, -⟩ | ⟨ts, -, hm⟩
    · have hc := spans_cuts text.toList
      rw [ht] at hc
      generalize spans text.toList = x at hc
      cases hc with
      | error _ _ he => rcases he with he | he | he <;> contradiction
    · exact ht
    · rcases hm with (hm | hm) | ⟨p, -, hm | hm⟩ <;> contradiction
  · rw [parse, h]
    rfl

/-- For every text: reading its tokens by byte offsets comes to an end, cuts no character and finds
the tokens that are read. Those take spans of the text, one behind the other, and each character is
in one of them, or is a blank and in none. An error stands at a character of the text, and names it
if it names one, or at the end; and a text counts as empty just if it is blank. -/
theorem tokens_tile_text (text : String) :
    (∃ out, spans text.toList = some out ∧
      tokens 0 text.toList = out.map (List.map Span.place) ∧
      ∀ ss, out = .ok ss → (∀ s ∈ ss, s.IsIn text) ∧
        ss.Pairwise (fun s t => s.stop ≤ t.start) ∧
        ∀ i c, String.Pos.Raw.get? text ⟨i⟩ = some c →
          (∃ s ∈ ss, s.Holds i c) ∨ isBlank c = true ∧ ∀ s ∈ ss, s.Avoids i c) ∧
    (∀ e, parse text = .error e → e.IsIn text) ∧
    (parse text = .error .empty ↔ ∀ c ∈ text.toList, isBlank c = true) := by
  refine ⟨?_, fun e => isIn_of_parse, parse_eq_empty_iff⟩
  have hc := spans_cuts text.toList
  generalize spans text.toList = x at hc
  generalize tokens 0 text.toList = y at hc
  cases hc with
  | error => exact ⟨.error _, rfl, rfl, nofun⟩
  | @ok ss h =>
    refine ⟨.ok ss, rfl, rfl, ?_⟩
    rintro _ ⟨⟩
    refine ⟨fun s => h.isIn, h.pairwise, fun i c hi => ?_⟩
    obtain ⟨u, v, ht, rfl⟩ := get?_eq_some_iff.mp hi
    have hs := h.covers ht
    rwa [Nat.zero_add] at hs

def accentedText : String := "$\x7bé\x7d >=\u3000'ö ü'"

def faultyText : String := "$\x7bé\x7d > maybe"

theorem tokens_tile_text_accented :
    (∃ ss : List Span, tokens 0 accentedText.toList = .ok (ss.map Span.place) ∧
      ss.map (fun s => (s.start, s.stop)) = [(0, 5), (6, 8), (11, 18)] ∧
      (∀ s ∈ ss, s.IsIn accentedText) ∧ ss.Pairwise (fun s t => s.stop ≤ t.start) ∧
      ∃ s ∈ ss, s.Holds 15 'ü') ∧
    (parse faultyText = .error (.unexpectedChar 8 'm') ∧
      (Error.unexpectedChar 8 'm').IsIn faultyText) ∧ parse "\u3000\t" = .error .empty := by
  obtain ⟨⟨out, hs, ht, h⟩, -⟩ := tokens_tile_text accentedText
  obtain rfl : .ok _ = out := Option.some.inj ((rfl : spans accentedText.toList = _).symm.trans hs)
  obtain ⟨hi, hp, hc⟩ := h _ rfl
  have hf : parse faultyText = .error (.unexpectedChar 8 'm') := by decide +kernel
  refine ⟨⟨_, ht, rfl, hi, hp, ?_⟩, ⟨hf, (tokens_tile_text faultyText).2.1 _ hf⟩, ?_⟩
  · exact (hc 15 'ü' rfl).resolve_right fun hb => absurd hb.1 (by decide)
  · exact (tokens_tile_text "\u3000\t").2.2.mpr (List.all_eq_true.mp rfl)

end Text

end Condition

end LayeredSchema

import LayeredSchema.Proofs.Format.Positional
import LayeredSchema.Proofs.Pattern.Anchored

/-!
The expression for the form of values: what it reads as, and that it matches the values that have
the form of the items. Main statement: `shape_finds_iff`.
-/

namespace LayeredSchema.DatePattern

open Pattern Text

variable {items : List DateItem} {cs ps vs text : List Char} {ts : List Bool} {rs : Readings}
  {f : DateField} {c : Char} {parts : List Part} {r : Regex} {i j k n : ℕ}

/-! ### Reading the expression -/

def digitSet : CharSet := .range '0' '9'

def startPart : Part := .ofAtom (.look .textStart) 0

def endPart : Part := .ofAtom (.look .textEnd) 0

def partOf : DateItem → Part
  | .field f => (Part.ofAtom (.chars digitSet) 1).repeated f.width (some f.width) true
  | .literal c => .ofAtom (.chars (.single c)) 0

def readingOf (parts : List Part) : Reading :=
  { level := { flags := {}, pieces := parts.map .part } }

lemma read?_digits (cs : List Char) :
    Bracket.read? {} ('0' :: '-' :: '9' :: ']' :: cs) = some (⟨digitSet, 1⟩, cs) := by
  have hs : Bracket.start? false ('0' :: '-' :: '9' :: ']' :: cs) =
      some (false, {}, '0' :: '-' :: '9' :: ']' :: cs) := by
    simp [Bracket.start?, skip, Bracket.dropHyphens]
  have hu : CharSet.empty.union digitSet = digitSet := by decide +kernel
  have hr : Bracket.step? {} {} [.bracket {} false] ('0' :: '-' :: '9' :: ']' :: cs) =
      some (.within (({} : Bracket.Items).add digitSet 0) [.bracket {} false], ']' :: cs) := rfl
  have hc : Bracket.step? {} (({} : Bracket.Items).add digitSet 0) [.bracket {} false] (']' :: cs) =
      some (.complete ⟨CharSet.empty.union digitSet, 1⟩, cs) := rfl
  rw [hu] at hc
  change Bracket.start? false _ >>= _ = _
  rw [hs]
  change Bracket.run? {} {} [.bracket {} false] _ = _
  rw [Bracket.run?_of_within hr, if_pos (by simp), Bracket.run?_of_complete hc]

lemma bounds?_width (f : DateField) (cs : List Char) :
    bounds? false (Nat.toDigits 10 f.width ++ '\x7d' :: cs) =
      some (f.width, some f.width, cs) := by
  have hb : countDigits false ('\x7d' :: cs) = ([], '\x7d' :: cs) :=
    countDigits_of_not_digit (by decide)
  have hd {c : Char} (hc : c.isDigit = true) :
      countDigits false (c :: '\x7d' :: cs) = ([c], '\x7d' :: cs) := by
    rw [countDigits_digit hc]
    change (c :: (countDigits false ('\x7d' :: cs)).1, (countDigits false ('\x7d' :: cs)).2) = _
    rw [hb]
  have hw : f.width = 4 ∨ f.width = 2 := by cases f <;> decide
  rw [bounds?_eq, count?_eq]
  rcases hw with hw | hw
  · rw [hw]
    change (some (countDigits false ('4' :: '\x7d' :: cs)) >>= _) >>= _ = _
    rw [hd (by decide)]
    rfl
  · rw [hw]
    change (some (countDigits false ('2' :: '\x7d' :: cs)) >>= _) >>= _ = _
    rw [hd (by decide)]
    rfl

lemma run?_field (f : DateField) (hc : ∀ ds, cs ≠ '?' :: ds) :
    (readingOf parts).run? (shapeChars (.field f) ++ cs) =
      (readingOf (partOf (.field f) :: parts)).run? cs := by
  have hs : shapeChars (.field f) ++ cs = '[' :: '0' :: '-' :: '9' :: ']' :: '\x7b' ::
      (Nat.toDigits 10 f.width ++ '\x7d' :: cs) := by simp [shapeChars]
  rw [hs, Reading.run?_of_cons rfl]
  change (Bracket.read? {} _ >>= _) >>= _ = _
  rw [read?_digits]
  change Reading.run? _ ('\x7b' :: _) = _
  rw [Reading.run?_of_cons rfl]
  change (bounds? false _ >>= _) >>= _ = _
  rw [bounds?_width]
  change Reading.repetition? _ _ _ cs >>= _ = _
  rw [repetition?_of_ne hc]
  rfl

lemma run?_literal (c : Char) :
    (readingOf parts).run? (shapeChars (.literal c) ++ cs) =
      (readingOf (partOf (.literal c) :: parts)).run? cs := by
  rw [shapeChars]
  split_ifs with hm
  · have he : Atom.escape? false (c :: cs) = some (.char c, cs) := by
      simp only [metaChars, List.contains_iff_mem, List.mem_cons, List.not_mem_nil, or_false] at hm
      rcases hm with rfl | rfl | rfl | rfl | rfl | rfl | rfl | rfl | rfl | rfl | rfl | rfl | rfl |
        rfl | rfl | rfl | rfl | rfl <;> rfl
    rw [List.cons_append, Reading.run?_of_cons rfl]
    change (Atom.escape? false (c :: cs) >>= _) >>= _ = _
    rw [he]
    rfl
  · have hm : c ∉ metaChars := by simpa using hm
    simp only [metaChars, List.mem_cons, List.not_mem_nil, or_false, not_or] at hm
    obtain ⟨backslash, dot, plus, star, question, openParen, closeParen, bar, openBracket, -,
      openBrace, -, caret, dollar, -⟩ := hm
    rw [List.cons_append, List.nil_append, Reading.run?_of_cons rfl,
      Reading.step?.eq_14 _ c cs openParen closeParen bar openBracket question star plus openBrace
        dot caret dollar backslash]
    rfl

/-- No item is written as a question mark, which would make the repetition before it a lazy one. -/
lemma shape_ne_question (items : List DateItem) (ds : List Char) :
    items.flatMap shapeChars ++ ['$'] ≠ '?' :: ds := by
  cases items with
  | nil => exact fun h => absurd (List.cons.inj h).1 (by decide)
  | cons item items =>
    cases item with
    | field f => exact fun h => absurd (List.cons.inj h).1 (by decide)
    | literal c =>
      rw [List.flatMap_cons, shapeChars]
      split_ifs with hm
      · exact fun h => absurd (List.cons.inj h).1 (by decide)
      · intro h
        obtain rfl : c = '?' := (List.cons.inj h).1
        exact hm (by decide)

lemma run?_items (items : List DateItem) (parts : List Part) :
    (readingOf parts).run? (items.flatMap shapeChars ++ ['$']) =
      some (readingOf (endPart :: (items.map partOf).reverse ++ parts)) := by
  induction items generalizing parts with
  | nil =>
    change (readingOf parts).run? ['$'] = _
    rw [Reading.run?_of_cons rfl]
    exact Reading.run?_of_nil rfl
  | cons item items ih =>
    have hi : (readingOf parts).run?
        (shapeChars item ++ (items.flatMap shapeChars ++ ['$'])) =
          (readingOf (partOf item :: parts)).run? (items.flatMap shapeChars ++ ['$']) := by
      cases item with
      | field f => exact run?_field f (shape_ne_question items)
      | literal c => exact run?_literal c
    rw [List.flatMap_cons, List.append_assoc, hi, ih]
    simp

def shapePart (items : List DateItem) : Part :=
  .sequence (startPart :: (items.map partOf ++ [endPart]))

lemma part?_shapeOf (items : List DateItem) : part? (shapeOf items) = some (shapePart items) := by
  have hr : Reading.run? {} (shapeOf items) =
      some (readingOf (endPart :: (items.map partOf).reverse ++ [startPart])) := by
    rw [shapeOf, List.append_assoc, List.singleton_append, Reading.run?_of_cons rfl]
    exact run?_items items [startPart]
  rw [part?_of_run? hr]
  change some (Part.sequence (((endPart :: (items.map partOf).reverse ++ [startPart]).map
    Piece.part).reverse.map Piece.toPart)) = _
  simp [shapePart, Function.comp_def, Piece.toPart]

/-! ### Matches -/

def MatchAll (text : List Char) : List Part → ℕ → ℕ → Prop
  | [], i, j => i = j
  | p :: ps, i, k => ∃ j, p.regex.Matches text i j ∧ MatchAll text ps j k

lemma regex_sequence (p : Part) (parts : List Part) :
    (Part.sequence (p :: parts)).regex = parts.foldl (fun r q => .seq r q.regex) p.regex := by
  cases parts <;> rfl

lemma matches_foldl : (parts.foldl (fun r q => .seq r q.regex) r).Matches text i k ↔
    ∃ j, r.Matches text i j ∧ MatchAll text parts j k := by
  induction parts generalizing r with
  | nil => simp [MatchAll]
  | cons p parts ih =>
    rw [List.foldl_cons, ih]
    constructor
    · rintro ⟨j, ⟨l, hl, hj⟩, hk⟩
      exact ⟨l, hl, j, hj, hk⟩
    · rintro ⟨l, hl, j, hj, hk⟩
      exact ⟨j, ⟨l, hl, hj⟩, hk⟩

lemma contains_single {d : Char} : (CharSet.single c).contains d = true ↔ d = c := by
  have h : (CharSet.single c).contains d = true ↔ c.toNat ≤ d.toNat ∧ d.toNat ≤ c.toNat := by
    simp [CharSet.contains, CharSet.single, Interval.contains]
  rw [h]
  constructor
  · exact fun h => Char.toNat_inj.mp (Nat.le_antisymm h.2 h.1)
  · rintro rfl
    exact ⟨Nat.le_refl _, Nat.le_refl _⟩

lemma contains_digitSet {d : Char} : digitSet.contains d = true ↔ d.isDigit = true := by
  have h : digitSet.contains d = true ↔ 48 ≤ d.toNat ∧ d.toNat ≤ 57 := by
    simp [CharSet.contains, digitSet, CharSet.range, Interval.contains]
  exact h.trans Char.isDigit_iff_toNat.symm

lemma matches_chars {s : CharSet} : (Regex.chars s).Matches text i j ↔
    j = i + 1 ∧ ∃ c, s.contains c = true ∧ text.drop i = c :: text.drop j := by
  refine and_congr_right fun hj => exists_congr fun c => ?_
  subst hj
  constructor
  · rintro ⟨hc, hs⟩
    obtain ⟨hi, rfl⟩ := List.getElem?_eq_some_iff.mp hc
    exact ⟨hs, List.drop_eq_getElem_cons hi⟩
  · rintro ⟨hs, hd⟩
    refine ⟨?_, hs⟩
    rw [← Nat.add_zero i, ← List.getElem?_drop, hd]
    rfl

lemma times_chars {s : CharSet} : Regex.Times ((Regex.chars s).Matches text) n i j ↔
    j = i + n ∧ ∃ ds, ds.length = n ∧ (∀ d ∈ ds, s.contains d = true) ∧
      text.drop i = ds ++ text.drop j := by
  induction n generalizing i with
  | zero =>
    constructor
    · rintro rfl
      exact ⟨rfl, [], rfl, by simp, rfl⟩
    · rintro ⟨rfl, -⟩
      rfl
  | succ n ih =>
    simp only [Regex.Times, matches_chars, ih]
    constructor
    · rintro ⟨_, ⟨rfl, c, hc, hd⟩, rfl, ds, hl, hds, he⟩
      refine ⟨by omega, c :: ds, congrArg Nat.succ hl, List.forall_mem_cons.mpr ⟨hc, hds⟩, ?_⟩
      rw [hd, he]
      rfl
    · rintro ⟨rfl, ds, hl, hds, he⟩
      cases ds with
      | nil => contradiction
      | cons c ds =>
        obtain ⟨hc, hds⟩ := List.forall_mem_cons.mp hds
        have hd : text.drop (i + 1) = ds ++ text.drop (i + (n + 1)) := by
          rw [← List.drop_drop, he]
          rfl
        exact ⟨i + 1, ⟨rfl, c, hc, by rw [he, hd]; rfl⟩, by omega, ds, Nat.succ.inj hl, hds, hd⟩

lemma matches_field : (partOf (.field f)).regex.Matches text i j ↔
    j = i + f.width ∧ ∃ ds, ds.length = f.width ∧ (∀ d ∈ ds, d.isDigit = true) ∧
      text.drop i = ds ++ text.drop j := by
  have hr : (partOf (.field f)).regex.Matches text i j ↔
      Regex.Times ((Regex.chars digitSet).Matches text) f.width i j := by
    constructor
    · rintro ⟨more, hm, ht⟩
      obtain rfl : more = 0 := by simpa using hm f.width rfl
      exact ht
    · exact fun ht => ⟨0, fun k _ => Nat.zero_le _, ht⟩
  rw [hr, times_chars]
  simp only [contains_digitSet]

lemma matches_literal : (partOf (.literal c)).regex.Matches text i j ↔
    j = i + 1 ∧ text.drop i = c :: text.drop j := by
  refine matches_chars.trans (and_congr_right fun _ => ?_)
  simp only [contains_single, exists_eq_left]

lemma matches_end : endPart.regex.Matches text i j ↔ i = j ∧ text.drop i = [] := by
  refine and_congr_right fun _ => ?_
  rw [List.drop_eq_nil_iff]
  change (text[i]?).isNone = true ↔ _
  rw [Option.isNone_iff_eq_none, List.getElem?_eq_none_iff]

lemma matchAll_iff : (∃ k, MatchAll text (items.map partOf ++ [endPart]) i k) ↔
    ∃ rs, Reads items (text.drop i) rs := by
  induction items generalizing i with
  | nil =>
    simp only [List.map_nil, List.nil_append, MatchAll, matches_end, exists_reads_nil]
    constructor
    · rintro ⟨_, _, ⟨-, h⟩, -⟩
      exact h
    · exact fun h => ⟨i, i, ⟨rfl, h⟩, rfl⟩
  | cons item items ih =>
    have hs : (∃ k, MatchAll text ((item :: items).map partOf ++ [endPart]) i k) ↔
        ∃ j, (partOf item).regex.Matches text i j ∧ ∃ rs, Reads items (text.drop j) rs := by
      simp only [← ih]
      exact ⟨fun ⟨k, j, hj, hk⟩ => ⟨j, hj, k, hk⟩, fun ⟨j, hj, k, hk⟩ => ⟨k, j, hj, hk⟩⟩
    rw [hs]
    cases item with
    | literal c =>
      rw [exists_reads_literal]
      simp only [matches_literal]
      constructor
      · rintro ⟨j, ⟨-, hd⟩, hr⟩
        exact ⟨_, hd, hr⟩
      · rintro ⟨cs, hd, hr⟩
        have hn : text.drop (i + 1) = cs := by
          rw [← List.drop_drop, hd, List.drop_one, List.tail_cons]
        exact ⟨i + 1, ⟨rfl, hn.symm ▸ hd⟩, hn.symm ▸ hr⟩
    | field f =>
      rw [exists_reads_field]
      simp only [matches_field]
      constructor
      · rintro ⟨j, ⟨-, ds, hl, hds, hd⟩, hr⟩
        exact ⟨ds, _, hd, hl, hds, hr⟩
      · rintro ⟨ds, cs, hd, hl, hds, hr⟩
        have hn : text.drop (i + f.width) = cs := by rw [← List.drop_drop, hd, List.drop_left' hl]
        exact ⟨i + f.width, ⟨rfl, ds, hl, hds, hn.symm ▸ hd⟩, hn.symm ▸ hr⟩

lemma finds_shape_iff : (shapePart items).regex.finds text = true ↔ ∃ rs, Reads items text rs := by
  rw [Regex.finds_iff, shapePart, regex_sequence]
  simp only [matches_foldl]
  constructor
  · rintro ⟨i, hi, k, j, ⟨rfl, hs⟩, hk⟩
    obtain rfl : i = 0 := by
      cases i with
      | zero => rfl
      | succ i => simp [Look.holds, Regex.before, Nat.lt_iff_add_one_le.mpr hi] at hs
    exact matchAll_iff.mp ⟨k, hk⟩
  · intro h
    have hm : ∃ k, MatchAll text (items.map partOf ++ [endPart]) 0 k := matchAll_iff.mpr h
    obtain ⟨k, hk⟩ := hm
    exact ⟨0, Nat.zero_le _, k, 0, ⟨rfl, rfl⟩, hk⟩

lemma shape_finds_iff : (regex? (shapeOf items)).any (·.finds text) = true ↔
    (regex? (shapeOf items)).isSome = true ∧ ∃ rs, Reads items text rs := by
  cases hr : regex? (shapeOf items) with
  | none => simp
  | some r =>
    obtain ⟨part, hp, -, -, rfl⟩ := regex?_eq_some_iff.mp hr
    obtain rfl := Option.some.inj ((part?_shapeOf items).symm.trans hp)
    exact finds_shape_iff.trans (by simp)

end LayeredSchema.DatePattern

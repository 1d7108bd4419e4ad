import LayeredSchema.Ocafile.Parser
import LayeredSchema.Ocafile.Printer
import LayeredSchema.Proofs.Outcome
import LayeredSchema.Proofs.Text.Blank

/-!
Reading what was written within a line: quoted strings, arrays, keys and values.
-/

namespace LayeredSchema.Ocafile

open Text

variable {c : Cursor} {s : String} {t : List Char}

lemma quote_append : quote s ++ t = '"' :: (s.toList.flatMap quoteChar ++ '"' :: t) := by
  simp [quote]

lemma noFeed_quote : '\n' ∉ quote s := by
  simp only [quote, List.mem_append, List.mem_cons, List.mem_flatMap, not_or, not_exists, not_and]
  refine ⟨⟨by decide, fun ch _ => ?_⟩, by simp⟩
  rw [quoteChar]
  split
  · rename_i h
    rcases (by simpa using h) with rfl | rfl <;> decide
  split
  · decide
  split
  · decide
  · simpa [eq_comm]

lemma noFeed_listChars (items : List String) : '\n' ∉ listChars items := by
  fun_induction listChars items <;> simp_all [noFeed_quote]

namespace Cursor

@[simp] lemma moveTo_rest : (c.moveTo t).rest = t := rfl

lemma moveTo_moveTo {cs rest : List Char} (h : cs.length ≤ c.rest.length)
    (hr : rest.length ≤ cs.length) : (c.moveTo cs).moveTo rest = c.moveTo rest := by
  simp only [moveTo, mk.injEq, true_and, and_true]
  omega

lemma moveTo_self : c.moveTo c.rest = c := by
  rw [moveTo, Nat.sub_self, Nat.add_zero]

lemma unquote?_flatMap (cs : List Char) :
    unquote? (cs.flatMap quoteChar ++ '"' :: t) = some (cs, t) := by
  induction cs with
  | nil => simp [unquote?]
  | cons ch cs ih =>
    rw [List.flatMap_cons, List.append_assoc]
    by_cases hq : ch = '"'
    · subst hq
      simp [quoteChar, unquote?, unescape, ih]
    by_cases hb : ch = '\\'
    · subst hb
      simp [quoteChar, unquote?, unescape, ih]
    by_cases hn : ch = '\n'
    · subst hn
      simp [quoteChar, unquote?, unescape, ih]
    by_cases ht : ch = '\t'
    · subst ht
      simp [quoteChar, unquote?, unescape, ih]
    simp [quoteChar, unquote?, hq, hb, hn, ht, ih]

lemma unquote?_quote : unquote? ((quote s ++ t).drop 1) = some (s.toList, t) := by
  rw [quote_append, List.drop_one, List.tail_cons, unquote?_flatMap]

def Reads {α : Type} (x : Except Error (α × Cursor)) (a : α) (t : List Char) : Prop :=
  ∃ c, x = .ok (a, c) ∧ c.rest = t

lemma quoted_quote (h : c.rest = quote s ++ t) : Reads c.quoted s t := by
  refine ⟨c.moveTo t, ?_, rfl⟩
  rw [quoted, h, unquote?_quote]
  simp

lemma expectEnd_nil (h : c.rest = []) : c.expectEnd = .ok () := by
  simp [expectEnd, atEnd, isAllBlank, h]

lemma scalar_line {d : Cursor} {what : String} (h : c.scalar what = .ok (s, d)) :
    d.line = c.line := by
  rw [scalar] at h
  split at h
  · rw [quoted] at h
    split at h
    · exact (Prod.mk.inj (Except.ok.inj h)).2 ▸ rfl
    · contradiction
  · split at h
    · contradiction
    · exact (Prod.mk.inj (Except.ok.inj h)).2 ▸ rfl

lemma scalar_quote (what : String) (h : trimLeft c.rest = quote s ++ t) :
    Reads (c.scalar what) s t := by
  have hq : Reads c.skipBlanks.quoted s t := quoted_quote h
  have hr : c.skipBlanks.rest = '"' :: (s.toList.flatMap quoteChar ++ '"' :: t) :=
    h.trans quote_append
  rwa [scalar, hr]

lemma scalar_plain (what : String) (h : trimLeft c.rest = s.toList) (hn : s.toList ≠ [])
    (ht : trim s.toList = s.toList) (hq : s.toList.head? ≠ some '"') :
    Reads (c.scalar what) s [] := by
  refine ⟨c.skipBlanks.moveTo [], ?_, rfl⟩
  have hr : c.skipBlanks.rest = s.toList := h
  rw [scalar, hr]
  split
  · rename_i hc
    simp [hc] at hq
  · simp [ht, hn]

lemma afterElement_comma : afterElement (',' :: t) = .ok t := by
  have ht : trimLeft (',' :: t) = ',' :: t := trimLeft_cons (by decide)
  simp [afterElement, ht]

lemma afterElement_bracket : afterElement (']' :: t) = .ok (']' :: t) := by
  have ht : trimLeft (']' :: t) = ']' :: t := trimLeft_cons (by decide)
  simp [afterElement, ht]

lemma elements_cons {cs tail : List Char} {ch : Char} (h : trimLeft cs = ch :: tail)
    (hc : ch ≠ ']') :
    elements cs = element (ch :: tail) >>= fun x =>
      (elements x.2).map fun y => (x.1 :: y.1, y.2) := by
  rw [elements]
  split
  · simp_all
  · rename_i hc'
    obtain ⟨rfl, rfl⟩ := List.cons.inj (hc'.symm.trans h)
    rw [if_neg hc]
    split
    · rename_i he
      rw [he]
      rfl
    · rename_i he
      dsimp only
      rw [he]
      rfl

lemma elements_quote {cs out : List Char} (h : trimLeft cs = quote s ++ t)
    (ha : afterElement t = .ok out) :
    elements cs = (elements out).map fun (items, t) => (s :: items, t) := by
  have he : element ('"' :: (s.toList.flatMap quoteChar ++ '"' :: t)) = .ok (s, out) := by
    have hu : unquote? (s.toList.flatMap quoteChar ++ '"' :: t) = some (s.toList, t) :=
      unquote?_flatMap _
    rw [element, hu]
    simp [ha, Except.map]
  rw [elements_cons (h.trans quote_append) (by decide), he]
  rfl

lemma elements_bracket {cs : List Char} (h : trimLeft cs = ']' :: t) :
    elements cs = .ok ([], t) := by
  rw [elements]
  split
  · simp_all
  · rename_i hc
    obtain ⟨rfl, rfl⟩ := List.cons.inj (hc.symm.trans h)
    rw [if_pos rfl]

lemma trimLeft_listChars (items : List String) :
    trimLeft (listChars items ++ ']' :: t) = listChars items ++ ']' :: t := by
  fun_cases listChars items with
  | case1 => exact trimLeft_cons (by decide)
  | case2 s => rw [quote_append, trimLeft_cons (by decide)]
  | case3 s ss => rw [List.append_assoc, quote_append, trimLeft_cons (by decide)]

lemma elements_listChars {cs : List Char} (items : List String)
    (h : trimLeft cs = listChars items ++ ']' :: t) : elements cs = .ok (items, t) := by
  fun_induction listChars items generalizing cs with
  | case1 => exact elements_bracket h
  | case2 s =>
    rw [elements_quote h afterElement_bracket, elements_bracket (trimLeft_cons (by decide))]
    rfl
  | case3 s ss _ ih =>
    rw [List.append_assoc] at h
    rw [elements_quote h afterElement_comma, ih]
    · rfl
    · exact trimLeft_space.trans (trimLeft_listChars ss)

lemma value_text (h : c.rest = quote s) : c.value = .ok (.text s) := by
  have hs : c.skipBlanks.rest = '"' :: (s.toList.flatMap quoteChar ++ ['"']) := by
    rw [skipBlanks, h]
    exact trimLeft_cons (c := '"') (by decide)
  obtain ⟨c', hc, hr⟩ : Reads c.skipBlanks.quoted s [] := quoted_quote (by rw [hs, quote_append])
  simp only [value, hs, Outcome.bind_ok_iff, Outcome.pure_ok_iff, Prod.exists]
  exact ⟨s, c', hc, (), expectEnd_nil hr, rfl⟩

lemma value_list {items : List String} (h : c.rest = '[' :: listChars items ++ [']']) :
    c.value = .ok (.list items) := by
  have hs : c.skipBlanks.rest = '[' :: (listChars items ++ [']']) := by
    rw [skipBlanks, h]
    exact trimLeft_cons (c := '[') (by decide)
  have he : elements (c.skipBlanks.rest.drop 1) = .ok (items, []) := by
    rw [hs, List.drop_one]
    exact elements_listChars items (trimLeft_listChars items)
  have ha : c.skipBlanks.array = .ok (items, c.skipBlanks.moveTo []) := by rw [array, he]
  simp only [value, hs, Outcome.bind_ok_iff, Outcome.pure_ok_iff, Prod.exists]
  exact ⟨items, _, ha, (), expectEnd_nil rfl, rfl⟩

lemma takeWhile_eq {w : List Char} {p : Char → Bool} (h : c.rest = w ++ t)
    (hw : ∀ ch ∈ w, p ch = true) (hr : ∀ ch, t.head? = some ch → p ch = false) :
    c.takeWhile p = (w, c.moveTo t) := by
  rw [takeWhile, h, takeWhile_append hw hr, dropWhile_append hw hr]

lemma word_eq {w : List Char} (h : c.rest = w ++ t) (hw : ∀ ch ∈ w, isBlank ch = false)
    (hr : ∀ ch, t.head? = some ch → isBlank ch = true) : c.word = (w, c.moveTo t) :=
  takeWhile_eq h (fun ch hch => by simp [hw ch hch]) fun ch hch => by simp [hr ch hch]

end Cursor

end LayeredSchema.Ocafile

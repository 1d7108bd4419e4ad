import LayeredSchema.Proofs.Ocafile.Parser
import LayeredSchema.Proofs.Ocafile.Slicing.Value
import Mathlib

/-!
Statements and lines of blocks that are cut out at byte offsets: what is read from a line is the
same, with no cut inside a character. Main result: `slicedLine_shows`.
-/

namespace LayeredSchema.Ocafile

open Text

section Stems

variable {stem cs : List Char}

lemma afterStem_eq (h : stem.all isAscii = true) :
    afterStem stem cs = some (dropStemIgnoringCase? stem cs) := by
  rw [dropStemIgnoringCase?_eq_split h, afterStem]
  cases splitAtByte? stem.length cs with
  | none => rfl
  | some x =>
    dsimp only [Option.bind_some, Option.map_some]
    split <;> rfl

lemma typeOf_eq {n : ℕ} (cs : List Char) (hn : cs.length < n) :
    typeOf n cs = some (AttributeType.parseChars cs) := by
  have ha (cs : List Char) : afterStem ['a', 'r', 'r', 'a', 'y', '['] cs = _ := afterStem_eq rfl
  have hs (cs : List Char) : afterStem ['r', 'e', 'f', 's', ':'] cs = _ := afterStem_eq rfl
  have hr (cs : List Char) : afterStem ['r', 'e', 'f', 'n', ':'] cs = _ := afterStem_eq rfl
  obtain ⟨n, rfl⟩ := Nat.exists_eq_add_of_le' (Nat.one_le_of_lt hn)
  fun_induction AttributeType.parseChars cs generalizing n with
  | case1 cs h =>
    rw [typeOf, ha, hs, hr, h, AttributeType.parseElement]
    simp only [Option.bind_eq_bind, Option.bind_some]
    cases dropStemIgnoringCase? ['r', 'e', 'f', 's', ':'] (trim cs) with
    | some rest =>
      dsimp only
      cases Said.parse (String.ofList rest) <;> rfl
    | none =>
      rcases dropStemIgnoringCase? ['r', 'e', 'f', 'n', ':'] (trim cs) with _ | _ | _
      · cases Primitive.ofName? (trim cs) <;> rfl
      · rfl
      · rfl
  | case2 cs rest h h' =>
    rw [typeOf, ha, h]
    simp only [Option.bind_eq_bind, Option.bind_some, h']
    rfl
  | case3 cs rest h inner h' hlt ih =>
    have hi : inner.length < n := hlt.trans_le (Nat.le_of_lt_succ hn)
    obtain ⟨m, rfl⟩ := Nat.exists_eq_add_of_le' (Nat.one_le_of_lt hi)
    rw [typeOf, ha, h]
    simp only [Option.bind_eq_bind, Option.bind_some, h', ih m hi]
    rfl

end Stems

namespace Source

variable {s : Source} {pos : ℕ} {c : Cursor} {ch : Char} {cs : List Char}

lemma At.name (h : s.At pos c) : ∃ next, s.name pos = pure (c.name.1, next) ∧ s.At next c.name.2 :=
  h.takeWhile _

lemma At.word (h : s.At pos c) : ∃ next, s.word pos = pure (c.word.1, next) ∧ s.At next c.word.2 :=
  h.takeWhile _

lemma At.eat (h : s.At pos c) (hr : c.rest = ch :: cs) :
    s.eat pos ch = pure (true, pos + ch.utf8Size) := by
  rw [Source.eat, h.peek, pure_bind, hr, List.head?_cons, if_pos rfl]

lemma At.eat_other (h : s.At pos c) (hr : c.rest.head? ≠ some ch) :
    s.eat pos ch = pure (false, pos) := by
  rw [Source.eat, h.peek, pure_bind, if_neg hr]

variable {p : Progress}

lemma At.eatIf (h : s.At pos c) (condition : Bool) (ch : Char) :
    (∃ cs, c.rest = ch :: cs ∧ condition = true ∧
      s.eatIf condition pos ch = pure (true, pos + ch.utf8Size) ∧
      s.At (pos + ch.utf8Size) (c.moveTo cs)) ∨
    (¬(condition = true ∧ c.rest.head? = some ch) ∧
      s.eatIf condition pos ch = pure (false, pos)) := by
  by_cases hb : condition = true
  · by_cases hc : c.rest.head? = some ch
    · obtain ⟨cs, hr⟩ := List.head?_eq_some_iff.mp hc
      exact Or.inl ⟨cs, hr, hb, by rw [Source.eatIf, if_pos hb, h.eat hr], h.next hr⟩
    · exact Or.inr ⟨fun h => hc h.2, by rw [Source.eatIf, if_pos hb, h.eat_other hc]⟩
  · exact Or.inr ⟨fun h => hb h.1, if_neg hb⟩

lemma At.header (h : s.At 0 c) : Shows s.Within (· = ·) (s.header p) (readHeader p c) := by
  obtain ⟨next, hw, ha⟩ := h.name
  rw [Source.header, hw, pure_bind, readHeader]
  dsimp only
  rcases ha.eatIf (sameIgnoringCase c.name.1 "--name".toList) '=' with
    ⟨cs, hr, hk, he, hn⟩ | ⟨hk, he⟩
  · rw [he, pure_bind, hk, hr]
    dsimp only
    rw [if_neg (by decide)]
    split
    · exact h.errorAt _
    split
    · exact h.errorAt _
    refine (hn.scalar _).bind ?_
    rintro ⟨name, next⟩ ⟨name', d⟩ ⟨rfl, hd⟩
    exact hd.expectEnd.bind fun _ _ _ => .ok rfl
  · rw [he, pure_bind]
    dsimp only
    rw [if_pos (by decide)]
    split
    · rename_i hs hr
      exact absurd ⟨hs, by rw [hr]; rfl⟩ hk
    · exact h.errorAt _

lemma readAttribute_pair {d : Char} {ds : List Char} (hd : c.name.1 = d :: ds)
    (hr : c.name.2.rest = '=' :: cs) : readAttribute c =
      match AttributeType.parseChars (c.name.2.moveTo cs).word.1 with
      | .ok t => .ok ((String.ofList (d :: ds), t), (c.name.2.moveTo cs).word.2)
      | .error _ => (c.name.2.moveTo cs).fail
        (.unknownAttributeType (String.ofList (c.name.2.moveTo cs).word.1)) := by
  rw [readAttribute]
  dsimp only
  rw [hd, hr]
  rfl

lemma At.declaration (h : s.At pos c) :
    Shows s.Within s.Same (s.declaration pos) (readAttribute c) := by
  obtain ⟨next, hw, ha⟩ := h.name
  rw [Source.declaration, hw, pure_bind]
  dsimp only
  rcases ha.eatIf (!c.name.1.isEmpty) '=' with ⟨cs, hr, hk, he, hn⟩ | ⟨hk, he⟩
  · obtain ⟨d, ds, hd⟩ : ∃ d ds, c.name.1 = d :: ds := by
      apply List.exists_cons_of_ne_nil
      rintro h
      rw [h] at hk
      contradiction
    obtain ⟨next', hw', ha'⟩ := hn.word
    rw [he, pure_bind, readAttribute_pair hd hr]
    dsimp only
    rw [if_pos rfl, hw', pure_bind]
    dsimp only
    rw [typeOf_eq _ (Nat.lt_succ_self _), lift_bind, hd]
    cases AttributeType.parseChars (c.name.2.moveTo cs).word.1 with
    | ok t => exact .ok ⟨rfl, ha'⟩
    | error _ => exact hn.errorAt _
  · obtain ⟨next', hw', -⟩ := ha.word
    rw [he, pure_bind, readAttribute]
    dsimp only
    rw [if_neg (by decide), hw', pure_bind]
    split
    · rename_i hs hr
      exact absurd ⟨by rw [hs]; rfl, by rw [hr]; rfl⟩ hk
    · exact h.errorAt _

lemma At.key (h : s.At 0 c) : Shows s.Within s.Same s.key (readKey c) := by
  rw [Source.key, h.peek, pure_bind]
  by_cases hq : c.rest.head? = some '"'
  · obtain ⟨cs, hr⟩ := List.head?_eq_some_iff.mp hq
    rw [if_pos hq, readKey, hr]
    exact h.quoted hr
  · obtain ⟨next, hw, ha⟩ := h.name
    rw [if_neg hq, hw, pure_bind, readKey]
    dsimp only
    split
    · rename_i hr
      rw [hr] at hq
      contradiction
    · exact .ok ⟨rfl, ha⟩

lemma At.valueAfter (h : s.At pos c) :
    Shows s.Within (· = ·) (s.valueAfter pos) (readValue c) := by
  rw [Source.valueAfter]
  by_cases hq : c.rest.head? = some '='
  · obtain ⟨cs, hr⟩ := List.head?_eq_some_iff.mp hq
    rw [h.eat hr, pure_bind, readValue, hr]
    exact (h.next hr).value
  · rw [h.eat_other hq, pure_bind]
    dsimp only
    rw [if_neg (by decide), h.atEnd, pure_bind, readValue]
    split
    · split
      · rename_i hr
        rw [hr] at hq
        contradiction
      · exact .ok rfl
    · split
      · rename_i hr
        rw [hr] at hq
        contradiction
      · exact h.errorAt _

lemma atEnd_skipBlanks (c : Cursor) : c.skipBlanks.atEnd = c.skipBlanks.rest.isEmpty := by
  rw [Cursor.atEnd]
  cases hr : c.skipBlanks.rest with
  | nil => rfl
  | cons ch cs =>
    have hb : isBlank ch = false := head_trimLeft (congrArg List.head? hr)
    rw [isAllBlank, List.all_cons, hb]
    rfl

lemma At.eq_byteLength (h : s.At pos c) (hr : c.rest = []) : pos = byteLength s.text := by
  obtain ⟨read, ht, rfl, -⟩ := h
  rw [ht, hr, List.append_nil]

lemma At.attributes {n : ℕ} (h : s.At pos c) (declared : List (String × AttributeType))
    (hn : c.rest.length < n) :
    Shows s.Within (fun x as => x = (declared ++ as, byteLength s.text))
      (s.attributes n pos declared) (readAttributes c) := by
  induction n generalizing pos c declared with
  | zero => exact absurd hn (Nat.not_lt_zero _)
  | succ n ih =>
    obtain ⟨next, hs, ha⟩ := h.skipBlanks
    rw [Source.attributes, hs, pure_bind, ha.atEnd, pure_bind, readAttributes_eq, atEnd_skipBlanks]
    split
    · rename_i he
      rw [ha.eq_byteLength (List.isEmpty_iff.mp he)]
      exact .ok (by rw [List.append_nil])
    · refine ha.declaration.bind_of ?_
      rintro ⟨a, next⟩ ⟨a', d⟩ hd ⟨rfl, ha⟩
      have hlt := (length_of_readAttribute hd).trans_le (length_trimLeft_le c.rest)
      refine (ih ha (declared ++ [a]) (hlt.trans_le (Nat.le_of_lt_succ hn))).map ?_
      rintro x as rfl
      rw [List.append_assoc]
      rfl

lemma At.addition (h : s.At pos c) :
    Shows s.Within (· = ·) (s.addition p pos) (readAddition p c) := by
  obtain ⟨next, hw, ha⟩ := h.word
  obtain ⟨next', hs, hb⟩ := ha.skipBlanks
  rw [Source.addition, hw, pure_bind, readAddition]
  dsimp only
  rw [hs, pure_bind]
  split
  · refine (hb.attributes [] hb.lt_rounds).bind ?_
    rintro _ as rfl
    dsimp only
    rw [List.nil_append]
    split
    · exact hb.moveToEnd.errorAt _
    · exact .ok (by rw [← hb.line])
  split
  · refine (hb.scalar _).bind ?_
    rintro ⟨value, next⟩ ⟨value', d⟩ ⟨rfl, hd⟩
    exact hd.expectEnd.bind fun _ _ _ => .ok (by rw [← hd.line])
  split
  · refine (hb.scalar _).bind ?_
    rintro ⟨name, next⟩ ⟨name', d⟩ ⟨rfl, hd⟩
    exact hd.expectEnd.bind fun _ _ _ => .ok (by rw [← hd.line])
  split
  · exact hb.errorAt _
  · exact h.errorAt _

lemma At.statement (h : s.At 0 c) :
    Shows s.Within (· = ·) (s.statement p) (readStatement p c) := by
  obtain ⟨next, hw, ha⟩ := h.word
  obtain ⟨next', hs, hb⟩ := ha.skipBlanks
  rw [Source.statement, hw, pure_bind, readStatement]
  dsimp only
  split
  · rw [hs, pure_bind]
    exact hb.addition
  · exact h.errorAt _

lemma blockLine_shows {indent : ℕ} (hc : s.column = indent + 1) :
    Shows s.Within (· = ·) (s.blockLine p indent) (readBlockLine p indent s.start) := by
  rw [Source.blockLine, readBlockLine]
  cases p.overlay with
  | none =>
    rw [← hc]
    exact .error ⟨rfl, Nat.le_refl _, Nat.le_add_right _ _⟩
  | some o =>
    refine s.at_start.key.bind ?_
    rintro ⟨key, pos⟩ ⟨key', d⟩ ⟨rfl, hd⟩
    obtain ⟨next, hs, ha⟩ := hd.skipBlanks
    dsimp only
    rw [hs, pure_bind]
    refine ha.valueAfter.bind ?_
    rintro value _ rfl
    split
    · exact s.at_start.errorAt _
    · exact .ok rfl

end Source

def InLine (l : LogicalLine) (e : Error) : Prop :=
  e.line = l.number ∧ 1 ≤ e.column ∧ e.column ≤ 1 + byteLength l.text

section Line

variable {p : Progress} {l : LogicalLine}

lemma inLine_of_within {leading content : List Char} {n : ℕ} {e : Error}
    (h : l.text = leading ++ content) (hn : n ≤ byteLength leading)
    (he : Source.Within ⟨l.number, n + 1, content⟩ e) : InLine l e := by
  obtain ⟨hl, hc, hu⟩ := he
  have hb := length_le_byteLength content
  refine ⟨hl, ?_, ?_⟩
  · exact (Nat.le_add_left 1 n).trans hc
  · rw [h, byteLength_append]
    dsimp only at hu
    omega

lemma close_shows (p : Progress) :
    Shows (fun e => p.close = .error e) (· = ·) (ExceptT.mk (some p.close)) p.close := by
  cases h : p.close with
  | ok q => exact .ok rfl
  | error e => exact .error rfl

lemma slicedLine_shows (p : Progress) (l : LogicalLine) :
    Shows (fun e => InLine l e ∨ p.close = .error e) (· = ·) (slicedLine p l) (readLine p l) := by
  rw [readLine]
  dsimp only
  split
  · rename_i hc
    rw [slicedLine, hc]
    exact .ok rfl
  · rename_i hc
    rw [slicedLine, hc]
    exact .ok rfl
  rename_i hn hc
  have hread : ((trimLeft l.text).isEmpty || (trimLeft l.text).head? == some '#') = false := by
    cases hl : trimLeft l.text with
    | nil => exact absurd hl hn
    | cons ch cs =>
      have hh : ch ≠ '#' := fun h => hc cs (h ▸ hl)
      simpa using hh
  have ht : l.text = l.text.takeWhile isBlank ++ trimLeft l.text :=
    List.takeWhile_append_dropWhile.symm
  rw [slicedLine]
  dsimp only
  rw [hread, if_neg Bool.false_ne_true]
  generalize l.text.takeWhile isBlank = leading at *
  generalize trimLeft l.text = content at *
  have hs : splitAtByte? (byteLength l.text - byteLength content) l.text =
      some (leading, content) := by
    rw [ht, byteLength_append, Nat.add_sub_cancel_right, splitAtByte?_append]
  rw [hs, lift_bind]
  dsimp only
  split
  · rw [bytesBefore_eq]
    have hw := byteLength_takeWhile_le (· != '\t') leading
    refine .error (Or.inl ⟨rfl, Nat.le_add_left 1 _, ?_⟩)
    rw [ht, byteLength_append]
    change byteLength (leading.takeWhile (· != '\t')) + 1 ≤ _
    omega
  split
  · rename_i hi
    have hl : ¬leading.isEmpty = true := by
      rintro h
      rw [List.isEmpty_iff.mp h] at hi
      exact absurd hi (by decide)
    rw [if_neg hl]
    refine (Source.blockLine_shows rfl).mono ?_ fun _ _ h => h
    exact fun e he => Or.inl (inLine_of_within ht le_rfl he)
  · rename_i hi
    have hl : leading.isEmpty = true := by
      have hb := length_le_byteLength leading
      rw [List.isEmpty_iff, ← List.length_eq_zero_iff]
      omega
    have hin (e : Error) (he : Source.Within ⟨l.number, 1, content⟩ e) :
        InLine l e ∨ p.close = .error e :=
      Or.inl (inLine_of_within (n := 0) ht (Nat.zero_le _) he)
    rw [if_pos hl]
    refine ((close_shows p).mono (fun e he => Or.inr he) fun _ _ h => h).bind ?_
    rintro q _ rfl
    cases dropStem? ['-', '-'] content with
    | some _ =>
      have hh := (Source.at_start ⟨l.number, 1, content⟩).header (p := q)
      exact (hh.mono hin fun _ _ h => h).bind fun _ _ h => .ok (by rw [h])
    | none =>
      have hh := (Source.at_start ⟨l.number, 1, content⟩).statement (p := q)
      exact (hh.mono hin fun _ _ h => h).bind fun _ _ h => .ok (by rw [h])

end Line

end LayeredSchema.Ocafile

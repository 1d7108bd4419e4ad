import LayeredSchema.Proofs.Ocafile.Cursor
import LayeredSchema.Proofs.Ocafile.Slicing
import Mathlib

/-!
A place that is a number of bytes shows the same as a cursor: words, quoted strings and scalars.
-/

namespace LayeredSchema.Ocafile

open Text

/-- A sliced reading comes to the result of a reading, or to its error, which is as expected. -/
inductive Shows {α β : Type} (E : Error → Prop) (R : α → β → Prop) :
    Sliced α → Except Error β → Prop
  | ok {a : α} {b : β} (h : R a b) : Shows E R (pure a) (.ok b)
  | error {e : Error} (h : E e) : Shows E R (throw e) (.error e)

section Shows

variable {α β γ δ : Type} {E E' : Error → Prop} {R R' : α → β → Prop} {S : γ → δ → Prop}
  {x : Sliced α} {y : Except Error β} {f : α → Sliced γ} {g : β → Except Error δ}

lemma Shows.bind_of (h : Shows E R x y)
    (hf : ∀ a b, y = .ok b → R a b → Shows E S (f a) (g b)) : Shows E S (x >>= f) (y >>= g) := by
  cases h with
  | ok h => exact hf _ _ rfl h
  | error h => exact .error h

lemma Shows.bind (h : Shows E R x y) (hf : ∀ a b, R a b → Shows E S (f a) (g b)) :
    Shows E S (x >>= f) (y >>= g) :=
  h.bind_of fun a b _ => hf a b

lemma Shows.mono (h : Shows E R x y) (hE : ∀ e, E e → E' e) (hR : ∀ a b, R a b → R' a b) :
    Shows E' R' x y := by
  cases h with
  | ok h => exact .ok (hR _ _ h)
  | error h => exact .error (hE _ h)

lemma Shows.map {k : β → δ} {T : α → δ → Prop} (h : Shows E R x y)
    (hk : ∀ a b, R a b → T a (k b)) : Shows E T x (y.map k) := by
  cases h with
  | ok h => exact .ok (hk _ _ h)
  | error h => exact .error h

lemma lift_bind (a : α) (f : α → Sliced γ) : (liftM (some a) : Sliced α) >>= f = f a := rfl

lemma Shows.eq {y : Except Error α} {x : Sliced α} (h : Shows E (· = ·) x y) :
    x = (some y : Option (Except Error α)) ∧ ∀ e, y = .error e → E e := by
  cases h with
  | ok h => exact ⟨h ▸ rfl, nofun⟩
  | error h => exact ⟨rfl, fun e he => Except.error.inj he ▸ h⟩

end Shows

namespace Source

variable {s : Source} {pos : ℕ} {c d : Cursor} {ch : Char} {cs : List Char}

/-- A byte offset is a place between two characters, and the cursor is there. -/
def At (s : Source) (pos : ℕ) (c : Cursor) : Prop :=
  ∃ read, s.text = read ++ c.rest ∧ pos = byteLength read ∧ c.line = s.line ∧
    c.column = s.column + read.length

def Within (s : Source) (e : Error) : Prop :=
  e.line = s.line ∧ s.column ≤ e.column ∧ e.column ≤ s.column + s.text.length

def Same {α : Type} (s : Source) (x : α × ℕ) (y : α × Cursor) : Prop := x.1 = y.1 ∧ s.At x.2 y.2

def start (s : Source) : Cursor := ⟨s.line, s.column, s.text⟩

lemma at_start (s : Source) : s.At 0 s.start := ⟨[], rfl, rfl, rfl, rfl⟩

lemma At.moveTo {taken rest : List Char} (h : s.At pos c) (hr : c.rest = taken ++ rest) :
    s.At (pos + byteLength taken) (c.moveTo rest) := by
  obtain ⟨read, ht, rfl, hl, hc⟩ := h
  refine ⟨read ++ taken, ?_, (byteLength_append read taken).symm, hl, ?_⟩
  · rw [ht, hr, List.append_assoc]
    rfl
  · simp only [Cursor.moveTo, hc, hr, List.length_append]
    omega

lemma At.line (h : s.At pos c) : c.line = s.line := h.choose_spec.2.2.1

lemma At.lt_rounds (h : s.At pos c) : c.rest.length < s.rounds := by
  obtain ⟨read, ht, -⟩ := h
  rw [rounds, ht, List.length_append]
  omega

lemma At.split (h : s.At pos c) : ∃ read, splitAtByte? pos s.text = some (read, c.rest) ∧
    c.column = s.column + read.length := by
  obtain ⟨read, ht, rfl, -, hc⟩ := h
  exact ⟨read, ht ▸ splitAtByte?_append read c.rest, hc⟩

lemma At.errorAt {α β : Type} {R : α → β → Prop} (h : s.At pos c) (cause : Cause) :
    Shows s.Within R (s.errorAt pos cause) (c.fail cause) := by
  obtain ⟨read, ht, rfl, hl, hc⟩ := h
  have hs : splitAtByte? (byteLength read) s.text = some (read, c.rest) :=
    ht ▸ splitAtByte?_append read c.rest
  rw [Source.errorAt, hs, Cursor.fail, hl, hc]
  refine .error ⟨rfl, Nat.le_add_right _ _, Nat.add_le_add_left ?_ _⟩
  rw [ht, List.length_append]
  exact Nat.le_add_right _ _

lemma At.rest (h : s.At pos c) : s.rest pos = pure c.rest := by
  obtain ⟨read, hs, -⟩ := h.split
  rw [Source.rest, hs]
  rfl

lemma At.peek (h : s.At pos c) : s.peek pos = pure c.rest.head? := by
  rw [Source.peek, h.rest, pure_bind]

lemma At.next (h : s.At pos c) (hr : c.rest = ch :: cs) :
    s.At (pos + ch.utf8Size) (c.moveTo cs) := by
  have ht : c.rest = [ch] ++ cs := hr
  exact h.moveTo ht

lemma At.bump (h : s.At pos c) (hr : c.rest = ch :: cs) :
    s.bump pos = pure (some ch, pos + ch.utf8Size) ∧ s.At (pos + ch.utf8Size) (c.moveTo cs) := by
  refine ⟨?_, h.next hr⟩
  rw [Source.bump, h.peek, pure_bind, hr]
  rfl

lemma At.bump_nil (h : s.At pos c) (hr : c.rest = []) : s.bump pos = pure (none, pos) := by
  rw [Source.bump, h.peek, pure_bind, hr]
  rfl

lemma At.atEnd (h : s.At pos c) : s.atEnd pos = pure c.atEnd := by
  rw [Source.atEnd, h.rest, pure_bind, isEmpty_trim, Cursor.atEnd]

lemma At.takeWhile (h : s.At pos c) (p : Char → Bool) :
    ∃ next, s.takeWhile pos p = pure ((c.takeWhile p).1, next) ∧ s.At next (c.takeWhile p).2 := by
  have hr : c.rest = c.rest.takeWhile p ++ c.rest.dropWhile p :=
    List.takeWhile_append_dropWhile.symm
  have hb : bytesBefore (fun ch => !p ch) c.rest = byteLength (c.rest.takeWhile p) := by
    simp [bytesBefore_eq]
  have hs : splitAtByte? (byteLength (c.rest.takeWhile p)) c.rest =
      some (c.rest.takeWhile p, c.rest.dropWhile p) := splitAtByte?_eq_some_iff.mpr ⟨hr, rfl⟩
  refine ⟨_, ?_, h.moveTo hr⟩
  rw [Source.takeWhile, h.rest, pure_bind]
  simp only [hb, hs]
  rfl

lemma At.skipBlanks (h : s.At pos c) : ∃ next, s.skipBlanks pos = pure next ∧
    s.At next c.skipBlanks := by
  obtain ⟨next, ht, ha⟩ := h.takeWhile isBlank
  refine ⟨next, ?_, ha⟩
  rw [Source.skipBlanks, ht, pure_bind]

lemma At.expectEnd (h : s.At pos c) : Shows s.Within (· = ·) (s.expectEnd pos) c.expectEnd := by
  obtain ⟨next, hs, ha⟩ := h.skipBlanks
  have he : c.skipBlanks.atEnd = c.atEnd := by
    rw [Cursor.atEnd, Cursor.atEnd, ← isEmpty_trim, ← isEmpty_trim, trim, trim]
    exact congrArg (fun cs => (trimRight cs).isEmpty) (trimLeft_trimLeft c.rest)
  rw [Source.expectEnd, hs, pure_bind, ha.atEnd, pure_bind, Cursor.expectEnd, he]
  split
  · exact .ok rfl
  · exact ha.errorAt _

def ended (start c : Cursor) (out : List Char) :
    Option (List Char × List Char) → Except Error (String × Cursor)
  | some (text, rest) => .ok (String.ofList (out ++ text), c.moveTo rest)
  | none => start.fail .unterminatedString

lemma ended_map {start : Cursor} {out piece : List Char} (h : cs.length ≤ c.rest.length) :
    ended start (c.moveTo cs) (out ++ piece) (Cursor.unquote? cs) =
      ended start c out ((Cursor.unquote? cs).map fun (text, rest) => (piece ++ text, rest)) := by
  cases hu : Cursor.unquote? cs with
  | none => rfl
  | some x =>
    have hl := Cursor.length_of_unquote? hu
    simp only [ended, Option.map_some, List.append_assoc, Cursor.moveTo_moveTo h hl.le]

lemma At.unquote {start n : ℕ} {c₀ : Cursor} (h₀ : s.At start c₀) (h : s.At pos c)
    (out : List Char) (hl : c.rest.length ≤ n) :
    Shows s.Within s.Same (s.unquote start (n + 1) pos out)
      (ended c₀ c out (Cursor.unquote? c.rest)) := by
  generalize hr : c.rest = cs
  rw [hr] at hl
  fun_induction Cursor.unquote? cs generalizing pos c out n with
  | case1 =>
    rw [Source.unquote, h.bump_nil hr, pure_bind]
    exact h₀.errorAt _
  | case2 =>
    obtain ⟨hb, hn⟩ := h.bump hr
    rw [Source.unquote, hb, pure_bind]
    dsimp only
    rw [if_neg (by decide), if_pos rfl, hn.bump_nil rfl, pure_bind]
    exact h₀.errorAt _
  | case3 cs =>
    obtain ⟨hb, hn⟩ := h.bump hr
    rw [Source.unquote, hb, pure_bind]
    dsimp only
    rw [if_pos rfl, ended, List.append_nil]
    exact .ok ⟨rfl, hn⟩
  | case4 ch cs ih =>
    obtain ⟨hb, hn⟩ := h.bump hr
    obtain ⟨hb', hn'⟩ := hn.bump rfl
    rw [Source.unquote, hb, pure_bind]
    dsimp only
    rw [if_neg (by decide), if_pos rfl, hb', pure_bind]
    dsimp only
    have hm : (c.moveTo (ch :: cs)).moveTo cs = c.moveTo cs :=
      Cursor.moveTo_moveTo (by simp [hr]) (by simp)
    obtain ⟨m, rfl⟩ := Nat.exists_eq_add_of_le' (Nat.one_le_of_lt hl)
    rw [← ended_map (by simp [hr]; omega), ← hm]
    apply ih hn' (out ++ Cursor.unescape ch) ?_ rfl
    exact Nat.le_of_succ_le (Nat.le_of_succ_le_succ hl)
  | case5 ch cs hq hb hne ih =>
    obtain ⟨hs, hn⟩ := h.bump hr
    have hbs : ch ≠ '\\' := by
      intro hbs
      cases cs with
      | nil => exact hq hbs rfl
      | cons d ds => exact hne d ds hbs rfl
    have he : ended c₀ (c.moveTo cs) (out ++ [ch]) (Cursor.unquote? cs) =
        ended c₀ c out ((Cursor.unquote? cs).map fun (text, rest) => (ch :: text, rest)) :=
      ended_map (by simp [hr])
    rw [Source.unquote, hs, pure_bind]
    dsimp only
    obtain ⟨m, rfl⟩ := Nat.exists_eq_add_of_le' (Nat.one_le_of_lt hl)
    rw [if_neg hb, if_neg hbs, ← he]
    exact ih hn (out ++ [ch]) (Nat.le_of_succ_le_succ hl) rfl

lemma At.quoted (h : s.At pos c) (hr : c.rest = '"' :: cs) :
    Shows s.Within s.Same (s.quoted pos) c.quoted := by
  obtain ⟨hb, hn⟩ := h.bump hr
  have hq : c.quoted = ended c (c.moveTo cs) [] (Cursor.unquote? cs) := by
    rw [Cursor.quoted, hr, List.drop_one, List.tail_cons]
    cases hu : Cursor.unquote? cs with
    | none => rfl
    | some x =>
      have hl := Cursor.length_of_unquote? hu
      simp only [ended, List.nil_append, Cursor.moveTo_moveTo (c := c) (by simp [hr]) hl.le]
  rw [Source.quoted, hb, pure_bind, hq]
  exact h.unquote hn [] (Nat.le_of_lt_succ hn.lt_rounds)

lemma At.moveToEnd (h : s.At pos c) : s.At (byteLength s.text) (c.moveTo []) := by
  obtain ⟨read, ht, rfl, -⟩ := id h
  rw [ht, byteLength_append]
  exact h.moveTo (List.append_nil _).symm

lemma scalar_unquoted (hq : c.skipBlanks.rest.head? ≠ some '"') (what : String) :
    c.scalar what = if (trim c.skipBlanks.rest).isEmpty then
      (c.skipBlanks.moveTo []).fail (.missingValue what)
    else .ok (String.ofList (trim c.skipBlanks.rest), c.skipBlanks.moveTo []) := by
  rw [Cursor.scalar]
  split
  · rename_i hr
    rw [hr] at hq
    contradiction
  · rfl

lemma At.scalar (h : s.At pos c) (what : String) :
    Shows s.Within s.Same (s.scalar pos what) (c.scalar what) := by
  obtain ⟨next, hs, ha⟩ := h.skipBlanks
  rw [Source.scalar, hs, pure_bind, ha.peek, pure_bind]
  by_cases hq : c.skipBlanks.rest.head? = some '"'
  · obtain ⟨cs, hr⟩ := List.head?_eq_some_iff.mp hq
    rw [if_pos hq, Cursor.scalar, hr]
    exact ha.quoted hr
  · rw [if_neg hq, ha.rest, pure_bind, scalar_unquoted hq]
    dsimp only
    split
    · exact ha.moveToEnd.errorAt _
    · exact .ok ⟨rfl, ha.moveToEnd⟩

end Source

end LayeredSchema.Ocafile

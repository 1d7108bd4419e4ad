import LayeredSchema.Proofs.Ocafile.Parser
import Mathlib.Tactic.Common

/-!
Readings that agree: what is read from a line, and the cause for which it cannot be read, do not
depend on the line's number or on the column that the reading starts in.
-/

namespace LayeredSchema.Ocafile

open Text

variable {α β γ δ : Type}

inductive Agree (R : α → β → Prop) : Except Error α → Except Error β → Prop
  | ok {a : α} {b : β} (h : R a b) : Agree R (.ok a) (.ok b)
  | error {e f : Error} (h : e.cause = f.cause) : Agree R (.error e) (.error f)

namespace Agree

variable {R : α → β → Prop} {S : γ → δ → Prop} {x : Except Error α} {y : Except Error β}

lemma bind {f : α → Except Error γ} {g : β → Except Error δ} (h : Agree R x y)
    (hs : ∀ a b, R a b → Agree S (f a) (g b)) : Agree S (x >>= f) (y >>= g) := by
  cases h with
  | ok h => exact hs _ _ h
  | error h => exact .error h

lemma map {f : α → γ} {g : β → δ} (h : Agree R x y) (hs : ∀ a b, R a b → S (f a) (g b)) :
    Agree S (x.map f) (y.map g) := by
  cases h with
  | ok h => exact .ok (hs _ _ h)
  | error h => exact .error h

lemma ite {P Q : Prop} [Decidable P] [Decidable Q] (hpq : P ↔ Q) {x' : Except Error α}
    {y' : Except Error β} (h : Agree R x y) (h' : Agree R x' y') :
    Agree R (if P then x else x') (if Q then y else y') := by
  by_cases hp : P
  · rwa [if_pos hp, if_pos (hpq.mp hp)]
  · rwa [if_neg hp, if_neg (mt hpq.mpr hp)]

end Agree

namespace Cursor

def SameReading (x y : α × Cursor) : Prop := x.1 = y.1 ∧ x.2.rest = y.2.rest

section Readers

variable {c d : Cursor} (h : c.rest = d.rest)
include h

lemma takeWhile_same (p : Char → Bool) : SameReading (c.takeWhile p) (d.takeWhile p) := by
  rw [takeWhile, takeWhile, h]
  exact ⟨rfl, rfl⟩

lemma skipBlanks_same : c.skipBlanks.rest = d.skipBlanks.rest := congrArg trimLeft h

lemma expectEnd_agree : Agree Eq c.expectEnd d.expectEnd := by
  rw [expectEnd, expectEnd, atEnd, atEnd, h]
  split
  · exact .ok rfl
  · exact .error rfl

lemma quoted_agree : Agree SameReading c.quoted d.quoted := by
  rw [quoted, quoted, h]
  cases unquote? (d.rest.drop 1) with
  | none => exact .error rfl
  | some r => exact .ok ⟨rfl, rfl⟩

lemma scalar_agree (what : String) : Agree SameReading (c.scalar what) (d.scalar what) := by
  have hs := skipBlanks_same h
  have hq := quoted_agree hs
  simp only [scalar, hs]
  split
  · exact hq
  · split
    · exact .error rfl
    · exact .ok ⟨rfl, rfl⟩

lemma last_agree (what : String) {R : γ → δ → Prop} {f : String × Cursor → Except Error γ}
    {g : String × Cursor → Except Error δ} (hfg : ∀ s c d, Agree R (f (s, c)) (g (s, d))) :
    Agree R (c.scalar what >>= fun r => r.2.expectEnd >>= fun _ => f r)
      (d.scalar what >>= fun r => r.2.expectEnd >>= fun _ => g r) := by
  refine (scalar_agree h what).bind fun r s hr => (expectEnd_agree hr.2).bind fun _ _ _ => ?_
  obtain ⟨text, c⟩ := r
  obtain ⟨text', d⟩ := s
  obtain rfl : text = text' := hr.1
  exact hfg text c d

lemma array_agree : Agree SameReading c.array d.array := by
  rw [array, array, h]
  cases elements (d.rest.drop 1) with
  | error fault =>
    cases fault with
    | unterminated => exact .error rfl
    | within cause rest => exact .error rfl
  | ok r => exact .ok ⟨rfl, rfl⟩

lemma value_agree : Agree Eq c.value d.value := by
  have hs := skipBlanks_same h
  have hq := quoted_agree hs
  have ha := array_agree hs
  simp only [value, hs]
  split
  · exact hq.bind fun _ _ hr => (expectEnd_agree hr.2).bind fun _ _ _ => .ok (congrArg _ hr.1)
  · exact ha.bind fun _ _ hr => (expectEnd_agree hr.2).bind fun _ _ _ => .ok (congrArg _ hr.1)
  · exact .ok rfl

end Readers

end Cursor

section Statements

variable {c d : Cursor} (h : c.rest = d.rest)
include h

lemma readKey_agree : Agree Cursor.SameReading (readKey c) (readKey d) := by
  have hq := Cursor.quoted_agree h
  obtain ⟨hn, hr⟩ := Cursor.takeWhile_same h fun ch => ch != '=' && !isBlank ch
  simp only [readKey, h]
  split
  · exact hq
  · exact .ok ⟨congrArg String.ofList hn, hr⟩

lemma readValue_agree : Agree Eq (readValue c) (readValue d) := by
  have ha : c.atEnd = d.atEnd := congrArg isAllBlank h
  simp only [readValue, ha, h]
  split
  · exact Cursor.value_agree rfl
  · split
    · exact .ok rfl
    · exact .error rfl

lemma readAttribute_agree : Agree Cursor.SameReading (readAttribute c) (readAttribute d) := by
  obtain ⟨n, i, cs⟩ := c
  obtain ⟨m, j, ds⟩ := d
  obtain rfl : cs = ds := h
  simp only [readAttribute, Cursor.name, Cursor.word, Cursor.takeWhile, Cursor.moveTo]
  split
  · split
    · exact .ok ⟨rfl, rfl⟩
    · exact .error rfl
  · exact .error rfl

end Statements

lemma readAttributes_agree {c d : Cursor} (h : c.rest = d.rest) :
    Agree Eq (readAttributes c) (readAttributes d) := by
  have hs := Cursor.skipBlanks_same h
  have ha := readAttribute_agree hs
  have hd := readAttributes_eq d
  rw [← hs] at hd
  fun_induction readAttributes c generalizing d with
  | case1 =>
    rename_i hb
    rw [hd, if_pos hb]
    exact .ok rfl
  | case2 =>
    rename_i hb _ he
    rw [he] at ha
    rw [hd, if_neg hb]
    generalize readAttribute d.skipBlanks = y at ha
    cases ha with
    | error he => exact .error he
  | case3 =>
    rename_i hb _ _ hr _ ih
    rw [hr] at ha
    rw [hd, if_neg hb]
    generalize readAttribute d.skipBlanks = y at ha
    cases ha with
    | @ok _ b ha =>
      obtain ⟨rfl, hc⟩ := ha
      have hn := Cursor.skipBlanks_same hc
      have hi := ih hc hn (readAttribute_agree hn) (hn ▸ readAttributes_eq b.2)
      exact hi.map fun _ _ has => congrArg _ has

end LayeredSchema.Ocafile

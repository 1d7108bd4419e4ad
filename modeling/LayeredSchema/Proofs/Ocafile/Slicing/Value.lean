import LayeredSchema.Proofs.Ocafile.Slicing.Cursor
import Mathlib

/-!
Arrays and values that are cut out at byte offsets.
-/

namespace LayeredSchema.Ocafile.Source

open Text

variable {s : Source} {pos : ℕ} {c : Cursor} {ch : Char} {cs : List Char}

def settle {α β : Type} (start c : Cursor) (g : α → β) :
    Except Cursor.ArrayFault (α × List Char) → Except Error (β × Cursor)
  | .ok (a, rest) => .ok (g a, c.moveTo rest)
  | .error .unterminated => start.fail .unterminatedArray
  | .error (.within cause rest) => (c.moveTo rest).fail cause

def Leaves {α : Type} (n : ℕ) : Except Cursor.ArrayFault (α × List Char) → Prop
  | .ok (_, rest) => rest.length ≤ n
  | .error .unterminated => True
  | .error (.within _ rest) => rest.length ≤ n

lemma settle_moveTo {α β : Type} {start : Cursor} {g : α → β}
    {x : Except Cursor.ArrayFault (α × List Char)} (h : cs.length ≤ c.rest.length)
    (hx : Leaves cs.length x) : settle start (c.moveTo cs) g x = settle start c g x := by
  rcases x with (_ | ⟨cause, rest⟩) | ⟨a, rest⟩
  · rfl
  · exact congrArg (fun d : Cursor => d.fail cause) (Cursor.moveTo_moveTo h hx)
  · exact congrArg (fun d => Except.ok (g a, d)) (Cursor.moveTo_moveTo h hx)

lemma At.afterElement {start : ℕ} {c₀ : Cursor} (h₀ : s.At start c₀) (h : s.At pos c)
    (item : String) : Shows s.Within s.Same (s.afterElement start pos item)
      (settle c₀ c id ((Cursor.afterElement c.rest).map fun rest => (item, rest))) := by
  obtain ⟨next, hs, ha⟩ := h.skipBlanks
  have hl := length_trimLeft_le c.rest
  have hc : c.skipBlanks = c.moveTo (trimLeft c.rest) := rfl
  rw [Source.afterElement, hs, pure_bind, ha.peek, pure_bind]
  cases hr : trimLeft c.rest with
  | nil =>
    rw [hc, hr, Cursor.afterElement, hr]
    exact h₀.errorAt _
  | cons ch cs =>
    rw [hr] at hc hl
    obtain ⟨hb, hn⟩ := ha.bump hr
    rw [hc, Cursor.moveTo_moveTo hl (Nat.le_succ _)] at hn
    have hx : c.skipBlanks.rest.head? = some ch := by rw [hc]; rfl
    rw [hx]
    dsimp only
    rw [Cursor.afterElement, hr]
    split
    · rename_i hch
      subst hch
      rw [hb, pure_bind]
      exact .ok ⟨rfl, hn⟩
    · split
      · rename_i hch
        subst hch
        exact .ok ⟨rfl, hc ▸ ha⟩
      · split
        · contradiction
        · simp_all
        · simp_all
        · exact (hc ▸ ha).errorAt _

lemma leaves_afterElement {α : Type} (a : α) (cs : List Char) :
    Leaves cs.length ((Cursor.afterElement cs).map fun rest => (a, rest)) := by
  have hl := length_trimLeft_le cs
  rw [Cursor.afterElement]
  split
  · trivial
  · rename_i hr
    rw [hr] at hl
    exact (Nat.le_succ _).trans hl
  · rename_i hr
    rw [hr] at hl
    exact hl
  · exact hl

lemma Leaves.mono {α : Type} {m n : ℕ} {x : Except Cursor.ArrayFault (α × List Char)}
    (h : Leaves m x) (hmn : m ≤ n) : Leaves n x := by
  rcases x with (_ | ⟨cause, rest⟩) | ⟨a, rest⟩
  · trivial
  · exact Nat.le_trans h hmn
  · exact Nat.le_trans h hmn

lemma Leaves.error {α β : Type} {n : ℕ} {fault : Cursor.ArrayFault}
    (h : Leaves n (.error fault : Except _ (α × List Char))) :
    Leaves n (.error fault : Except _ (β × List Char)) := by
  cases fault with
  | unterminated => trivial
  | within => exact h

lemma leaves_element (cs : List Char) : Leaves cs.length (Cursor.element cs) := by
  rw [Cursor.element.eq_def]
  split
  · split
    · rename_i hu
      exact (leaves_afterElement _ _).mono ((Cursor.length_of_unquote? hu).le.trans (Nat.le_succ _))
    · exact Nat.le_refl _
  · dsimp only
    split
    · exact Nat.le_refl _
    · exact (leaves_afterElement _ _).mono (List.dropWhile_suffix _).length_le

lemma leaves_elements (cs : List Char) : Leaves cs.length (Cursor.elements cs) := by
  fun_induction Cursor.elements cs with
  | case1 => trivial
  | case2 cs tail hr =>
    have hl := length_trimLeft_le cs
    rw [hr] at hl
    exact (Nat.le_succ _).trans hl
  | case3 cs ch tail hr _ fault he =>
    have hl := length_trimLeft_le cs
    have hf := leaves_element (ch :: tail)
    rw [he, ← hr] at hf
    exact (hf.mono hl).error
  | case4 cs ch tail hr _ item rest he hlt ih =>
    have hm := ih.mono hlt.le
    cases hx : Cursor.elements rest with
    | error fault =>
      rw [hx] at hm
      exact hm
    | ok x =>
      rw [hx] at hm
      exact hm

lemma element_of_settle {start d : Cursor} {x : Except Cursor.ArrayFault (String × List Char)}
    {item : String} (h : settle start c id x = .ok (item, d)) : x = .ok (item, d.rest) := by
  rcases x with (_ | _) | ⟨a, rest⟩
  · contradiction
  · contradiction
  · obtain ⟨rfl, rfl⟩ := Prod.mk.inj (Except.ok.inj h)
    rfl

lemma settle_quoted (start : Cursor) (hr : c.rest = '"' :: cs) :
    settle start c id (Cursor.element c.rest) = c.quoted >>= fun x =>
      settle start x.2 id ((Cursor.afterElement x.2.rest).map fun rest => (x.1, rest)) := by
  rw [Cursor.quoted, hr, Cursor.element, List.drop_one, List.tail_cons]
  cases hu : Cursor.unquote? cs with
  | none =>
    rw [← hr]
    exact congrArg (fun d : Cursor => d.fail .unterminatedString) Cursor.moveTo_self
  | some x =>
    have hl := Cursor.length_of_unquote? hu
    have hc : x.2.length ≤ c.rest.length := by
      rw [hr]
      exact hl.le.trans (Nat.le_succ _)
    exact (settle_moveTo hc (leaves_afterElement _ _)).symm

lemma element_unquoted (hq : cs.head? ≠ some '"') : Cursor.element cs =
    if (trim (cs.takeWhile Cursor.isElementChar)).isEmpty then
      .error (.within (.missingValue "array element") cs)
    else (Cursor.afterElement (cs.dropWhile Cursor.isElementChar)).map fun rest =>
      (String.ofList (trim (cs.takeWhile Cursor.isElementChar)), rest) := by
  rw [Cursor.element.eq_def]
  split
  · contradiction
  · rfl

lemma dropWhile_of_blank {p : Char → Bool} (hb : ∀ ch, cs.head? = some ch → isBlank ch = false)
    (h : (trim (cs.takeWhile p)).isEmpty = true) : cs.dropWhile p = cs := by
  cases cs with
  | nil => rfl
  | cons ch cs =>
    refine List.dropWhile_cons_of_neg fun hp => ?_
    rw [isEmpty_trim, List.takeWhile_cons_of_pos hp] at h
    have hc := List.all_eq_true.mp h ch List.mem_cons_self
    rw [hb ch rfl] at hc
    contradiction

lemma At.element {start : ℕ} {c₀ : Cursor} (h₀ : s.At start c₀) (h : s.At pos c)
    (hr : c.rest = ch :: cs) (hb : isBlank ch = false) :
    Shows s.Within s.Same (s.element start pos ch) (settle c₀ c id (Cursor.element c.rest)) := by
  rw [Source.element]
  by_cases hq : ch = '"'
  · subst hq
    rw [if_pos rfl, settle_quoted c₀ hr]
    refine (h.quoted hr).bind ?_
    rintro ⟨item, next⟩ ⟨item', d⟩ ⟨rfl, hd⟩
    exact h₀.afterElement hd item
  · obtain ⟨next, ht, ha⟩ := h.takeWhile Cursor.isElementChar
    have hh : c.rest.head? ≠ some '"' := by
      rw [hr]
      exact fun h => hq (Option.some.inj h)
    rw [if_neg hq, ht, pure_bind, element_unquoted hh]
    dsimp only [Cursor.takeWhile]
    split
    · rename_i hi
      have hd := dropWhile_of_blank (fun d hd => by rw [hr] at hd; exact Option.some.inj hd ▸ hb) hi
      have ha : s.At next c := by
        rw [Cursor.takeWhile, hd, Cursor.moveTo_self] at ha
        exact ha
      rw [settle, Cursor.moveTo_self]
      exact ha.errorAt _
    · have hl := (List.dropWhile_suffix Cursor.isElementChar (l := c.rest)).length_le
      rw [← settle_moveTo hl (leaves_afterElement _ _)]
      exact h₀.afterElement ha _

lemma settle_elements (start : Cursor) (items : List String) (hl : cs.length ≤ c.rest.length) :
    settle start c (items ++ ·) (Cursor.element cs >>= fun x =>
        (Cursor.elements x.2).map fun y => (x.1 :: y.1, y.2)) =
      settle start (c.moveTo cs) id (Cursor.element cs) >>= fun x =>
        settle start x.2 (items ++ [x.1] ++ ·) (Cursor.elements x.2.rest) := by
  have he := leaves_element cs
  cases hx : Cursor.element cs with
  | error fault =>
    rw [hx] at he
    cases fault with
    | unterminated => rfl
    | within cause rest =>
      exact congrArg (fun d : Cursor => d.fail cause) (Cursor.moveTo_moveTo hl he).symm
  | ok x =>
    obtain ⟨item, rest⟩ := x
    rw [hx] at he
    have hm : settle start (c.moveTo rest) (items ++ [item] ++ ·) (Cursor.elements rest) =
        settle start c (items ++ [item] ++ ·) (Cursor.elements rest) :=
      settle_moveTo (he.trans hl) (leaves_elements rest)
    change _ = settle start ((c.moveTo cs).moveTo rest) _ (Cursor.elements rest)
    rw [Cursor.moveTo_moveTo hl he]
    refine Eq.trans ?_ hm.symm
    change settle start c (items ++ ·)
      ((Cursor.elements rest).map fun y => (item :: y.1, y.2)) = _
    rcases Cursor.elements rest with (_ | _) | ⟨more, rest⟩
    · rfl
    · rfl
    · exact congrArg (fun as => Except.ok (as, c.moveTo rest)) (List.append_cons items item more)

lemma At.elements {start n : ℕ} {c₀ : Cursor} (h₀ : s.At start c₀) (h : s.At pos c)
    (items : List String) (hn : c.rest.length < n) :
    Shows s.Within s.Same (s.elements start n pos items)
      (settle c₀ c (items ++ ·) (Cursor.elements c.rest)) := by
  induction n generalizing pos c items with
  | zero => exact absurd hn (Nat.not_lt_zero _)
  | succ n ih =>
    obtain ⟨next, hs, ha⟩ := h.skipBlanks
    have hc : c.skipBlanks = c.moveTo (trimLeft c.rest) := rfl
    have hl := length_trimLeft_le c.rest
    rw [Source.elements, hs, pure_bind, ha.peek, pure_bind]
    cases hr : trimLeft c.rest with
    | nil =>
      have he : Cursor.elements c.rest = .error .unterminated := by
        rw [Cursor.elements]
        split
        · rfl
        · simp_all
      rw [hc, hr, he]
      exact h₀.errorAt _
    | cons ch cs =>
      rw [hr] at hc hl
      have hx : c.skipBlanks.rest.head? = some ch := by rw [hc]; rfl
      rw [hx]
      dsimp only
      by_cases hb : ch = ']'
      · subst hb
        obtain ⟨hb, ha⟩ := ha.bump hr
        rw [hc, Cursor.moveTo_moveTo hl (Nat.le_succ _)] at ha
        rw [if_pos rfl, hb, pure_bind, Cursor.elements_bracket hr]
        exact .ok ⟨(List.append_nil items).symm, ha⟩
      · rw [if_neg hb, Cursor.elements_cons hr hb, settle_elements c₀ items hl]
        have he := h₀.element ha hr (head_trimLeft (by rw [hr]; rfl))
        rw [hc] at he
        refine he.bind_of ?_
        rintro ⟨item, next⟩ ⟨item', d⟩ hd ⟨rfl, ha⟩
        have hlt := Cursor.length_of_element (element_of_settle hd)
        apply ih ha
        exact (hlt.trans_le hl).trans_le (Nat.le_of_lt_succ hn)

lemma At.array (h : s.At pos c) (hr : c.rest = '[' :: cs) :
    Shows s.Within s.Same (s.array pos) c.array := by
  obtain ⟨hb, hn⟩ := h.bump hr
  have ha : c.array = settle c (c.moveTo cs) ([] ++ ·) (Cursor.elements cs) := by
    rw [settle_moveTo (by simp [hr]) (leaves_elements cs), Cursor.array, hr, List.drop_one,
      List.tail_cons]
    rcases Cursor.elements cs with (_ | _) | _ <;> rfl
  rw [Source.array, hb, pure_bind, ha]
  exact h.elements hn [] hn.lt_rounds

lemma value_plain (hq : c.skipBlanks.rest.head? ≠ some '"')
    (hb : c.skipBlanks.rest.head? ≠ some '[') :
    c.value = .ok (.text (String.ofList (trim c.skipBlanks.rest))) := by
  rw [Cursor.value]
  dsimp only
  split
  · rename_i hr
    rw [hr] at hq
    contradiction
  · rename_i hr
    rw [hr] at hb
    contradiction
  · rfl

lemma At.value (h : s.At pos c) : Shows s.Within (· = ·) (s.value pos) c.value := by
  obtain ⟨next, hs, ha⟩ := h.skipBlanks
  rw [Source.value, hs, pure_bind, ha.peek, pure_bind]
  by_cases hq : c.skipBlanks.rest.head? = some '"'
  · obtain ⟨cs, hr⟩ := List.head?_eq_some_iff.mp hq
    rw [if_pos hq, Cursor.value]
    dsimp only
    rw [hr]
    refine (ha.quoted hr).bind ?_
    rintro ⟨text, next⟩ ⟨text', d⟩ ⟨rfl, hd⟩
    exact hd.expectEnd.bind fun _ _ _ => .ok rfl
  rw [if_neg hq]
  by_cases hb : c.skipBlanks.rest.head? = some '['
  · obtain ⟨cs, hr⟩ := List.head?_eq_some_iff.mp hb
    rw [if_pos hb, Cursor.value]
    dsimp only
    rw [hr]
    refine (ha.array hr).bind ?_
    rintro ⟨items, next⟩ ⟨items', d⟩ ⟨rfl, hd⟩
    exact hd.expectEnd.bind fun _ _ _ => .ok rfl
  · rw [if_neg hb, ha.rest, pure_bind, value_plain hq hb]
    have he := ha.moveToEnd.expectEnd
    rw [Cursor.expectEnd_nil rfl] at he
    exact he.bind (g := fun _ => .ok _) fun _ _ _ => .ok rfl

end LayeredSchema.Ocafile.Source

import LayeredSchema.Proofs.Ocafile.Agreement
import LayeredSchema.Proofs.Ocafile.Block
import Mathlib.Order.Monotone.Basic

/-!
Indentation: only the order of the indentations of lines counts, not their widths.
-/

namespace LayeredSchema.Ocafile

open Text

variable {f : ℕ → ℕ} {l m : BlockLine} {ls ms : List BlockLine}

structure BlockLine.Scaled (f : ℕ → ℕ) (l m : BlockLine) : Prop where
  indent : m.indent = f l.indent
  key : l.key = m.key
  value : l.value = m.value

lemma forall₂_takeWhile {α β : Type} {R : α → β → Prop} {p : α → Bool} {q : β → Bool} {as : List α}
    {bs : List β} (h : List.Forall₂ R as bs) (hpq : ∀ a b, R a b → p a = q b) :
    List.Forall₂ R (as.takeWhile p) (bs.takeWhile q) := by
  induction h with
  | nil => exact .nil
  | @cons a b as bs hab _ ih =>
    rw [List.takeWhile_cons, List.takeWhile_cons, hpq a b hab]
    split
    · exact .cons hab ih
    · exact .nil

lemma forall₂_dropWhile {α β : Type} {R : α → β → Prop} {p : α → Bool} {q : β → Bool} {as : List α}
    {bs : List β} (h : List.Forall₂ R as bs) (hpq : ∀ a b, R a b → p a = q b) :
    List.Forall₂ R (as.dropWhile p) (bs.dropWhile q) := by
  induction h with
  | nil => exact .nil
  | @cons a b as bs hab hs ih =>
    rw [List.dropWhile_cons, List.dropWhile_cons, hpq a b hab]
    split
    · exact ih
    · exact .cons hab hs

def SameTrees (ps qs : List Property) : Prop :=
  Property.unnumberedList ps = Property.unnumberedList qs

section Blocks

variable (hf : StrictMono f)
include hf

lemma BlockLine.Scaled.deeper (h : l.Scaled f m) {l' m' : BlockLine} (h' : l'.Scaled f m') :
    decide (l.indent < l'.indent) = decide (m.indent < m'.indent) := by
  rw [h.indent, h'.indent, decide_eq_decide, hf.lt_iff_lt]

lemma leveled_agree (hl : l.Scaled f m) {v w : PropertyValue} (hv : v.unnumbered = w.unnumbered)
    (hs : List.Forall₂ (BlockLine.Scaled f) ls ms)
    (hp : Agree SameTrees (properties ls) (properties ms)) :
    Agree SameTrees (leveled l v ls) (leveled m w ms) := by
  have hr : Agree SameTrees (do return .mk l.number l.key v :: (← properties ls))
      (do return .mk m.number m.key w :: (← properties ms)) :=
    hp.bind fun ps qs hpq => .ok (by
      simp only [SameTrees, Property.unnumberedList, Property.unnumbered, hl.key, hv]
      exact congrArg _ hpq)
  cases hs with
  | nil => exact hr
  | @cons l' m' _ _ hl' _ =>
    have hi : l'.indent = l.indent ↔ m'.indent = m.indent := by
      rw [hl.indent, hl'.indent, hf.injective.eq_iff]
    by_cases he : l'.indent = l.indent
    · simpa [leveled, he, hi.mp he] using hr
    · simp only [leveled, ne_eq, he, mt hi.mpr he, not_false_eq_true, if_true]
      exact .error rfl

lemma properties_agree (h : List.Forall₂ (BlockLine.Scaled f) ls ms) :
    Agree SameTrees (properties ls) (properties ms) := by
  induction hn : ls.length using Nat.strongRecOn generalizing ls ms with
  | _ n ih =>
    subst hn
    cases h with
    | nil =>
      rw [properties]
      exact .ok rfl
    | @cons l m ls ms hl hs =>
      have hi : List.Forall₂ (BlockLine.Scaled f) (l.inner ls) (m.inner ms) :=
        forall₂_takeWhile hs fun _ _ => hl.deeper hf
      have ho : List.Forall₂ (BlockLine.Scaled f) (l.outer ls) (m.outer ms) :=
        forall₂_dropWhile hs fun _ _ => hl.deeper hf
      have hpi := ih _ (Nat.lt_succ_of_le (l.length_inner_le ls)) hi rfl
      have hpo := ih _ (Nat.lt_succ_of_le (l.length_outer_le ls)) ho rfl
      rw [properties_cons, properties_cons]
      generalize l.inner ls = is at hi hpi
      generalize m.inner ms = js at hi hpi
      cases hi with
      | nil => exact leveled_agree hf hl (congrArg _ hl.value) ho hpo
      | cons =>
        simp only [hl.value]
        split
        · exact hpi.bind fun ps qs hpq =>
            leveled_agree hf hl (congrArg PropertyValue.block hpq) ho hpo
        · exact .error rfl

end Blocks

structure OpenOverlay.Scaled (f : ℕ → ℕ) (o o' : OpenOverlay) : Prop where
  name : o.name = o'.name
  block : List.Forall₂ (BlockLine.Scaled f) o.block o'.block

structure Progress.Scaled (f : ℕ → ℕ) (p q : Progress) : Prop where
  name : p.name = q.name
  actions : p.commands.map (·.action.unnumbered) = q.commands.map (·.action.unnumbered)
  overlay : Option.Rel (OpenOverlay.Scaled f) p.overlay q.overlay
  started : p.started = q.started

section Statements

variable {p q : Progress} (hp : p.Scaled f q)
include hp

lemma Progress.Scaled.add (i j : ℕ) {a b : Action} (h : a.unnumbered = b.unnumbered) :
    (p.add i a).Scaled f (q.add j b) := by
  refine ⟨hp.name, ?_, hp.overlay, hp.started⟩
  simp only [Progress.add, List.map_append, hp.actions, List.map_cons, List.map_nil, h]

lemma close_agree (hf : StrictMono f) : Agree (Progress.Scaled f) p.close q.close := by
  rw [Progress.close, Progress.close]
  have ho := hp.overlay
  generalize p.overlay = o at ho
  generalize q.overlay = o' at ho
  cases ho with
  | none => exact .ok hp
  | @some o o' ho =>
    refine (properties_agree hf ho.block).bind fun ps qs hpq => .ok ?_
    have ha := hp.add o.line o'.line
      (show (Action.overlay o.name ps).unnumbered = (Action.overlay o'.name qs).unnumbered from
        congrArg₂ Action.overlay ho.name hpq)
    exact ⟨ha.name, ha.actions, .none, ha.started⟩

variable {c d : Cursor} (h : c.rest = d.rest)
include h

lemma readHeader_agree : Agree (Progress.Scaled f) (readHeader p c) (readHeader q d) := by
  obtain ⟨hw, hr⟩ := Cursor.takeWhile_same h fun ch => ch != '=' && !isBlank ch
  simp only [readHeader, Cursor.name, hw, hr, hp.name, hp.started]
  split
  · rename_i rest _ _
    have ht : ((c.takeWhile fun ch => ch != '=' && !isBlank ch).2.moveTo rest).rest =
      ((d.takeWhile fun ch => ch != '=' && !isBlank ch).2.moveTo rest).rest := rfl
    refine .ite Iff.rfl (.error rfl) <| .ite Iff.rfl (.error rfl) <|
      Cursor.last_agree ht _ fun s _ _ => .ok ?_
    exact ⟨rfl, hp.actions, hp.overlay, rfl⟩
  · exact .error rfl

lemma readAddition_agree : Agree (Progress.Scaled f) (readAddition p c) (readAddition q d) := by
  obtain ⟨hw, hr⟩ := Cursor.takeWhile_same h fun ch => !isBlank ch
  have hs := Cursor.skipBlanks_same hr
  simp only [readAddition, Cursor.word, hw]
  refine .ite Iff.rfl ((readAttributes_agree hs).bind fun as bs has => ?_) <|
    .ite Iff.rfl (Cursor.last_agree hs _ fun s c d => .ok (hp.add _ _ rfl)) <|
    .ite Iff.rfl (Cursor.last_agree hs _ fun s c d => .ok ?_) <|
    .ite Iff.rfl (.error rfl) (.error rfl)
  · obtain rfl := has
    exact .ite Iff.rfl (.error rfl) (.ok (hp.add _ _ rfl))
  · exact ⟨hp.name, hp.actions, .some ⟨rfl, .nil⟩, hp.started⟩

lemma readStatement_agree : Agree (Progress.Scaled f) (readStatement p c) (readStatement q d) := by
  obtain ⟨hw, hr⟩ := Cursor.takeWhile_same h fun ch => !isBlank ch
  simp only [readStatement, Cursor.word, hw]
  exact .ite Iff.rfl (readAddition_agree hp (Cursor.skipBlanks_same hr)) (.error rfl)

lemma readBlockLine_agree (n : ℕ) :
    Agree (Progress.Scaled f) (readBlockLine p n c) (readBlockLine q (f n) d) := by
  rw [readBlockLine, readBlockLine]
  have ho := hp.overlay
  generalize p.overlay = o at ho
  generalize q.overlay = o' at ho
  cases ho with
  | none => exact .error rfl
  | some ho =>
    refine (readKey_agree h).bind fun r s hk =>
      (readValue_agree (Cursor.skipBlanks_same hk.2)).bind fun _ _ hv => ?_
    have hb := List.rel_append ho.block
      (.cons (⟨rfl, hk.1, hv⟩ : BlockLine.Scaled f ⟨c.line, n, _, _⟩ ⟨d.line, f n, _, _⟩) .nil)
    refine .ite (by rw [hk.1]) (.error rfl) (.ok ?_)
    exact ⟨hp.name, hp.actions, .some ⟨ho.name, hb⟩, hp.started⟩

end Statements

inductive Reindented (f : ℕ → ℕ) : LogicalLine → LogicalLine → Prop
  | mk (i j n : ℕ) {cs : List Char} (h : trimLeft cs = cs) :
    Reindented f ⟨i, List.replicate n ' ' ++ cs⟩ ⟨j, List.replicate (f n) ' ' ++ cs⟩

lemma readLine_agree (hf : StrictMono f) (h0 : f 0 = 0) {p q : Progress} (hp : p.Scaled f q)
    {k k' : LogicalLine} (hk : Reindented f k k') :
    Agree (Progress.Scaled f) (readLine p k) (readLine q k') := by
  obtain ⟨i, j, n, h⟩ := hk
  have hn : n = 0 ↔ f n = 0 := by rw [← hf.injective.eq_iff, h0]
  have hc {a b : ℕ} {cs : List Char} : (Cursor.mk i a cs).rest = (Cursor.mk j b cs).rest := rfl
  rw [readLine_indented p i n h, readLine_indented q j (f n) h]
  simp only [readIndented]
  split
  · exact .ok hp
  · exact .ok hp
  · refine .ite hn ((close_agree hp hf).bind fun p q hp => ?_) (readBlockLine_agree hp hc n)
    have hs {p q : Progress} (hp : p.Scaled f q) :
        Progress.Scaled f { p with started := true } { q with started := true } :=
      ⟨hp.name, hp.actions, hp.overlay, rfl⟩
    split
    · exact (readHeader_agree hp hc).bind fun p q hp => .ok (hs hp)
    · exact (readStatement_agree hp hc).bind fun p q hp => .ok (hs hp)

end LayeredSchema.Ocafile

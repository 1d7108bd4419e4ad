import LayeredSchema.Proofs.Ocafile.Builder
import Mathlib

/-!
Which blocks can be closed, and the tree that their indentation makes of the lines: a line is under
the nearest line before it that is indented less. Main result: `close_iff_wellIndented`.
-/

namespace LayeredSchema.Ocafile

variable {l m : BlockLine} {ls xs ys : List BlockLine} {i : ℕ} {q : Option ℕ}

def Open (ls : List BlockLine) (i : ℕ) : Prop :=
  ∃ before c after, ls = before ++ c :: after ∧ c.indent = i ∧ ∀ m ∈ after, i ≤ m.indent

/-- A line that is deeper than the line before it is under a line without a value, and a line that
is less deep is level with a line that is open. -/
structure WellIndented (ls : List BlockLine) : Prop where
  deeper : ∀ before a b after, ls = before ++ a :: b :: after → a.indent < b.indent →
    a.value = .bare
  shallower : ∀ before a b after, ls = before ++ a :: b :: after → b.indent < a.indent →
    Open (before ++ [a]) b.indent

lemma wellIndented_nil : WellIndented [] :=
  ⟨by simp, by simp⟩

lemma Open.append_left (h : Open ls i) : Open (xs ++ ls) i := by
  obtain ⟨before, c, after, rfl, hc, ha⟩ := h
  exact ⟨xs ++ before, c, after, by simp, hc, ha⟩

lemma Open.of_append (h : Open (xs ++ ys) i) :
    Open ys i ∨ (∃ c ∈ xs, c.indent = i) ∧ ∀ m ∈ ys, i ≤ m.indent := by
  obtain ⟨before, c, after, hb, hc, ha⟩ := h
  rcases List.append_eq_append_iff.mp hb with ⟨zs, rfl, rfl⟩ | ⟨zs, rfl, hz⟩
  · exact Or.inl ⟨zs, c, after, rfl, hc, ha⟩
  · cases zs with
    | nil => exact Or.inl ⟨[], c, after, hz.symm, hc, ha⟩
    | cons z zs =>
      obtain ⟨rfl, rfl⟩ := List.cons.inj hz
      refine Or.inr ⟨⟨c, by simp, hc⟩, fun m hm => ha m (List.mem_append_right _ hm)⟩

section Split

variable {before after : List BlockLine} {a b : BlockLine}

lemma adjacent_append (h : xs ++ ys = before ++ a :: b :: after) :
    (∃ after', xs = before ++ a :: b :: after') ∨ (xs = before ++ [a] ∧ ys = b :: after) ∨
      ∃ before', before = xs ++ before' ∧ ys = before' ++ a :: b :: after := by
  rcases List.append_eq_append_iff.mp h with ⟨zs, rfl, rfl⟩ | ⟨zs, rfl, hz⟩
  · exact Or.inr (Or.inr ⟨zs, rfl, rfl⟩)
  · rcases zs with _ | ⟨z, _ | ⟨z', zs⟩⟩
    · exact Or.inr (Or.inr ⟨[], by simp, hz.symm⟩)
    · obtain ⟨rfl, rfl⟩ := List.cons.inj hz
      exact Or.inr (Or.inl ⟨rfl, rfl⟩)
    · simp only [List.cons_append, List.cons.injEq] at hz
      obtain ⟨rfl, rfl, -⟩ := hz
      exact Or.inl ⟨zs, rfl⟩

lemma adjacent_cons (h : l :: (xs ++ ys) = before ++ a :: b :: after) :
    (a = l ∧ ∃ xs', xs = b :: xs') ∨
      (∃ before' after', before = [l] ++ before' ∧ xs = before' ++ a :: b :: after') ∨
        (l :: xs = before ++ [a] ∧ ys = b :: after) ∨
          ∃ before', before = l :: xs ++ before' ∧ ys = before' ++ a :: b :: after := by
  rcases adjacent_append (show (l :: xs) ++ ys = _ from h) with ⟨after', hs⟩ | h | h
  · rcases adjacent_append (show [l] ++ xs = _ from hs) with ⟨_, hl⟩ | ⟨hl, hx⟩ | ⟨before', hb, hx⟩
    · have := congrArg List.length hl
      simp at this
      omega
    · cases before with
      | nil => exact Or.inl ⟨(List.cons.inj hl).1.symm, _, hx⟩
      | cons c before => simp at hl
    · exact Or.inr (Or.inl ⟨before', after', hb, hx⟩)
  · exact Or.inr (Or.inr (Or.inl h))
  · exact Or.inr (Or.inr (Or.inr h))

variable (hx : ∀ m ∈ xs, l.indent < m.indent) (hy : ∀ m, ys.head? = some m → m.indent ≤ l.indent)
include hx

lemma WellIndented.inner (h : WellIndented (l :: (xs ++ ys))) : WellIndented xs := by
  refine ⟨fun before a b after hs => ?_, fun before a b after hs hab => ?_⟩
  · exact h.deeper (l :: before) a b (after ++ ys) (by simp [hs])
  · have ho := h.shallower ([l] ++ before) a b (after ++ ys) (by simp [hs]) hab
    rw [List.append_assoc] at ho
    rcases ho.of_append with ho | ⟨⟨c, hc, hb⟩, -⟩
    · exact ho
    · obtain rfl := List.mem_singleton.mp hc
      exact absurd hb (hx b (by simp [hs])).ne

lemma le_of_mem_cons (hm : m ∈ l :: xs) : l.indent ≤ m.indent := by
  rcases List.mem_cons.mp hm with rfl | hm
  · exact le_rfl
  · exact (hx m hm).le

include hy

lemma WellIndented.level (h : WellIndented (l :: (xs ++ ys))) (hm : ys.head? = some m) :
    m.indent = l.indent := by
  by_contra hne
  have hlt := (hy m hm).lt_of_ne hne
  obtain ⟨ys, rfl⟩ := List.head?_eq_some_iff.mp hm
  obtain ⟨before, a, ha⟩ : ∃ before a, l :: xs = before ++ [a] :=
    ⟨_, _, (List.dropLast_concat_getLast (List.cons_ne_nil l xs)).symm⟩
  have hla : l.indent ≤ a.indent := le_of_mem_cons hx (by simp [ha])
  obtain ⟨before', c, after, hb, hc, -⟩ :=
    h.shallower before a m ys (by simpa using congrArg (· ++ m :: ys) ha) (hlt.trans_le hla)
  have hlc : l.indent ≤ c.indent := le_of_mem_cons hx (by simp [ha, hb])
  omega

lemma WellIndented.outer (h : WellIndented (l :: (xs ++ ys))) : WellIndented ys := by
  refine ⟨fun before a b after hs => ?_, fun before a b after hs hab => ?_⟩
  · exact h.deeper (l :: xs ++ before) a b after (by simp [hs])
  · have ho := h.shallower (l :: xs ++ before) a b after (by simp [hs]) hab
    rw [List.append_assoc] at ho
    rcases ho.of_append with ho | ⟨⟨c, hc, hb⟩, hge⟩
    · exact ho
    -- the line that is open is among the first ones, so the first of the others is level with it
    · have hlc := le_of_mem_cons hx hc
      cases before with
      | nil =>
        have := h.level hx hy (m := a) (by simp [hs])
        omega
      | cons m before =>
        have hm := h.level hx hy (m := m) (by simp [hs])
        have hmb := hge m (by simp)
        exact ⟨[], m, before ++ [a], rfl, by omega, fun n hn => hge n (List.mem_cons_of_mem m hn)⟩

end Split

lemma wellIndented_cons_iff : WellIndented (l :: ls) ↔
    (l.inner ls ≠ [] → l.value = .bare) ∧ WellIndented (l.inner ls) ∧
      (∀ m, (l.outer ls).head? = some m → m.indent = l.indent) ∧ WellIndented (l.outer ls) := by
  have hls := inner_append_outer l ls
  have hx : ∀ m ∈ l.inner ls, l.indent < m.indent := fun m hm => lt_of_mem_inner hm
  have hy : ∀ m, (l.outer ls).head? = some m → m.indent ≤ l.indent :=
    fun m hm => le_of_head_outer hm
  generalize l.inner ls = xs at *
  generalize l.outer ls = ys at *
  subst hls
  constructor
  · intro h
    refine ⟨fun hn => ?_, h.inner hx, fun m hm => h.level hx hy hm, h.outer hx hy⟩
    obtain ⟨x, xs, rfl⟩ := List.exists_cons_of_ne_nil hn
    exact h.deeper [] l x (xs ++ ys) rfl (hx x List.mem_cons_self)
  · rintro ⟨hb, hi, hm, ho⟩
    constructor
    · intro before a b after hs hab
      rcases adjacent_cons hs with ⟨rfl, xs', rfl⟩ | ⟨before', after', -, hx'⟩ | ⟨ha, hy'⟩ |
        ⟨before', -, hy'⟩
      · exact hb (List.cons_ne_nil _ _)
      · exact hi.deeper _ _ _ _ hx' hab
      · have hla : l.indent ≤ a.indent := le_of_mem_cons hx (by simp [ha])
        have hbl := hm b (by simp [hy'])
        omega
      · exact ho.deeper _ _ _ _ hy' hab
    · intro before a b after hs hab
      rcases adjacent_cons hs with ⟨rfl, xs', rfl⟩ | ⟨before', after', rfl, hx'⟩ | ⟨ha, hy'⟩ |
        ⟨before', rfl, hy'⟩
      · exact absurd hab (hx b List.mem_cons_self).not_gt
      · exact List.append_assoc _ _ _ ▸ (hi.shallower _ _ _ _ hx' hab).append_left
      · have hbl := hm b (by simp [hy'])
        exact ⟨[], l, xs, ha.symm, hbl.symm, fun m hm => hbl ▸ (hx m hm).le⟩
      · exact List.append_assoc _ _ _ ▸ (ho.shallower _ _ _ _ hy' hab).append_left

lemma exists_properties_cons_iff : (∃ ps, properties (l :: ls) = .ok ps) ↔
    (l.inner ls ≠ [] → l.value = .bare) ∧ (∃ ps, properties (l.inner ls) = .ok ps) ∧
      (∀ m, (l.outer ls).head? = some m → m.indent = l.indent) ∧
        ∃ ps, properties (l.outer ls) = .ok ps := by
  simp only [properties_cons_ok_iff, Nested, PropertyValue.isBare_iff]
  constructor
  · rintro ⟨_, v, t, ⟨hi, -⟩ | ⟨-, hb, ps, hps, -⟩, hm, ht, -⟩
    · exact ⟨fun hn => absurd hi hn, ⟨[], by rw [hi, properties]⟩, hm, t, ht⟩
    · exact ⟨fun _ => hb, ⟨ps, hps⟩, hm, t, ht⟩
  · rintro ⟨hb, ⟨ps, hps⟩, hm, t, ht⟩
    by_cases hi : l.inner ls = []
    · exact ⟨_, _, t, Or.inl ⟨hi, rfl⟩, hm, ht, rfl⟩
    · exact ⟨_, _, t, Or.inr ⟨hi, hb hi, ps, hps, rfl⟩, hm, ht, rfl⟩

lemma exists_properties_iff (ls : List BlockLine) :
    (∃ ps, properties ls = .ok ps) ↔ WellIndented ls := by
  induction ls using block_induction with
  | nil => exact iff_of_true ⟨[], by rw [properties]⟩ wellIndented_nil
  | cons l ls hi ho => rw [exists_properties_cons_iff, wellIndented_cons_iff, hi, ho]

inductive Tree
  | node (line : BlockLine) (children : List Tree)

mutual

def Tree.property : Tree → Property
  | .node l [] => .mk l.number l.key l.value
  | .node l (t :: ts) => .mk l.number l.key (.block (t.property :: Tree.properties ts))

def Tree.properties : List Tree → List Property
  | [] => []
  | t :: ts => t.property :: Tree.properties ts

end

mutual

/-- The lines in preorder from a place on, each with the place of the line it is under. -/
def Tree.walk (q : Option ℕ) (n : ℕ) : Tree → List (Option ℕ × BlockLine)
  | .node l ts => (q, l) :: Tree.walkAll (some n) (n + 1) ts

def Tree.walkAll (q : Option ℕ) (n : ℕ) : List Tree → List (Option ℕ × BlockLine)
  | [] => []
  | t :: ts => t.walk q n ++ Tree.walkAll q (n + (t.walk q n).length) ts

end

/-- The place of the nearest line that is indented less, if there is one. -/
def Nearest (earlier : List BlockLine) (i : ℕ) : Option ℕ → Prop
  | none => ∀ m ∈ earlier, i ≤ m.indent
  | some n => ∃ before c after, earlier = before ++ c :: after ∧ before.length = n ∧ c.indent < i ∧
      ∀ m ∈ after, i ≤ m.indent

def firstUnder : Option ℕ → ℕ
  | none => 0
  | some n => n + 1

structure Place (earlier : List BlockLine) (i : ℕ) (q : Option ℕ) : Prop where
  nearest : Nearest earlier i q
  level : ∀ m, earlier[firstUnder q]? = some m → m.indent = i

inductive Placed : List BlockLine → List (Option ℕ × BlockLine) → Prop
  | nil {earlier : List BlockLine} : Placed earlier []
  | cons {earlier : List BlockLine} {q : Option ℕ} {l : BlockLine}
      {w : List (Option ℕ × BlockLine)} (head : Place earlier l.indent q)
      (tail : Placed (earlier ++ [l]) w) : Placed earlier ((q, l) :: w)

variable {earlier : List BlockLine} {v w : List (Option ℕ × BlockLine)}

lemma Placed.append (hv : Placed earlier v) (hw : Placed (earlier ++ v.map Prod.snd) w) :
    Placed earlier (v ++ w) := by
  induction hv with
  | nil => simpa using hw
  | cons head _ ih => exact .cons head (ih (by simpa using hw))

lemma Placed.place {after : List (Option ℕ × BlockLine)}
    (h : Placed earlier (v ++ (q, l) :: after)) :
    Place (earlier ++ v.map Prod.snd) l.indent q := by
  induction v generalizing earlier with
  | nil =>
    cases h with
    | cons head _ => simpa using head
  | cons e v ih =>
    cases h with
    | cons _ tail => simpa using ih tail

lemma Nearest.firstUnder_le (h : Nearest earlier i q) : firstUnder q ≤ earlier.length := by
  cases q with
  | none => exact Nat.zero_le _
  | some n =>
    obtain ⟨before, c, after, rfl, rfl, -⟩ := h
    simp [firstUnder]

lemma Place.level_concat (h : Place earlier l.indent q) :
    ∃ m, (earlier ++ [l])[firstUnder q]? = some m ∧ m.indent = l.indent := by
  rcases h.nearest.firstUnder_le.lt_or_eq with hlt | heq
  · refine ⟨earlier[firstUnder q], ?_, h.level _ (List.getElem?_eq_getElem hlt)⟩
    rw [List.getElem?_append_left hlt, List.getElem?_eq_getElem hlt]
  · exact ⟨l, by rw [heq, List.getElem?_concat_length], rfl⟩

lemma Place.append (h : Place earlier l.indent q) (hx : ∀ m ∈ xs, l.indent < m.indent) :
    Place (earlier ++ l :: xs) l.indent q := by
  refine ⟨?_, fun m hm => ?_⟩
  · have hge : ∀ m ∈ l :: xs, l.indent ≤ m.indent := fun m hm => le_of_mem_cons hx hm
    have hn := h.nearest
    cases q with
    | none => exact List.forall_mem_append.mpr ⟨hn, hge⟩
    | some n =>
      obtain ⟨before, c, after, rfl, hb, hc, ha⟩ := hn
      exact ⟨before, c, after ++ l :: xs, by simp, hb, hc, List.forall_mem_append.mpr ⟨ha, hge⟩⟩
  · obtain ⟨m', hm', hi⟩ := h.level_concat
    have hs : earlier ++ l :: xs = earlier ++ [l] ++ xs := by simp
    have hlt := (List.getElem?_eq_some_iff.mp hm').1
    rw [hs, List.getElem?_append_left hlt, hm'] at hm
    obtain rfl := Option.some.inj hm
    exact hi

lemma place_under (h : l.indent < i) : Place (earlier ++ [l]) i (some earlier.length) := by
  refine ⟨⟨earlier, l, [], rfl, rfl, h, by simp⟩, fun m hm => ?_⟩
  simp [firstUnder] at hm

lemma Placed.level (h : Placed [] w) (hl : (q, l) ∈ w) :
    ∃ m, (w.map Prod.snd)[firstUnder q]? = some m ∧ m.indent = l.indent := by
  obtain ⟨v, after, rfl⟩ := List.append_of_mem hl
  obtain ⟨m, hm, hi⟩ := h.place.level_concat
  refine ⟨m, ?_, hi⟩
  have hs : (v ++ (q, l) :: after).map Prod.snd =
      [] ++ v.map Prod.snd ++ [l] ++ after.map Prod.snd := by simp
  rw [hs, List.getElem?_append_left (List.getElem?_eq_some_iff.mp hm).1, hm]

def Rebuilt (ls : List BlockLine) (ps : List Property) (ts : List Tree) : Prop :=
  ps = Tree.properties ts ∧ ∀ earlier q, (∀ m, ls.head? = some m → Place earlier m.indent q) →
    (Tree.walkAll q earlier.length ts).map Prod.snd = ls ∧
      Placed earlier (Tree.walkAll q earlier.length ts)

lemma exists_node {v : PropertyValue} (hv : Nested l (l.inner ls) v)
    (ih : ∀ ps, properties (l.inner ls) = .ok ps → ∃ ts, Rebuilt (l.inner ls) ps ts) :
    ∃ ts, Tree.property (.node l ts) = .mk l.number l.key v ∧ ∀ earlier : List BlockLine,
      (Tree.walkAll (some earlier.length) (earlier.length + 1) ts).map Prod.snd = l.inner ls ∧
        Placed (earlier ++ [l]) (Tree.walkAll (some earlier.length) (earlier.length + 1) ts) := by
  rcases hv with ⟨hi, rfl⟩ | ⟨hi, -, ps, hps, rfl⟩
  · exact ⟨[], rfl, fun earlier => ⟨hi.symm, .nil⟩⟩
  · obtain ⟨ts, rfl, hw⟩ := ih ps hps
    have hu (earlier : List BlockLine) := hw (earlier ++ [l]) (some earlier.length)
      fun m hm => place_under (lt_of_mem_inner (List.mem_of_head? hm))
    simp only [List.length_append, List.length_singleton] at hu
    refine ⟨ts, ?_, hu⟩
    cases ts with
    | nil => exact absurd (hu []).1.symm hi
    | cons t ts => rfl

lemma exists_rebuilt {ps : List Property} (h : properties ls = .ok ps) :
    ∃ ts, Rebuilt ls ps ts := by
  induction ls using block_induction generalizing ps with
  | nil =>
    rw [properties] at h
    obtain rfl := Except.ok.inj h
    exact ⟨[], rfl, fun earlier q _ => ⟨rfl, .nil⟩⟩
  | cons l ls hi ho =>
    obtain ⟨v, t, hv, hm, ht, rfl⟩ := properties_cons_ok_iff.mp h
    obtain ⟨cs, hp, hc⟩ := exists_node hv fun _ hps => hi hps
    obtain ⟨ts, rfl, ho⟩ := ho ht
    refine ⟨.node l cs :: ts, by rw [Tree.properties, hp], fun earlier q hq => ?_⟩
    have hl : Place earlier l.indent q := hq l rfl
    obtain ⟨hcm, hcp⟩ := hc earlier
    obtain ⟨hom, hop⟩ := ho (earlier ++ l :: l.inner ls) q fun m hm' =>
      hm m hm' ▸ hl.append fun m hm => lt_of_mem_inner hm
    have hlen : (earlier ++ l :: l.inner ls).length = earlier.length +
        ((Tree.walkAll (some earlier.length) (earlier.length + 1) cs).length + 1) := by
      rw [← hcm]
      simp
    rw [hlen] at hom hop
    rw [Tree.walkAll, Tree.walk]
    refine ⟨?_, .cons hl (hcp.append ?_)⟩
    · rw [List.map_append, List.map_cons, hcm, List.length_cons, hom, List.cons_append,
        inner_append_outer]
    · rw [hcm, List.length_cons]
      simpa using hop

/-- A block can be closed exactly when it is well indented. It is closed to the properties of trees
whose preorder is the block, in which a line is under the nearest line before it that is indented
less and level with the other lines there. One pass over the lines comes to the same, and never to a
line that is deeper than the level due to take it. -/
theorem close_iff_wellIndented (p : Progress) (o : OpenOverlay) (h : p.overlay = some o) :
    ((∃ p', p.close = .ok p') ↔ WellIndented o.block) ∧
      (∀ p', p.close = .ok p' → ∃ ts : List Tree,
        p' = { p.add o.line (.overlay o.name (Tree.properties ts)) with overlay := none } ∧
          (Tree.walkAll none 0 ts).map Prod.snd = o.block ∧
          (∀ before q l after, Tree.walkAll none 0 ts = before ++ (q, l) :: after →
            Nearest (before.map Prod.snd) l.indent q) ∧
          ∀ q l m, (q, l) ∈ Tree.walkAll none 0 ts → (q, m) ∈ Tree.walkAll none 0 ts →
            l.indent = m.indent) ∧
      p.close = ((onePass o.block).mapError Stop.error).map (fun ps =>
        { p.add o.line (.overlay o.name ps) with overlay := none }) ∧
      ∀ l, onePass o.block ≠ .error ⟨l, .deeper⟩ := by
  have hc : p.close = (properties o.block).map fun ps =>
      { p.add o.line (.overlay o.name ps) with overlay := none } := by
    rw [Progress.close, h]
    rfl
  refine ⟨?_, fun p' hp => ?_, by rw [hc, properties_eq_onePass], onePass_not_deeper o.block⟩
  · rw [← exists_properties_iff, hc]
    cases properties o.block <;> simp [Except.map]
  · rw [hc, Outcome.map_ok_iff] at hp
    obtain ⟨ps, hps, rfl⟩ := hp
    obtain ⟨ts, rfl, hw⟩ := exists_rebuilt hps
    have hn : ∀ m, o.block.head? = some m → Place [] m.indent none :=
      fun m _ => ⟨by simp [Nearest], by simp⟩
    obtain ⟨hm, hp⟩ := hw [] none hn
    refine ⟨ts, rfl, hm, fun before q l after hs => ?_, fun q l m hl hm' => ?_⟩
    · rw [List.length_nil, hs] at hp
      simpa using hp.place.nearest
    · obtain ⟨x, hx, hxl⟩ := hp.level hl
      obtain ⟨y, hy, hym⟩ := hp.level hm'
      rw [← hxl, ← hym, Option.some.inj (hx.symm.trans hy)]

def stepsBlock : List BlockLine :=
  [⟨2, 2, "a", .bare⟩, ⟨3, 6, "b", .bare⟩, ⟨4, 8, "c", .text "x"⟩, ⟨5, 6, "d", .text "y"⟩]

theorem close_iff_wellIndented_steps :
    WellIndented (stepsBlock ++ [⟨6, 2, "e", .text "z"⟩]) ∧
      ¬WellIndented (stepsBlock ++ [⟨6, 4, "e", .text "z"⟩]) := by
  have hw (l : BlockLine) :=
    (close_iff_wellIndented { overlay := some ⟨1, "label", stepsBlock ++ [l]⟩ } _ rfl).1
  rw [← hw, ← hw, Outcome.exists_ok_iff_isOk, Outcome.exists_ok_iff_isOk]
  decide +kernel

end LayeredSchema.Ocafile

import LayeredSchema.Proofs.Ocafile.Block
import LayeredSchema.Proofs.Outcome
import Mathlib

/-!
Blocks built in one pass: a level takes the lines that belong to it and leaves the rest to the level
around it. This makes the same properties, and fails in the same way, as splitting the lines at
their indentation. Main result: `properties_eq_onePass`.
-/

namespace LayeredSchema.Ocafile

/-- Why a line stops a level: it is deeper than the level where a line of the level is due, deeper
than a line that has a value, or level with none of the lines that are open. -/
inductive Halt
  | deeper
  | underValue
  | unmatched

def Halt.cause : Halt → Cause
  | .deeper | .underValue => .indentUnderValue
  | .unmatched => .inconsistentDedent

structure Stop where
  line : BlockLine
  halt : Halt

def Stop.error (s : Stop) : Error := ⟨s.line.number, s.line.indent + 1, s.halt.cause⟩

structure Taken (α : Type) (ls : List BlockLine) where
  made : α
  rest : List BlockLine
  left : rest <:+ ls

def expectLevel (i : ℕ) : List BlockLine → Except Stop Unit
  | [] => .ok ()
  | m :: _ => if i < m.indent then .error ⟨m, .unmatched⟩ else .ok ()

def takeLevel (i : ℕ) : (ls : List BlockLine) → Except Stop (Taken (List Property) ls)
  | [] => .ok ⟨[], [], List.nil_suffix⟩
  | l :: ls =>
    if l.indent < i then .ok ⟨[], l :: ls, List.suffix_rfl⟩
    else if i < l.indent then .error ⟨l, .deeper⟩
    else do
      let ⟨v, rest, h⟩ ← show Except Stop (Taken PropertyValue ls) from
        match ls.head? with
        | none => pure ⟨l.value, ls, List.suffix_rfl⟩
        | some next =>
          if i < next.indent then
            if l.value.isBare then do
              let ⟨ps, rest, h⟩ ← takeLevel next.indent ls
              expectLevel i rest
              return ⟨.block ps, rest, h⟩
            else .error ⟨next, .underValue⟩
          else pure ⟨l.value, ls, List.suffix_rfl⟩
      have := h.length_le
      let ⟨ps, rest, h'⟩ ← takeLevel i rest
      return ⟨.mk l.number l.key v :: ps, rest, (h'.trans h).trans (List.suffix_cons l ls)⟩
termination_by ls => ls.length
decreasing_by all_goals (simp only [List.length_cons]; omega)

def build (i : ℕ) (ls : List BlockLine) : Except Stop (List Property × List BlockLine) :=
  (takeLevel i ls).map fun t => (t.made, t.rest)

def finish : List Property × List BlockLine → Except Stop (List Property)
  | (ps, []) => .ok ps
  | (_, stray :: _) => .error ⟨stray, .unmatched⟩

/-- The properties of a whole block, the level of its first line being outermost. -/
def onePass : List BlockLine → Except Stop (List Property)
  | [] => .ok []
  | l :: ls => build l.indent (l :: ls) >>= finish

def within (i : ℕ) (l : BlockLine) (ls : List BlockLine) :
    Except Stop (PropertyValue × List BlockLine) :=
  match ls.head? with
  | none => pure (l.value, ls)
  | some next =>
    if i < next.indent then
      if l.value.isBare then do
        let (ps, rest) ← build next.indent ls
        expectLevel i rest
        return (.block ps, rest)
      else .error ⟨next, .underValue⟩
    else pure (l.value, ls)

variable {i : ℕ} {l m : BlockLine} {ls ms : List BlockLine} {v : PropertyValue}
  {ps : List Property}

lemma build_nil : build i [] = .ok ([], []) := by
  rw [build, takeLevel]
  rfl

lemma build_cons : build i (l :: ls) =
    if l.indent < i then .ok ([], l :: ls)
    else if i < l.indent then .error ⟨l, .deeper⟩
    else do
      let (v, rest) ← within i l ls
      let (ps, rest) ← build i rest
      return (.mk l.number l.key v :: ps, rest) := by
  have hr {rest : List BlockLine} {v : PropertyValue} (h : rest <:+ ls) :
      (do let ⟨ps, rest', h'⟩ ← takeLevel i rest
          return ⟨.mk l.number l.key v :: ps, rest', (h'.trans h).trans (List.suffix_cons l ls)⟩ :
        Except Stop (Taken (List Property) (l :: ls))).map (fun t => (t.made, t.rest)) =
      build i rest >>= fun r => pure (.mk l.number l.key v :: r.1, r.2) := by
    rw [build]
    cases takeLevel i rest <;> rfl
  rw [build, takeLevel, within]
  split
  · rfl
  split
  · rfl
  cases ls.head? with
  | none => exact hr List.suffix_rfl
  | some next =>
    dsimp only
    split
    · split
      · rw [build]
        cases takeLevel next.indent ls with
        | error e => rfl
        | ok t =>
          simp only [Except.map, bind, Except.bind]
          cases expectLevel i t.rest with
          | error e => rfl
          | ok _ => exact hr t.left
      · rfl
    · exact hr List.suffix_rfl

lemma build_suffix {rest : List BlockLine} (h : build i ls = .ok (ps, rest)) : rest <:+ ls := by
  obtain ⟨t, -, ht⟩ := Outcome.map_ok_iff.mp h
  obtain rfl : t.rest = rest := (Prod.ext_iff.mp ht).2
  exact t.left

lemma build_of_lt (h : ∀ m, ls.head? = some m → m.indent < i) : build i ls = .ok ([], ls) := by
  cases ls with
  | nil => exact build_nil
  | cons m ms => rw [build_cons, if_pos (h m rfl)]

lemma expectLevel_of_le (h : ∀ m, ls.head? = some m → m.indent ≤ i) :
    expectLevel i ls = .ok () := by
  cases ls with
  | nil => rfl
  | cons m ms => exact if_neg (not_lt.mpr (h m rfl))

lemma within_suffix {rest : List BlockLine} (h : within i l ls = .ok (v, rest)) : rest <:+ ls := by
  rw [within] at h
  split at h
  · obtain ⟨-, rfl⟩ := Prod.mk.inj (Outcome.pure_ok_iff.mp h)
    exact List.suffix_rfl
  · split at h
    · split at h
      · simp only [Outcome.bind_ok_iff, Outcome.pure_ok_iff, Prod.mk.injEq] at h
        obtain ⟨⟨ps, rest'⟩, hb, -, -, -, rfl⟩ := h
        exact build_suffix hb
      · contradiction
    · obtain ⟨-, rfl⟩ := Prod.mk.inj (Outcome.pure_ok_iff.mp h)
      exact List.suffix_rfl

lemma expectLevel_append (h : ∀ m, ms.head? = some m → m.indent < i) :
    expectLevel i (ls ++ ms) = expectLevel i ls := by
  cases ls with
  | nil => exact expectLevel_of_le fun m hm => (h m hm).le
  | cons m ls => rfl

lemma within_append (h : ∀ m, ms.head? = some m → m.indent < i)
    (hb : ∀ j, i < j → build j (ls ++ ms) = (build j ls).map fun r => (r.1, r.2 ++ ms)) :
    within i l (ls ++ ms) = (within i l ls).map fun r => (r.1, r.2 ++ ms) := by
  cases ls with
  | nil =>
    rw [within]
    cases ms with
    | nil => rfl
    | cons m ms => exact if_neg (h m rfl).not_gt
  | cons next ls =>
    simp only [within, List.cons_append, List.head?_cons]
    split
    · rename_i hi
      split
      · rw [← List.cons_append, hb next.indent hi]
        cases build next.indent (next :: ls) with
        | error e => rfl
        | ok r =>
          simp only [Except.map, bind, Except.bind, expectLevel_append h]
          cases expectLevel i r.2 <;> rfl
      · rfl
    · rfl

lemma build_append (h : ∀ m, ms.head? = some m → m.indent < i) :
    build i (ls ++ ms) = (build i ls).map fun r => (r.1, r.2 ++ ms) := by
  induction hn : ls.length using Nat.strong_induction_on generalizing i ls with
  | _ n ih =>
    cases ls with
    | nil =>
      rw [List.nil_append, build_of_lt h, build_nil]
      rfl
    | cons l ls =>
      subst hn
      have hw := within_append (l := l) h fun j hj =>
        ih ls.length (Nat.lt_succ_self _) (fun m hm => (h m hm).trans hj) rfl
      rw [List.cons_append, build_cons, build_cons, hw]
      split
      · rfl
      split
      · rfl
      cases hr : within i l ls with
      | error e => rfl
      | ok r =>
        have hl := (within_suffix hr).length_le
        simp only [Except.map, bind, Except.bind]
        rw [ih _ (by simpa using Nat.lt_succ_of_le hl) h rfl]
        cases build i r.2 <;> rfl

lemma inner_append_outer (l : BlockLine) (ls : List BlockLine) : l.inner ls ++ l.outer ls = ls :=
  List.takeWhile_append_dropWhile

lemma lt_of_mem_inner (h : m ∈ l.inner ls) : l.indent < m.indent := by
  simpa using List.mem_takeWhile_imp h

lemma le_of_head_outer (h : (l.outer ls).head? = some m) : m.indent ≤ l.indent := by
  have hd := List.head?_dropWhile_not (fun m => decide (l.indent < m.indent)) ls
  rw [← BlockLine.outer, h] at hd
  simpa using hd

lemma within_eq (l : BlockLine) (ls : List BlockLine) : within l.indent l ls =
    match l.inner ls with
    | [] => pure (l.value, l.outer ls)
    | first :: _ =>
      if l.value.isBare then (onePass (l.inner ls)).map fun ps => (.block ps, l.outer ls)
      else .error ⟨first, .underValue⟩ := by
  have hls := inner_append_outer l ls
  cases hi : l.inner ls with
  | nil =>
    rw [hi, List.nil_append] at hls
    rw [within, hls]
    cases hh : ls.head? with
    | none => rfl
    | some next => exact if_neg (not_lt.mpr (le_of_head_outer (hls ▸ hh)))
  | cons first is =>
    rw [hi] at hls
    have hf : l.indent < first.indent := lt_of_mem_inner (hi ▸ List.mem_cons_self)
    have hb : build first.indent ls =
        (build first.indent (first :: is)).map fun r => (r.1, r.2 ++ l.outer ls) := by
      conv_lhs => rw [← hls]
      exact build_append fun m hm => (le_of_head_outer hm).trans_lt hf
    rw [within, ← hls, List.cons_append, List.head?_cons, ← List.cons_append, hls]
    dsimp only
    rw [if_pos hf, hb, onePass]
    split
    · cases hr : build first.indent (first :: is) with
      | error e => rfl
      | ok r =>
        obtain ⟨ps, rest⟩ := r
        simp only [Except.map, bind, Except.bind]
        -- what the block under the line leaves is level with no line, as it is deeper than the line
        cases rest with
        | nil =>
          rw [List.nil_append, expectLevel_of_le fun m hm => le_of_head_outer hm]
          rfl
        | cons m rest =>
          have hm : m ∈ l.inner ls := hi ▸ (build_suffix hr).subset List.mem_cons_self
          rw [List.cons_append, expectLevel, if_pos (lt_of_mem_inner hm)]
          rfl
    · rfl

lemma onePass_cons (l : BlockLine) (ls : List BlockLine) : onePass (l :: ls) =
    within l.indent l ls >>= fun r =>
      (build l.indent r.2 >>= finish).map (.mk l.number l.key r.1 :: ·) := by
  rw [onePass, build_cons, if_neg (lt_irrefl _), if_neg (lt_irrefl _)]
  cases within l.indent l ls with
  | error e => rfl
  | ok r =>
    simp only [bind, Except.bind]
    cases build l.indent r.2 with
    | error e => rfl
    | ok q =>
      obtain ⟨ps, rest⟩ := q
      cases rest <;> rfl

def resume (i : ℕ) : List BlockLine → Except Stop (List Property)
  | [] => .ok []
  | m :: ms => if m.indent = i then onePass (m :: ms) else .error ⟨m, .unmatched⟩

lemma build_finish (h : ∀ m, ls.head? = some m → m.indent ≤ i) :
    build i ls >>= finish = resume i ls := by
  cases ls with
  | nil =>
    rw [build_nil]
    rfl
  | cons m ms =>
    rw [resume]
    split
    · rename_i hm
      rw [onePass, hm]
    · rename_i hm
      rw [build_of_lt fun n hn => Option.some.inj hn ▸ (h m rfl).lt_of_ne hm]
      rfl

lemma leveled_eq {os : List BlockLine} (h : ∀ m, os.head? = some m → m.indent ≤ l.indent)
    (ho : properties os = (onePass os).mapError Stop.error) : leveled l v os =
      ((build l.indent os >>= finish).map (.mk l.number l.key v :: ·)).mapError Stop.error := by
  rw [build_finish h]
  cases os with
  | nil =>
    simp only [leveled, ho]
    rfl
  | cons m os =>
    by_cases hm : m.indent = l.indent
    · simp only [leveled, resume, hm, ne_eq, not_true_eq_false, if_false, if_true, ho]
      cases onePass (m :: os) <;> rfl
    · simp only [leveled, resume, hm, ne_eq, not_false_eq_true, if_true, if_false]
      rfl

theorem properties_eq_onePass (ls : List BlockLine) :
    properties ls = (onePass ls).mapError Stop.error := by
  induction ls using block_induction with
  | nil =>
    rw [properties]
    rfl
  | cons l ls hi ho =>
    have hl (v : PropertyValue) := leveled_eq (v := v) (fun m hm => le_of_head_outer hm) ho
    rw [properties_cons, onePass_cons, within_eq]
    cases hls : l.inner ls with
    | nil => exact hl l.value
    | cons first is =>
      rw [hls] at hi
      dsimp only
      split
      · rw [hi]
        cases onePass (first :: is) with
        | error e => rfl
        | ok ps => exact hl (.block ps)
      · rfl

theorem onePass_not_deeper (ls : List BlockLine) (m : BlockLine) :
    onePass ls ≠ .error ⟨m, .deeper⟩ := by
  induction ls using block_induction with
  | nil => exact nofun
  | cons l ls hi ho =>
    have hl (v : PropertyValue) : (build l.indent (l.outer ls) >>= finish).map
        (.mk l.number l.key v :: ·) ≠ .error ⟨m, .deeper⟩ := by
      rw [ne_eq, Outcome.map_error_iff, build_finish fun m hm => le_of_head_outer hm]
      cases hs : l.outer ls with
      | nil => exact nofun
      | cons next os =>
        rw [resume]
        split
        · exact hs ▸ ho
        · exact nofun
    rw [onePass_cons, within_eq]
    cases hls : l.inner ls with
    | nil => exact hl l.value
    | cons first is =>
      rw [hls] at hi
      dsimp only
      split
      · cases hr : onePass (first :: is) with
        | error e =>
          rintro ⟨rfl⟩
          exact hi hr
        | ok ps => exact hl (.block ps)
      · exact nofun

end LayeredSchema.Ocafile

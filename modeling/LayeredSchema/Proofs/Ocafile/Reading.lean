import LayeredSchema.Proofs.AttributeType
import LayeredSchema.Proofs.Ocafile.Parser

/-!
What was read: the attributes of a file that parses can be written, and a condition on the lines of
blocks holds throughout the trees that the lines make.
-/

namespace LayeredSchema.Ocafile

open Text

variable {P : String → PropertyValue → Prop} {p q r : Progress} {c d : Cursor} {l : LogicalLine}

def Flat (P : String → PropertyValue → Prop) (l : BlockLine) : Prop :=
  l.value.onLine = l.value ∧ P l.key l.value

lemma every_of_properties {ls : List BlockLine} {ps : List Property} (h : properties ls = .ok ps)
    (hl : ∀ l ∈ ls, Flat P l) : Property.Every (fun k v => P k v.onLine) ps := by
  induction ls using block_induction generalizing ps with
  | nil =>
    rw [properties] at h
    obtain rfl := Except.ok.inj h
    exact .nil
  | cons l ls hi ho =>
    obtain ⟨v, rest, hv, -, hr, rfl⟩ := properties_cons_ok_iff.mp h
    have hfi : ∀ m ∈ l.inner ls, Flat P m := fun m hm => hl m (mem_of_mem_inner hm)
    have hfo : ∀ m ∈ l.outer ls, Flat P m := fun m hm => hl m (mem_of_mem_outer hm)
    have hs := ho hr hfo
    obtain ⟨hf, hh⟩ := hl l List.mem_cons_self
    rcases hv with ⟨-, rfl⟩ | ⟨-, hb, ws, hws, rfl⟩
    · refine .cons (by rwa [hf]) ?_ hs
      cases hv : l.value with
      | block ps =>
        rw [hv] at hf
        contradiction
      | _ => exact .nil
    · have hb : l.value = .bare := by
        cases hv : l.value <;> simp_all [PropertyValue.isBare]
      rw [hb] at hh
      exact .cons hh (hi hws hfi) hs

def Readable (P : String → PropertyValue → Prop) : Action → Prop
  | .classification _ => True
  | .attributes as => as ≠ [] ∧ ∀ a ∈ as, WritableAttribute a
  | .overlay _ ps => Property.Every (fun k v => P k v.onLine) ps

structure Sound (P : String → PropertyValue → Prop) (p : Progress) : Prop where
  commands : ∀ c ∈ p.commands, Readable P c.action
  block : ∀ o, p.overlay = some o → ∀ l ∈ o.block, Flat P l

lemma Sound.add (h : Sound P p) (line : ℕ) {action : Action} (ha : Readable P action) :
    Sound P (p.add line action) := by
  refine ⟨fun c hc => ?_, h.block⟩
  rcases List.mem_append.mp hc with hc | hc
  · exact h.commands c hc
  · obtain rfl := List.mem_singleton.mp hc
    exact ha

lemma Sound.close (h : Sound P p) (hq : p.close = .ok q) : Sound P q := by
  rw [Progress.close] at hq
  cases ho : p.overlay with
  | none =>
    rw [ho] at hq
    exact Except.ok.inj hq ▸ h
  | some o =>
    simp only [ho, Outcome.bind_ok_iff, Outcome.pure_ok_iff] at hq
    obtain ⟨ps, hps, rfl⟩ := hq
    have ha : Readable P (.overlay o.name ps) := every_of_properties hps (h.block o ho)
    exact ⟨(h.add o.line ha).commands, by simp⟩

lemma sound_of_close (hq : p.close = .ok q)
    (h : ∀ c ∈ q.commands, Readable P c.action ∧ ∀ name ps, c.action ≠ .overlay name ps) :
    Sound P p := by
  rw [Progress.close] at hq
  cases ho : p.overlay with
  | none =>
    rw [ho] at hq
    obtain rfl := Except.ok.inj hq
    exact ⟨fun c hc => (h c hc).1, by simp [ho]⟩
  | some o =>
    simp only [ho, Outcome.bind_ok_iff, Outcome.pure_ok_iff] at hq
    obtain ⟨ps, -, rfl⟩ := hq
    -- closing the block added a command for an overlay
    exact absurd rfl ((h _ (List.mem_append_right _ (List.mem_singleton_self _))).2 o.name ps)

lemma writableAttribute_of_read {a : String × AttributeType} (h : readAttribute c = .ok (a, d)) :
    WritableAttribute a := by
  simp only [readAttribute] at h
  split at h
  · rename_i ch chs t hn _
    split at h
    · rename_i u hu
      obtain ⟨rfl, -⟩ := Prod.mk.inj (Except.ok.inj h)
      have hc : ∀ x ∈ ch :: chs, isBlank x = false ∧ x ≠ '=' := by
        intro x hx
        rw [← hn] at hx
        have := List.mem_takeWhile_imp hx
        simpa [and_comm] using this
      have ht : ∀ x ∈ (c.name.2.moveTo t).word.1, isBlank x = false := by
        intro x hx
        have := List.mem_takeWhile_imp hx
        simpa using this
      refine ⟨?_, by simpa [hn] using hc, AttributeType.isBlank_text_of_parseChars hu ht,
        AttributeType.parse_text (AttributeType.tidy_of_parseChars hu)⟩
      simp [hn]
    · contradiction
  · contradiction

lemma writableAttributes_of_read {as : List (String × AttributeType)}
    (h : readAttributes c = .ok as) : ∀ a ∈ as, WritableAttribute a := by
  fun_induction readAttributes c generalizing as with
  | case1 =>
    obtain rfl := Except.ok.inj h
    simp
  | case2 => contradiction
  | case3 =>
    rename_i ha _ ih
    obtain ⟨bs, hbs, rfl⟩ := Outcome.map_ok_iff.mp h
    intro b hb
    rcases List.mem_cons.mp hb with rfl | hb
    · exact writableAttribute_of_read ha
    · exact ih hbs b hb

lemma readAddition_ok (h : readAddition p c = .ok q) :
    (∃ as, as ≠ [] ∧ (∃ d, readAttributes d = .ok as) ∧
      ∀ r, readAddition r c = .ok (r.add c.line (.attributes as))) ∨
    (∃ s, ∀ r, readAddition r c = .ok (r.add c.line (.classification s))) ∨
    ∃ s, ∀ r, readAddition r c = .ok { r with overlay := some ⟨c.line, s, []⟩ } := by
  simp only [readAddition] at h ⊢
  split at h
  · rename_i hk
    obtain ⟨as, has, h⟩ := Outcome.bind_ok_iff.mp h
    split at h
    · contradiction
    · rename_i hn
      refine Or.inl ⟨as, by simpa using hn, ⟨_, has⟩, fun r => ?_⟩
      rw [if_pos hk, has]
      exact if_neg hn
  rename_i hk
  split at h
  · rename_i hk'
    obtain ⟨⟨s, d⟩, hs, h⟩ := Outcome.bind_ok_iff.mp h
    obtain ⟨_, he, -⟩ := Outcome.bind_ok_iff.mp h
    have hl : d.line = c.line := Eq.trans (Cursor.scalar_line hs) rfl
    refine Or.inr (Or.inl ⟨s, fun r => ?_⟩)
    rw [if_neg hk, if_pos hk', hs, ← hl]
    exact congrArg (· >>= fun _ => pure (r.add d.line (.classification s))) he
  rename_i hk'
  split at h
  · rename_i ho
    obtain ⟨⟨s, d⟩, hs, h⟩ := Outcome.bind_ok_iff.mp h
    obtain ⟨_, he, -⟩ := Outcome.bind_ok_iff.mp h
    have hl : d.line = c.line := Eq.trans (Cursor.scalar_line hs) rfl
    refine Or.inr (Or.inr ⟨s, fun r => ?_⟩)
    rw [if_neg hk, if_neg hk', if_pos ho, hs, ← hl]
    exact congrArg (· >>= fun _ => pure { r with overlay := some ⟨d.line, s, []⟩ }) he
  split at h <;> contradiction

lemma readHeader_ok (h : readHeader p c = .ok q) : ∃ s, q = { p with name := some s } := by
  simp only [readHeader] at h
  split at h
  · split at h
    · contradiction
    split at h
    · contradiction
    obtain ⟨⟨s, d⟩, -, h⟩ := Outcome.bind_ok_iff.mp h
    obtain ⟨_, -, h⟩ := Outcome.bind_ok_iff.mp h
    exact ⟨s, (Outcome.pure_ok_iff.mp h).symm⟩
  · contradiction

def LogicalLine.content (l : LogicalLine) : Cursor := ⟨l.number, 1, trimLeft l.text⟩

lemma readStatement_ok (h : readStatement p c = .ok q) :
    ∃ d : Cursor, d.line = c.line ∧ ∀ r, readStatement r c = readAddition r d := by
  rw [readStatement] at h
  dsimp only at h
  split at h
  · rename_i hk
    exact ⟨c.word.2.skipBlanks, rfl, fun r => if_pos hk⟩
  · contradiction

def LineSays (l : LogicalLine) (key : String) (v : PropertyValue) : Prop :=
  l.text.takeWhile isBlank ≠ [] ∧ key ≠ "" ∧
    ∃ c d : Cursor, c.rest = trimLeft l.text ∧ readKey c = .ok (key, d) ∧
      readValue d.skipBlanks = .ok v

lemma readLine_ok (h : readLine p l = .ok q) :
    q = p ∨
    (∃ o key v, p.overlay = some o ∧ LineSays l key v ∧
      q = { p with overlay := some { o with block := o.block ++
        [⟨l.number, byteLength (l.text.takeWhile isBlank), key, v⟩] } }) ∨
    ∃ p' q', p.close = .ok p' ∧ q = { q' with started := true } ∧
      ((∃ s, q' = { p' with name := some s }) ∨
        l.text.takeWhile isBlank = [] ∧ readStatement p' l.content = .ok q') := by
  simp only [readLine] at h
  split at h
  · exact Or.inl (Outcome.pure_ok_iff.mp h).symm
  · exact Or.inl (Outcome.pure_ok_iff.mp h).symm
  split at h
  · contradiction
  split at h
  · rename_i hl
    obtain ⟨p', hp, h⟩ := Outcome.bind_ok_iff.mp h
    split at h
    · obtain ⟨q', hq, h⟩ := Outcome.bind_ok_iff.mp h
      exact Or.inr (Or.inr ⟨p', q', hp, (Outcome.pure_ok_iff.mp h).symm, Or.inl (readHeader_ok hq)⟩)
    · obtain ⟨q', hq, h⟩ := Outcome.bind_ok_iff.mp h
      refine Or.inr (Or.inr ⟨p', q', hp, (Outcome.pure_ok_iff.mp h).symm, Or.inr ?_⟩)
      exact ⟨List.isEmpty_iff.mp hl, hq⟩
  · rename_i hl
    rw [readBlockLine] at h
    split at h
    · contradiction
    · rename_i o ho
      obtain ⟨⟨key, d⟩, hk, h⟩ := Outcome.bind_ok_iff.mp h
      obtain ⟨v, hv, h⟩ := Outcome.bind_ok_iff.mp h
      simp only at h
      split at h
      · contradiction
      · rename_i hn
        refine Or.inr (Or.inl ⟨o, key, v, ho, ?_, (Outcome.pure_ok_iff.mp h).symm⟩)
        exact ⟨by simpa using hl, by simpa using hn, _, d, rfl, hk, hv⟩

lemma commands_of_close (h : p.close = .ok q) : p.commands ⊆ q.commands := by
  rw [Progress.close] at h
  split at h
  · exact Except.ok.inj h ▸ List.Subset.refl _
  · obtain ⟨ps, -, h⟩ := Outcome.bind_ok_iff.mp h
    obtain rfl := Outcome.pure_ok_iff.mp h
    exact List.subset_append_left _ _

lemma commands_of_readAddition (h : readAddition p c = .ok q) : p.commands ⊆ q.commands := by
  rcases readAddition_ok h with ⟨_, -, -, hr⟩ | ⟨_, hr⟩ | ⟨_, hr⟩ <;>
    obtain rfl := Except.ok.inj ((hr p).symm.trans h)
  · exact List.subset_append_left _ _
  · exact List.subset_append_left _ _
  · exact List.Subset.refl _

lemma commands_of_readLine (h : readLine p l = .ok q) : p.commands ⊆ q.commands := by
  rcases readLine_ok h with rfl | ⟨_, _, _, -, -, rfl⟩ | ⟨p', q', hp, rfl, hq⟩
  · exact List.Subset.refl _
  · exact List.Subset.refl _
  · suffices p'.commands ⊆ q'.commands from List.Subset.trans (commands_of_close hp) this
    rcases hq with ⟨s, rfl⟩ | ⟨-, hq⟩
    · exact List.Subset.refl _
    · obtain ⟨d, -, hd⟩ := readStatement_ok hq
      exact commands_of_readAddition (hd p' ▸ hq)

lemma commands_of_run {ls : List LogicalLine} (h : ls.foldlM readLine p = .ok q) :
    p.commands ⊆ q.commands :=
  Outcome.foldlM_preserves (fun r => p.commands ⊆ r.commands)
    (fun _ _ _ _ hs h => List.Subset.trans hs (commands_of_readLine h)) h (List.Subset.refl _)

lemma onLine_of_readValue {v : PropertyValue} (h : readValue c = .ok v) : v.onLine = v := by
  simp only [readValue] at h
  split at h
  · simp only [Cursor.value] at h
    split at h
    · obtain ⟨_, -, h⟩ := Outcome.bind_ok_iff.mp h
      obtain ⟨_, -, h⟩ := Outcome.bind_ok_iff.mp h
      exact Outcome.pure_ok_iff.mp h ▸ rfl
    · obtain ⟨_, -, h⟩ := Outcome.bind_ok_iff.mp h
      obtain ⟨_, -, h⟩ := Outcome.bind_ok_iff.mp h
      exact Outcome.pure_ok_iff.mp h ▸ rfl
    · exact Outcome.pure_ok_iff.mp h ▸ rfl
  · split at h
    · exact Except.ok.inj h ▸ rfl
    · contradiction

lemma Sound.line (hl : ∀ key v, LineSays l key v → P key v) (hp : Sound P p)
    (h : readLine p l = .ok q) : Sound P q := by
  rcases readLine_ok h with rfl | ⟨o, key, v, ho, hs, rfl⟩ | ⟨p', q', hp', rfl, hq⟩
  · exact hp
  · refine ⟨hp.commands, fun o' ho' m hm => ?_⟩
    obtain rfl := Option.some.inj ho'
    rcases List.mem_append.mp hm with hm | hm
    · exact hp.block o ho m hm
    · obtain rfl := List.mem_singleton.mp hm
      obtain ⟨-, -, c, d, -, -, hv⟩ := id hs
      exact ⟨onLine_of_readValue hv, hl key v hs⟩
  · have hp' := hp.close hp'
    suffices Sound P q' from ⟨this.commands, this.block⟩
    rcases hq with ⟨s, rfl⟩ | ⟨-, hq⟩
    · exact ⟨hp'.commands, hp'.block⟩
    obtain ⟨c, -, hc⟩ := readStatement_ok hq
    rw [hc p'] at hq
    rcases readAddition_ok hq with ⟨as, hn, ⟨d, has⟩, hr⟩ | ⟨s, hr⟩ | ⟨s, hr⟩ <;>
      obtain rfl := Except.ok.inj ((hr p').symm.trans hq)
    · exact hp'.add c.line ⟨hn, writableAttributes_of_read has⟩
    · exact hp'.add c.line trivial
    · refine ⟨hp'.commands, fun o ho => ?_⟩
      obtain rfl := Option.some.inj ho
      simp

lemma Sound.run {ls : List LogicalLine} (hl : ∀ l ∈ ls, ∀ key v, LineSays l key v → P key v)
    (hp : Sound P p) (h : ls.foldlM readLine p = .ok q) : Sound P q :=
  Outcome.foldlM_preserves (Sound P) (fun _ l _ hm hs => hs.line (hl l hm)) h hp

lemma readable_of_parse {text : String} {f : Ocafile} (h : parse text = .ok f) :
    ∀ c ∈ f.commands, Readable (fun key _ => key ≠ "") c.action := by
  obtain ⟨p, hp, h⟩ := Outcome.bind_ok_iff.mp h
  obtain ⟨q, hq, h⟩ := Outcome.bind_ok_iff.mp h
  obtain rfl := Outcome.pure_ok_iff.mp h
  have hs : Sound (fun key _ => key ≠ "") p :=
    Sound.run (fun _ _ _ _ hs => hs.2.1) (p := {}) ⟨by simp, by simp⟩ hp
  exact (hs.close hq).commands

end LayeredSchema.Ocafile

import LayeredSchema.Proofs.Ocafile.Builder
import LayeredSchema.Proofs.Ocafile.Joining
import LayeredSchema.Proofs.Ocafile.Reading
import LayeredSchema.Proofs.Ocafile.Slicing.Line
import Mathlib

/-!
Where what is read stands: commands and properties are numbered in their order by the lines that
make them, and an error is in a line of the text. Main result: `parse_positions`.
-/

namespace LayeredSchema

inductive Entry
  | command (action : Action)
  | property (key : String) (value : PropertyValue)

mutual

def Property.entries : Property → List (ℕ × Entry)
  | .mk line key value => (line, .property key value.onLine) :: value.entries

def PropertyValue.entries : PropertyValue → List (ℕ × Entry)
  | .block ps => Property.entriesAll ps
  | _ => []

def Property.entriesAll : List Property → List (ℕ × Entry)
  | [] => []
  | p :: ps => p.entries ++ Property.entriesAll ps

end

namespace Action

def onLine : Action → Action
  | .overlay name _ => .overlay name []
  | a => a

def inner : Action → List Property
  | .overlay _ ps => ps
  | _ => []

end Action

def Command.entries (c : Command) : List (ℕ × Entry) :=
  (c.line, .command c.action.onLine) :: Property.entriesAll c.action.inner

namespace Ocafile

open Text

def entries (f : Ocafile) : List (ℕ × Entry) := f.commands.flatMap Command.entries

/-- A logical line makes a command, and nothing else by itself, or a property. -/
def Makes (l : LogicalLine) : Entry → Prop
  | .command a => l.text.takeWhile isBlank = [] ∧
      (readStatement {} l.content >>= Progress.close).map Progress.commands = .ok [⟨l.number, a⟩]
  | .property key v => LineSays l key v

def Stands (e : ℕ × Entry) (l : LogicalLine) : Prop := e.1 = l.number ∧ Makes l e.2

variable {p q : Progress} {c : Cursor} {e : Error} {k l : LogicalLine} {ks : List LogicalLine}
  {b : BlockLine} {bs : List BlockLine}

def BlockLine.entry (b : BlockLine) : ℕ × Entry := (b.number, .property b.key b.value)

lemma entriesAll_of_properties {ps : List Property} (h : properties bs = .ok ps)
    (hf : ∀ b ∈ bs, b.value.onLine = b.value) :
    Property.entriesAll ps = bs.map BlockLine.entry := by
  induction bs using block_induction generalizing ps with
  | nil =>
    rw [properties] at h
    obtain rfl := Except.ok.inj h
    rfl
  | cons b bs hi ho =>
    obtain ⟨v, rest, hv, -, hr, rfl⟩ := properties_cons_ok_iff.mp h
    have hs := inner_append_outer b bs
    have hfi : ∀ m ∈ b.inner bs, m.value.onLine = m.value := fun m hm =>
      hf m (mem_of_mem_inner hm)
    have hfo : ∀ m ∈ b.outer bs, m.value.onLine = m.value := fun m hm =>
      hf m (mem_of_mem_outer hm)
    have hr := ho hr hfo
    have hb := hf b List.mem_cons_self
    suffices v.onLine = b.value ∧ v.entries = (b.inner bs).map BlockLine.entry by
      rw [Property.entriesAll, Property.entries, hr, this.1, this.2, List.cons_append,
        ← List.map_append, hs]
      rfl
    rcases hv with ⟨hn, rfl⟩ | ⟨-, hv, ws, hws, rfl⟩
    · refine ⟨hb, ?_⟩
      rw [hn]
      cases hv : b.value with
      | block ws =>
        rw [hv] at hb
        contradiction
      | _ => rfl
    · exact ⟨(PropertyValue.isBare_iff.mp hv).symm, hi hws hfi⟩

def AtContent (b : BlockLine) (e : Error) : Prop := e.line = b.number ∧ e.column = b.indent + 1

lemma atContent_of_fail {cause : Cause}
    (h : (b.fail cause : Except Error (List Property)) = .error e) : AtContent b e := by
  obtain rfl := Except.error.inj h
  exact ⟨rfl, rfl⟩

lemma atContent_of_leveled {v : PropertyValue} (h : leveled b v bs = .error e) :
    properties bs = .error e ∨ ∃ m ∈ bs, AtContent m e := by
  cases bs with
  | nil =>
    simp only [leveled, properties] at h
    contradiction
  | cons m ms =>
    simp only [leveled] at h
    split at h
    · exact Or.inr ⟨m, List.mem_cons_self, atContent_of_fail h⟩
    · exact Or.inl (Outcome.map_error_iff.mp h)

lemma atContent_of_properties (h : properties bs = .error e) : ∃ b ∈ bs, AtContent b e := by
  induction bs using block_induction with
  | nil =>
    rw [properties] at h
    contradiction
  | cons b bs ihi iho =>
    have hi (h : properties (b.inner bs) = .error e) : ∃ m ∈ b :: bs, AtContent m e := by
      obtain ⟨m, hm, he⟩ := ihi h
      exact ⟨m, mem_of_mem_inner hm, he⟩
    have ho {v : PropertyValue} (h : leveled b v (b.outer bs) = .error e) :
        ∃ m ∈ b :: bs, AtContent m e := by
      obtain ⟨m, hm, he⟩ := (atContent_of_leveled h).elim iho id
      exact ⟨m, mem_of_mem_outer hm, he⟩
    rw [properties_cons] at h
    cases hb : b.inner bs with
    | nil =>
      rw [hb] at h
      exact ho h
    | cons first rest =>
      rw [hb] at h hi
      dsimp only at h
      split at h
      · cases hp : properties (first :: rest) with
        | error e' =>
          rw [hp] at h
          exact hi (hp.trans h)
        | ok ps =>
          rw [hp] at h
          exact ho h
      · have hf : first ∈ b.inner bs := hb ▸ List.mem_cons_self
        exact ⟨first, mem_of_mem_inner hf, atContent_of_fail h⟩

section Sublists

variable {α β : Type} {R : α → β → Prop} {xs : List α} {ys : List β} {x : α} {y : β}

lemma sublistForall₂_concat (h : List.SublistForall₂ R xs ys) (hr : R x y) :
    List.SublistForall₂ R (xs ++ [x]) (ys ++ [y]) := by
  obtain ⟨zs, hz, hs⟩ := List.sublistForall₂_iff.mp h
  apply List.sublistForall₂_iff.mpr
  exact ⟨zs ++ [y], List.rel_append hz (.cons hr .nil), hs.append (List.Sublist.refl [y])⟩

lemma sublistForall₂_append (h : List.SublistForall₂ R xs ys) (zs : List β) :
    List.SublistForall₂ R xs (ys ++ zs) := by
  obtain ⟨ws, hw, hs⟩ := List.sublistForall₂_iff.mp h
  apply List.sublistForall₂_iff.mpr
  exact ⟨ws, hw, hs.trans (List.sublist_append_left ys zs)⟩

lemma exists_of_sublistForall₂ (h : List.SublistForall₂ R xs ys) (hx : x ∈ xs) :
    ∃ y ∈ ys, R x y := by
  induction h with
  | nil => contradiction
  | @cons _ y _ _ hy _ ih =>
    rcases List.mem_cons.mp hx with rfl | hx
    · exact ⟨y, List.mem_cons_self, hy⟩
    · obtain ⟨z, hz, hr⟩ := ih hx
      exact ⟨z, List.mem_cons_of_mem y hz, hr⟩
  | @cons_right y _ _ _ ih =>
    obtain ⟨z, hz, hr⟩ := ih hx
    exact ⟨z, List.mem_cons_of_mem y hz, hr⟩

end Sublists

def BlockLine.From (b : BlockLine) (ks : List LogicalLine) : Prop :=
  b.value.onLine = b.value ∧ ∃ k ∈ ks, b.number = k.number ∧ b.indent ≤ byteLength k.text

lemma BlockLine.From.append (h : b.From ks) (ls : List LogicalLine) : b.From (ks ++ ls) := by
  obtain ⟨hv, k, hk, hb⟩ := h
  exact ⟨hv, k, List.mem_append_left ls hk, hb⟩

lemma from_of_lineSays {key : String} {v : PropertyValue} (h : LineSays l key v) :
    BlockLine.From ⟨l.number, byteLength (l.text.takeWhile isBlank), key, v⟩ (ks ++ [l]) := by
  obtain ⟨-, -, c, d, -, -, hv⟩ := h
  have hi := byteLength_takeWhile_le isBlank l.text
  exact ⟨onLine_of_readValue hv, l, List.mem_append_right ks (List.mem_singleton_self l), rfl, hi⟩

def Progress.entries (p : Progress) : List (ℕ × Entry) :=
  p.commands.flatMap Command.entries ++ p.overlay.elim [] fun o =>
    (o.line, .command (.overlay o.name [])) :: o.block.map BlockLine.entry

structure Recorded (ks : List LogicalLine) (p : Progress) : Prop where
  entries : List.SublistForall₂ Stands p.entries ks
  block : ∀ o, p.overlay = some o → ∀ b ∈ o.block, b.From ks

lemma recorded_start : Recorded [] {} := ⟨.nil, nofun⟩

lemma Recorded.close (hp : Recorded ks p) (h : p.close = .ok q) :
    q.entries = p.entries ∧ q.overlay = none := by
  rw [Progress.close] at h
  cases ho : p.overlay with
  | none =>
    rw [ho] at h
    obtain rfl := Except.ok.inj h
    exact ⟨rfl, ho⟩
  | some o =>
    simp only [ho, Outcome.bind_ok_iff, Outcome.pure_ok_iff] at h
    obtain ⟨ps, hps, rfl⟩ := h
    have he := entriesAll_of_properties hps fun b hb => (hp.block o ho b hb).1
    refine ⟨?_, rfl⟩
    simp only [Progress.entries, Progress.add, ho, Option.elim, List.flatMap_append,
      List.flatMap_singleton, List.append_nil]
    rw [Command.entries, Action.inner, he]
    rfl

lemma Recorded.inLine (hp : Recorded ks p) (h : p.close = .error e) : ∃ k ∈ ks, InLine k e := by
  rw [Progress.close] at h
  cases ho : p.overlay with
  | none =>
    rw [ho] at h
    contradiction
  | some o =>
    rw [ho] at h
    obtain ⟨b, hb, hl, hc⟩ := atContent_of_properties (Outcome.map_error_iff.mp h)
    obtain ⟨-, k, hk, hn, hi⟩ := hp.block o ho b hb
    refine ⟨k, hk, hl.trans hn, ?_, ?_⟩
    · rw [hc]
      exact Nat.le_add_left 1 b.indent
    · rw [hc, Nat.add_comm]
      exact Nat.add_le_add_left hi 1

lemma entries_add {n : ℕ} {a : Action} (ho : p.overlay = none) (ha : a.inner = []) :
    (p.add n a).entries = p.entries ++ [(n, .command a.onLine)] := by
  simp only [Progress.entries, Progress.add, ho, Option.elim, List.flatMap_append,
    List.flatMap_singleton, List.append_nil]
  rw [Command.entries, ha]
  rfl

lemma entries_overlay {n : ℕ} {s : String} (ho : p.overlay = none) :
    Progress.entries { p with overlay := some ⟨n, s, []⟩ } =
      p.entries ++ [(n, .command (.overlay s []))] := by
  simp only [Progress.entries, ho, Option.elim, List.append_nil, List.map_nil]

lemma readStatement_cases (h : readStatement p l.content = .ok q) :
    (∃ a : Action, a.onLine = a ∧ a.inner = [] ∧
      ∀ r, readStatement r l.content = .ok (r.add l.number a)) ∨
    ∃ s, ∀ r, readStatement r l.content =
      .ok { r with overlay := some ⟨l.number, s, []⟩ } := by
  obtain ⟨c, hc, hs⟩ := readStatement_ok h
  have hn : c.line = l.number := hc
  rw [hs] at h
  rcases readAddition_ok h with ⟨as, -, -, hr⟩ | ⟨s, hr⟩ | ⟨s, hr⟩
  · exact Or.inl ⟨.attributes as, rfl, rfl, fun r => by rw [hs, hr, hn]⟩
  · exact Or.inl ⟨.classification s, rfl, rfl, fun r => by rw [hs, hr, hn]⟩
  · exact Or.inr ⟨s, fun r => by rw [hs, hr, hn]⟩

lemma makes_of_readStatement (ho : p.overlay = none) (hb : l.text.takeWhile isBlank = [])
    (h : readStatement p l.content = .ok q) :
    (∃ a, Makes l (.command a) ∧ q.entries = p.entries ++ [(l.number, .command a)]) ∧
      ∀ o, q.overlay = some o → o.block = [] := by
  rcases readStatement_cases h with ⟨a, ha, hi, hr⟩ | ⟨s, hr⟩ <;>
    obtain rfl := Except.ok.inj ((hr p).symm.trans h)
  · refine ⟨⟨a, ⟨hb, ?_⟩, ?_⟩, fun o hq => ?_⟩
    · rw [hr]
      rfl
    · rw [entries_add ho hi, ha]
    · rw [Progress.add, ho] at hq
      contradiction
  · refine ⟨⟨.overlay s [], ⟨hb, ?_⟩, entries_overlay ho⟩, fun o hq => ?_⟩
    · rw [hr]
      simp only [bind, Except.bind, Progress.close, properties]
      rfl
    · exact Option.some.inj hq ▸ rfl

lemma Recorded.line (hp : Recorded ks p) (h : readLine p l = .ok q) : Recorded (ks ++ [l]) q := by
  rcases readLine_ok h with rfl | ⟨o, key, v, ho, hs, rfl⟩ | ⟨p', q', hp', rfl, hq⟩
  · exact ⟨sublistForall₂_append hp.entries [l], fun o ho b hb => (hp.block o ho b hb).append [l]⟩
  · have he : Stands (l.number, .property key v) l := ⟨rfl, hs⟩
    refine ⟨?_, fun o' ho' b hb => ?_⟩
    · simpa [Progress.entries, ho, BlockLine.entry] using sublistForall₂_concat hp.entries he
    · obtain rfl := Option.some.inj ho'
      rcases List.mem_append.mp hb with hb | hb
      · exact (hp.block o ho b hb).append [l]
      · obtain rfl := List.mem_singleton.mp hb
        exact from_of_lineSays hs
  · obtain ⟨he, ho⟩ := hp.close hp'
    have hp := he ▸ hp.entries
    rcases hq with ⟨s, rfl⟩ | ⟨hb, hq⟩
    · have hs : List.SublistForall₂ Stands p'.entries (ks ++ [l]) := sublistForall₂_append hp [l]
      refine ⟨hs, fun o hq => ?_⟩
      exact absurd (ho.symm.trans hq) (Option.some_ne_none o).symm
    · obtain ⟨⟨a, ha, hqe⟩, hn⟩ := makes_of_readStatement ho hb hq
      have hs : Stands (l.number, .command a) l := ⟨rfl, ha⟩
      refine ⟨?_, fun o hq b hb => ?_⟩
      · have hc := sublistForall₂_concat hp hs
        rwa [← hqe] at hc
      · rw [hn o hq] at hb
        contradiction

lemma Recorded.run {ls : List LogicalLine} (hp : Recorded ks p)
    (h : ls.foldlM readLine p = .ok q) : Recorded (ks ++ ls) q := by
  induction ls generalizing ks p with
  | nil =>
    obtain rfl := Outcome.pure_ok_iff.mp h
    rwa [List.append_nil]
  | cons l ls ih =>
    obtain ⟨r, hr, h⟩ := Outcome.bind_ok_iff.mp h
    have hq := ih (hp.line hr) h
    rwa [List.append_assoc] at hq

lemma slicedLines_shows {ls : List LogicalLine} (hp : Recorded ks p) :
    Shows (fun e => ∃ k ∈ ks ++ ls, InLine k e) (· = ·) (ls.foldlM slicedLine p)
      (ls.foldlM readLine p) := by
  induction ls generalizing ks p with
  | nil => exact .ok rfl
  | cons l ls ih =>
    have hl : Shows (fun e => ∃ k ∈ ks ++ l :: ls, InLine k e) (· = ·) (slicedLine p l)
        (readLine p l) := by
      refine (slicedLine_shows p l).mono (fun e he => ?_) fun _ _ h => h
      rcases he with he | he
      · exact ⟨l, by simp, he⟩
      · obtain ⟨k, hk, he⟩ := hp.inLine he
        exact ⟨k, List.mem_append_left _ hk, he⟩
    rw [List.foldlM_cons, List.foldlM_cons]
    refine hl.bind_of ?_
    rintro q _ hq rfl
    have hi := ih (hp.line hq)
    rwa [List.append_assoc] at hi

lemma sliced_shows (text : List Char) :
    Shows (fun e => ∃ k ∈ logicalLines text, InLine k e) (· = ·) (sliced text)
      (parseChars text) := by
  refine (slicedLines_shows recorded_start).bind_of ?_
  rintro p _ hp rfl
  refine Shows.bind ((close_shows p).mono (fun e he => ?_) fun _ _ h => h) ?_
  · exact (recorded_start.run hp).inLine he
  · rintro q _ rfl
    exact .ok rfl

lemma stands_of_parseChars {text : List Char} {f : Ocafile} (h : parseChars text = .ok f) :
    List.SublistForall₂ Stands f.entries (logicalLines text) := by
  obtain ⟨p, hp, h⟩ := Outcome.bind_ok_iff.mp h
  obtain ⟨q, hq, h⟩ := Outcome.bind_ok_iff.mp h
  obtain rfl := Outcome.pure_ok_iff.mp h
  have hr := recorded_start.run hp
  obtain ⟨he, ho⟩ := hr.close hq
  have hs := hr.entries
  rw [← he, Progress.entries, ho, Option.elim, List.append_nil] at hs
  exact hs

lemma pairwise_of_stands {xs : List (ℕ × Entry)} {text : List Char}
    (h : List.SublistForall₂ Stands xs (logicalLines text)) :
    (xs.map Prod.fst).Pairwise (· < ·) := by
  obtain ⟨ls, hl, hs⟩ := List.sublistForall₂_iff.mp h
  have he : xs.map Prod.fst = ls.map LogicalLine.number := by
    clear h hs
    induction hl with
    | nil => rfl
    | cons hx _ ih => rw [List.map_cons, List.map_cons, hx.1, ih]
  rw [he]
  exact (logicalLines_numbers text).sublist (hs.map _)

/-- For every text: the commands of a file that is read from it, with the properties under each,
are in the order of the lines that they start on, each numbered by the line that makes it; an error
is in a logical line, whose number it has; and no cut is made inside a character. -/
theorem parse_positions (text : String) :
    (∀ f, parse text = .ok f → (f.entries.map Prod.fst).Pairwise (· < ·) ∧
      ∀ x ∈ f.entries, ∃ k, StartsFrom 1 false (lines text.toList) k ∧ Stands x k) ∧
    (∀ e, parse text = .error e →
      ∃ k, StartsFrom 1 false (lines text.toList) k ∧ InLine k e) ∧
    sliced text.toList = some (parse text) := by
  obtain ⟨hs, he⟩ := (sliced_shows text.toList).eq
  refine ⟨fun f hf => ⟨?_, fun x hx => ?_⟩, fun e h => ?_, hs⟩
  · exact pairwise_of_stands (stands_of_parseChars hf)
  · obtain ⟨k, hk, hx⟩ := exists_of_sublistForall₂ (stands_of_parseChars hf) hx
    exact ⟨k, mem_logicalLines_iff.mp hk, hx⟩
  · obtain ⟨k, hk, hi⟩ := he e h
    exact ⟨k, mem_logicalLines_iff.mp hk, hi⟩

def numberedText : String :=
  "# é\nADD CLASSIFICATION \\\n GICS\nADD OVERLAY Étiquette\n  clé\n    é=\"x\" \\\n\n  z\n"

/-- A value with a letter after it, which is the eleventh character of its line, at byte twelve. -/
def faultyText : String := "ADD OVERLAY Étiquette\n  clé=\"x\" é\n"

theorem parse_positions_accented :
    (∃ f, parse numberedText = .ok f ∧ f.entries.map Prod.fst = [2, 4, 5, 6, 8] ∧
      ∀ x ∈ f.entries, ∃ k, StartsFrom 1 false (lines numberedText.toList) k ∧ Stands x k) ∧
    ∃ k, StartsFrom 1 false (lines faultyText.toList) k ∧
      InLine k ⟨2, 11, .trailingCharacters⟩ := by
  have hn : (parse numberedText).toOption.map (fun f => f.entries.map Prod.fst) =
      some [2, 4, 5, 6, 8] := by
    rw [parse, Text.toList_of_eq_ofList (s := numberedText) rfl]
    decide +kernel
  have he : (parse faultyText).map (fun f => f.entries.length) =
      .error ⟨2, 11, .trailingCharacters⟩ := by
    rw [parse, Text.toList_of_eq_ofList (s := faultyText) rfl]
    decide +kernel
  refine ⟨?_, ?_⟩
  · obtain ⟨f, hp, hn⟩ := Option.map_eq_some_iff.mp hn
    have hp := Outcome.toOption_eq_some_iff.mp hp
    exact ⟨f, hp, hn, ((parse_positions numberedText).1 f hp).2⟩
  · exact (parse_positions faultyText).2.1 _ (Outcome.map_error_iff.mp he)

end Ocafile

end LayeredSchema

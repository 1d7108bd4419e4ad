import LayeredSchema.Proofs.Format.Positional
import LayeredSchema.Proofs.Text.Blank
import Mathlib.Tactic.Common

/-!
Values of the form of a pattern, read along its time format: white space and signs do not shift what
is read, so every field gets the number at its place. Main statements: `read?_of_reads` and
`isSome_gather_iff`.
-/

namespace LayeredSchema.DatePattern

open Text TimeFormat

variable {items : List DateItem} {cs vs : List Char} {rs acc out : Readings} {f g : DateField}
  {c : Char} {n : ℤ}

/-! ### The format -/

def formatPart : DateItem → TimeFormat.Part
  | .field f => .field f
  | .literal c => if isBlank c then .blank else .literal c

lemma parts?_append (item : DateItem) (cs : List Char) :
    parts? (formatChars item ++ cs) = (parts? cs).map (formatPart item :: ·) := by
  have hm (x : Option (List TimeFormat.Part)) (p : TimeFormat.Part) :
      (do return p :: (← x)) = x.map (p :: ·) := by cases x <;> rfl
  cases item with
  | field f =>
    have hf : conversion? f.letter = some (.field f) := by cases f <;> decide
    rw [formatChars, List.cons_append, List.cons_append, List.nil_append, parts?, hf]
    exact hm _ _
  | literal c =>
    rw [formatChars]
    split_ifs with hc
    · subst hc
      exact hm _ _
    · rw [List.singleton_append, parts?.eq_4 c cs (by simp [hc]) (by simp [hc])]
      exact hm _ _

lemma parts?_format (items : List DateItem) :
    parts? (items.flatMap formatChars) = some (items.map formatPart) := by
  induction items with
  | nil => rfl
  | cons item items ih => rw [List.flatMap_cons, parts?_append, ih, Option.map_some, List.map_cons]

/-! ### Reading along the format -/

lemma digits?_append {digits : List Char} {k : ℕ} (hl : digits.length = k) (hk : 0 < k)
    (hd : ∀ d ∈ digits, d.isDigit = true) (cs : List Char) :
    digits? (some k) (digits ++ cs) = some ((digitsValue digits : ℤ), cs) := by
  have ht : (digits ++ cs).take k = digits := List.take_left' hl
  have hw : digits.takeWhile Char.isDigit = digits := List.takeWhile_eq_self_iff.mpr hd
  have hn : digits ≠ [] := List.ne_nil_of_length_pos (hl ▸ hk)
  rw [digits?, Option.elim_some, ht, hw]
  split
  · exact absurd rfl hn
  · rw [List.drop_left]

lemma number?_digits {digits : List Char} (hl : digits.length = f.width)
    (hd : ∀ d ∈ digits, d.isDigit = true) (cs : List Char) :
    number? f (trimLeft (digits ++ cs)) = some ((digitsValue digits : ℤ), cs) := by
  have hk : 0 < f.width := by cases f <;> decide
  have hr := digits?_append hl hk hd cs
  cases digits with
  | nil => exact absurd hl (Nat.ne_of_lt hk)
  | cons d ds =>
    have hd := hd d List.mem_cons_self
    rw [List.cons_append, trimLeft_cons (isBlank_of_isDigit hd)]
    unfold number?
    -- a digit is no sign
    split
    · rename_i he
      rw [(List.cons.inj he).1] at hd
      exact absurd hd (by decide)
    · rename_i he
      rw [(List.cons.inj he).1] at hd
      exact absurd hd (by decide)
    · exact hr

lemma readParts?_trimLeft (h : Reads items vs rs) :
    readParts? acc (items.map formatPart) (trimLeft vs) =
      readParts? acc (items.map formatPart) vs := by
  cases h with
  | nil => rfl
  | literal c _ =>
    rw [List.map_cons, formatPart]
    split_ifs with hc
    · rw [readParts?, readParts?, trimLeft_trimLeft]
    · rw [trimLeft_cons (Bool.eq_false_iff.mpr hc)]
  | field f _ _ _ => rw [List.map_cons, formatPart, readParts?, readParts?, trimLeft_trimLeft]

def gather (acc rs : Readings) : Option Readings := rs.foldlM (fun acc r => acc.set? r.1 r.2) acc

lemma readParts?_of_reads (h : Reads items vs rs) :
    readParts? acc (items.map formatPart) vs = gather acc rs := by
  induction h generalizing acc with
  | nil => rfl
  | @literal c _ cs _ h ih =>
    rw [List.map_cons, formatPart]
    split_ifs with hc
    · have ht : trimLeft (c :: cs) = trimLeft cs := List.dropWhile_cons_of_pos hc
      rw [readParts?, ht, readParts?_trimLeft h, ih]
    · rw [readParts?, if_pos rfl, ih]
  | field f hl hd _ ih =>
    rw [List.map_cons, formatPart, readParts?, number?_digits hl hd]
    dsimp only [Option.bind_eq_bind, Option.bind_some]
    simp only [ih]
    rfl

lemma read?_of_reads (h : Reads items vs rs) :
    read? (items.flatMap formatChars) vs = gather [] rs := by
  rw [read?, parts?_format]
  exact readParts?_of_reads h

/-! ### Readings that go together -/

lemma set?_eq_some_iff : acc.set? f n = some out ↔ f.admits n = true ∧
    (acc.lookup f = none ∧ out = (f, n) :: acc ∨ acc.lookup f = some n ∧ out = acc) := by
  rw [Readings.set?, Option.ite_none_right_eq_some]
  refine and_congr_right fun _ => ?_
  cases acc.lookup f with
  | none => simp [@eq_comm _ out]
  | some m => simp [@eq_comm _ out]

lemma lookup_of_set? (h : acc.set? f n = some out) (rs : Readings) (g : DateField) :
    (out ++ rs).lookup g = (acc ++ (f, n) :: rs).lookup g := by
  obtain ⟨-, ⟨ha, rfl⟩ | ⟨ha, rfl⟩⟩ := set?_eq_some_iff.mp h
  · rw [List.cons_append, List.lookup_append, List.lookup_cons, List.lookup_cons,
      List.lookup_append]
    by_cases hg : g = f
    · simp [hg, ha]
    · simp [beq_false_of_ne hg]
  · rw [List.lookup_append, List.lookup_append, List.lookup_cons]
    by_cases hg : g = f
    · simp [hg, ha]
    · simp [beq_false_of_ne hg]

lemma isSome_set?_iff : (acc.set? f n).isSome = true ↔
    f.admits n = true ∧ (acc ++ (f, n) :: rs).lookup f = some n := by
  rw [List.lookup_append, List.lookup_cons_self, Option.isSome_iff_exists]
  simp only [set?_eq_some_iff, exists_and_left]
  refine and_congr_right fun _ => ?_
  cases acc.lookup f with
  | none => simp
  | some m => simp

lemma gather_cons (acc rs : Readings) (f : DateField) (n : ℤ) :
    gather acc ((f, n) :: rs) = acc.set? f n >>= fun acc => gather acc rs := List.foldlM_cons

lemma lookup_of_gather (h : gather acc rs = some out) (g : DateField) :
    out.lookup g = (acc ++ rs).lookup g := by
  induction rs generalizing acc with
  | nil =>
    obtain rfl := Option.some.inj h
    rw [List.append_nil]
  | cons r rs ih =>
    obtain ⟨f, n⟩ := r
    obtain ⟨mid, hm, h⟩ := Option.bind_eq_some_iff.mp (gather_cons acc rs f n ▸ h)
    rw [ih h, lookup_of_set? hm]

lemma isSome_gather_iff : (gather acc rs).isSome = true ↔
    ∀ r ∈ rs, r.1.admits r.2 = true ∧ (acc ++ rs).lookup r.1 = some r.2 := by
  induction rs generalizing acc with
  | nil => simp [gather]
  | cons r rs ih =>
    obtain ⟨f, n⟩ := r
    rw [gather_cons, List.forall_mem_cons, ← isSome_set?_iff]
    cases hs : acc.set? f n with
    | none => simp
    | some mid =>
      simp only [← lookup_of_set? hs, ← ih]
      simp

end LayeredSchema.DatePattern

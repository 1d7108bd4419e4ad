import LayeredSchema.Format.DatePattern
import Mathlib.Data.Int.Notation
import Mathlib.Data.List.Count
import Mathlib.Data.List.Nodup
import Mathlib.Tactic.Common

/-!
Values place by place: at the places of fields there are digits, elsewhere there are the characters
of the pattern. Main statement: `hasForm_iff`.
-/

namespace LayeredSchema.DatePattern

open Text

variable {items : List DateItem} {cs ps vs : List Char} {ts : List Bool} {rs : Readings}
  {f : DateField} {c : Char}

/-! ### Readings by place -/

inductive Reads : List DateItem → List Char → Readings → Prop
  | nil : Reads [] [] []
  | literal (c : Char) {items : List DateItem} {cs : List Char} {rs : Readings}
      (behind : Reads items cs rs) : Reads (.literal c :: items) (c :: cs) rs
  | field (f : DateField) {digits : List Char} {items : List DateItem} {cs : List Char}
      {rs : Readings} (length_eq : digits.length = f.width)
      (isDigit : ∀ d ∈ digits, d.isDigit = true) (behind : Reads items cs rs) :
      Reads (.field f :: items) (digits ++ cs) ((f, (digitsValue digits : ℤ)) :: rs)

lemma exists_reads_nil : (∃ rs, Reads [] vs rs) ↔ vs = [] := by
  constructor
  · rintro ⟨_, ⟨⟩⟩
    rfl
  · rintro rfl
    exact ⟨[], .nil⟩

lemma exists_reads_literal : (∃ rs, Reads (.literal c :: items) vs rs) ↔
    ∃ cs, vs = c :: cs ∧ ∃ rs, Reads items cs rs := by
  constructor
  · rintro ⟨rs, h⟩
    cases h with
    | literal _ h => exact ⟨_, rfl, rs, h⟩
  · rintro ⟨cs, rfl, rs, h⟩
    exact ⟨rs, .literal c h⟩

lemma exists_reads_field : (∃ rs, Reads (.field f :: items) vs rs) ↔
    ∃ digits cs, vs = digits ++ cs ∧ digits.length = f.width ∧
      (∀ d ∈ digits, d.isDigit = true) ∧ ∃ rs, Reads items cs rs := by
  constructor
  · rintro ⟨_, h⟩
    cases h with
    | field _ hl hd h => exact ⟨_, _, rfl, hl, hd, _, h⟩
  · rintro ⟨digits, cs, rfl, hl, hd, rs, h⟩
    exact ⟨_, .field f hl hd h⟩

def placeOf? (f : DateField) : List DateItem → Option ℕ
  | [] => none
  | .field g :: items => if f = g then some 0 else (placeOf? f items).map (g.width + ·)
  | .literal _ :: items => (placeOf? f items).map (1 + ·)

def numberAt? (f : DateField) (items : List DateItem) (value : List Char) : Option ℕ :=
  (placeOf? f items).map fun i => digitsValue ((value.drop i).take f.width)

lemma Reads.lookup_eq (h : Reads items vs rs) (f : DateField) :
    rs.lookup f = (numberAt? f items vs).map Int.ofNat := by
  unfold numberAt?
  induction h with
  | nil => rfl
  | literal c _ ih =>
    rw [ih, placeOf?, Option.map_map, Option.map_map, Option.map_map]
    simp only [Function.comp_def, Nat.add_comm 1, List.drop_succ_cons]
  | @field g digits _ _ _ hl _ _ ih =>
    rw [List.lookup_cons, placeOf?]
    by_cases hf : f = g
    · subst hf
      simp [List.take_left' hl]
    · rw [beq_false_of_ne hf, if_neg hf, ih, Option.map_map, Option.map_map, Option.map_map]
      refine congrArg (Option.map · _) (funext fun i => ?_)
      rw [Function.comp_apply, Function.comp_apply, Function.comp_apply, ← hl,
        List.drop_length_add_append]

lemma Reads.count_eq (h : Reads items vs rs) (f : DateField) :
    (rs.map (·.1)).count f = items.count (.field f) := by
  induction h with
  | nil => rfl
  | literal c _ ih => rw [ih, List.count_cons_of_ne DateItem.noConfusion]
  | field g _ _ _ ih => simp [List.count_cons, ih]

/-! ### Places of fields -/

def fieldPlaces : List DateItem → List Bool
  | [] => []
  | .field f :: items => List.replicate f.width true ++ fieldPlaces items
  | .literal _ :: items => false :: fieldPlaces items

structure IsPlaced (ts : List Bool) (pattern value : List Char) : Prop where
  length_eq : value.length = pattern.length
  digit : ∀ i : ℕ, ts[i]? = some true → ∃ d : Char, value[i]? = some d ∧ d.isDigit = true
  own : ∀ i : ℕ, ts[i]? ≠ some true → value[i]? = pattern[i]?

/-- The value has as many characters as the pattern, digits in the places of fields, and the
characters of the pattern elsewhere. -/
def HasForm (pattern value : List Char) : Prop :=
  IsPlaced (fieldPlaces (itemsOf pattern)) pattern value

lemma isPlaced_iff_bounded : IsPlaced ts ps vs ↔ vs.length = ps.length ∧
    (∀ i < ts.length, ts[i]? = some true → vs[i]?.any Char.isDigit = true) ∧
      ∀ i < ps.length, ts[i]? ≠ some true → vs[i]? = ps[i]? := by
  simp only [Option.any_eq_true]
  constructor
  · exact fun h => ⟨h.length_eq, fun i _ => h.digit i, fun i _ => h.own i⟩
  · rintro ⟨hl, hd, ho⟩
    refine ⟨hl, fun i hi => hd i (List.getElem?_eq_some_iff.mp hi).1 hi, fun i hi => ?_⟩
    by_cases hp : i < ps.length
    · exact ho i hp hi
    · rw [List.getElem?_eq_none (by omega), List.getElem?_eq_none (by omega)]

instance (pattern value : List Char) : Decidable (HasForm pattern value) :=
  decidable_of_iff _ isPlaced_iff_bounded.symm

lemma isPlaced_nil : IsPlaced [] [] vs ↔ vs = [] := by
  constructor
  · exact fun h => List.eq_nil_of_length_eq_zero h.length_eq
  · rintro rfl
    exact ⟨rfl, by simp, by simp⟩

lemma isPlaced_digit : IsPlaced (true :: ts) (c :: ps) vs ↔
    ∃ d ds, vs = d :: ds ∧ d.isDigit = true ∧ IsPlaced ts ps ds := by
  constructor
  · intro h
    obtain ⟨d, hd, hdig⟩ := h.digit 0 rfl
    cases vs with
    | nil => contradiction
    | cons e ds =>
      obtain rfl := Option.some.inj hd
      exact ⟨e, ds, rfl, hdig, Nat.succ.inj h.length_eq, fun i => h.digit (i + 1),
        fun i => h.own (i + 1)⟩
  · rintro ⟨d, ds, rfl, hd, h⟩
    refine ⟨congrArg Nat.succ h.length_eq, fun i hi => ?_, fun i hi => ?_⟩
    · cases i with
      | zero => exact ⟨d, rfl, hd⟩
      | succ i => exact h.digit i hi
    · cases i with
      | zero => exact absurd rfl hi
      | succ i => exact h.own i hi

lemma isPlaced_own : IsPlaced (false :: ts) (c :: ps) vs ↔
    ∃ ds, vs = c :: ds ∧ IsPlaced ts ps ds := by
  constructor
  · intro h
    have hc := h.own 0 (by simp)
    cases vs with
    | nil => contradiction
    | cons e ds =>
      obtain rfl := Option.some.inj hc
      exact ⟨ds, rfl, Nat.succ.inj h.length_eq, fun i => h.digit (i + 1), fun i => h.own (i + 1)⟩
  · rintro ⟨ds, rfl, h⟩
    refine ⟨congrArg Nat.succ h.length_eq, fun i hi => ?_, fun i hi => ?_⟩
    · cases i with
      | zero => exact Bool.noConfusion (Option.some.inj hi)
      | succ i => exact h.digit i hi
    · cases i with
      | zero => rfl
      | succ i => exact h.own i hi

lemma isPlaced_digits {token : List Char} :
    IsPlaced (List.replicate token.length true ++ ts) (token ++ ps) vs ↔
      ∃ digits ds, vs = digits ++ ds ∧ digits.length = token.length ∧
        (∀ d ∈ digits, d.isDigit = true) ∧ IsPlaced ts ps ds := by
  induction token generalizing vs with
  | nil =>
    constructor
    · exact fun h => ⟨[], vs, rfl, rfl, by simp, h⟩
    · rintro ⟨digits, ds, rfl, hl, -, h⟩
      obtain rfl := List.eq_nil_of_length_eq_zero hl
      exact h
  | cons c token ih =>
    rw [List.length_cons, List.replicate_succ, List.cons_append, List.cons_append, isPlaced_digit]
    constructor
    · rintro ⟨d, _, rfl, hd, h⟩
      obtain ⟨digits, ds, rfl, hl, hds, h⟩ := ih.mp h
      exact ⟨d :: digits, ds, rfl, congrArg Nat.succ hl, List.forall_mem_cons.mpr ⟨hd, hds⟩, h⟩
    · rintro ⟨digits, ds, rfl, hl, hds, h⟩
      cases digits with
      | nil => contradiction
      | cons d digits =>
        obtain ⟨hd, hds⟩ := List.forall_mem_cons.mp hds
        exact ⟨d, digits ++ ds, rfl, hd, ih.mpr ⟨digits, ds, rfl, Nat.succ.inj hl, hds, h⟩⟩

inductive Spells : List DateItem → List Char → Prop
  | nil : Spells [] []
  | literal (c : Char) {items : List DateItem} {cs : List Char} (behind : Spells items cs) :
      Spells (.literal c :: items) (c :: cs)
  | field (f : DateField) (token : List Char) {items : List DateItem} {cs : List Char}
      (length_eq : token.length = f.width) (behind : Spells items cs) :
      Spells (.field f :: items) (token ++ cs)

lemma spells_itemsOf (cs : List Char) : Spells (itemsOf cs) cs := by
  fun_induction itemsOf cs with
  | case1 cs ih => exact .field .year ['Y', 'Y', 'Y', 'Y'] rfl ih
  | case2 cs _ ih => exact .field .yearOfCentury ['Y', 'Y'] rfl ih
  | case3 cs ih => exact .field .month ['M', 'M'] rfl ih
  | case4 cs ih => exact .field .day ['D', 'D'] rfl ih
  | case5 cs ih => exact .field .hour ['h', 'h'] rfl ih
  | case6 cs ih => exact .field .hour ['H', 'H'] rfl ih
  | case7 cs ih => exact .field .minute ['m', 'm'] rfl ih
  | case8 cs ih => exact .field .second ['s', 's'] rfl ih
  | case9 c cs _ _ _ _ _ _ _ _ ih => exact .literal c ih
  | case10 => exact .nil

lemma Spells.isPlaced_iff (h : Spells items ps) :
    IsPlaced (fieldPlaces items) ps vs ↔ ∃ rs, Reads items vs rs := by
  induction h generalizing vs with
  | nil => rw [fieldPlaces, isPlaced_nil, exists_reads_nil]
  | literal c _ ih => simp only [fieldPlaces, isPlaced_own, exists_reads_literal, ih]
  | field f token hl _ ih =>
    rw [fieldPlaces, ← hl, isPlaced_digits, exists_reads_field]
    simp only [hl, ih]

lemma hasForm_iff : HasForm ps vs ↔ ∃ rs, Reads (itemsOf ps) vs rs :=
  (spells_itemsOf ps).isPlaced_iff

end LayeredSchema.DatePattern

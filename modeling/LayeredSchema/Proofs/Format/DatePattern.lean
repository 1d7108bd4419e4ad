import LayeredSchema.Proofs.Format.ShapeSize
import LayeredSchema.Proofs.Format.TimeFormat

/-!
Which values a date pattern admits. The expression and the time format that it is written out as
agree with a reading of the value place by place: a value has the form of the pattern, and with one
full date in the pattern it is admitted just when that date exists and the time of day is in range.
Main statement: `admits_positional`.
-/

namespace LayeredSchema

namespace Calendar

lemma daysInMonth_le (year month : ℤ) : daysInMonth year month ≤ 31 := by
  unfold daysInMonth
  split
  -- February
  case h_12 => split_ifs <;> decide
  all_goals decide

lemma month_of_daysInMonth {year month : ℤ} (h : 0 < daysInMonth year month) :
    1 ≤ month ∧ month ≤ 12 := by
  unfold daysInMonth at h
  split at h
  -- no month
  case h_13 => contradiction
  all_goals decide

lemma isDate_iff {year month day : ℕ} (hy : year < 10 ^ 4) :
    isDate year month day = true ↔
      (1 ≤ month ∧ month ≤ 12) ∧ 1 ≤ day ∧ day ≤ daysInMonth year month := by
  unfold isDate firstYear lastYear
  simp only [Bool.and_eq_true, decide_eq_true_iff]
  constructor
  · rintro ⟨⟨-, hd⟩, hm⟩
    have := month_of_daysInMonth (Int.lt_of_lt_of_le Int.zero_lt_one (hd.trans hm))
    omega
  · rintro ⟨-, hd, hm⟩
    omega

end Calendar

namespace DatePattern

open Text Calendar

variable {items : List DateItem} {cs ps vs : List Char} {rs out : Readings} {f : DateField} {n : ℤ}
  {p v : String}

lemma admits_iff : (parse p).admits v = true ↔ (parse p).shape.isSome = true ∧
    ∃ rs, Reads (itemsOf p.toList) v.toList rs ∧
      ∃ out, gather [] rs = some out ∧ (parse p).isSatisfied out = true := by
  have hr {rs : Readings} (h : Reads (itemsOf p.toList) v.toList rs) :
      TimeFormat.read? (parse p).timeFormat.toList v.toList = gather [] rs := by
    rw [← read?_of_reads h, parse, String.toList_ofList]
  rw [admits, Bool.and_eq_true]
  constructor
  · rintro ⟨hs, ht⟩
    obtain ⟨hs, rs, h⟩ := shape_finds_iff.mp hs
    rw [hr h] at ht
    obtain ⟨out, hg, ho⟩ := (Option.any_eq_true _ _).mp ht
    exact ⟨hs, rs, h, out, hg, ho⟩
  · rintro ⟨hs, rs, h, out, hg, ho⟩
    refine ⟨shape_finds_iff.mpr ⟨hs, rs, h⟩, ?_⟩
    rw [hr h, hg]
    exact ho

/-! ### Patterns with one full date -/

/-- A pattern has one year in full, one month and one day, and a time of day in part or none. -/
structure IsSingleDate (items : List DateItem) : Prop where
  year : items.count (.field .year) = 1
  month : items.count (.field .month) = 1
  day : items.count (.field .day) = 1
  yearOfCentury : items.count (.field .yearOfCentury) = 0
  hour : items.count (.field .hour) ≤ 1
  minute : items.count (.field .minute) ≤ 1
  second : items.count (.field .second) ≤ 1

/-- What stands in the fields of a value is a date that exists, and a time of day. -/
structure IsMoment (items : List DateItem) (value : List Char) : Prop where
  date : ∃ year month day : ℕ, numberAt? .year items value = some year ∧
    numberAt? .month items value = some month ∧ numberAt? .day items value = some day ∧
      (1 ≤ month ∧ month ≤ 12) ∧ 1 ≤ day ∧ day ≤ Calendar.daysInMonth year month
  hour : ∀ h ∈ numberAt? .hour items value, h ≤ 23
  minute : ∀ m ∈ numberAt? .minute items value, m ≤ 59
  second : ∀ s ∈ numberAt? .second items value, s ≤ 60

lemma IsSingleDate.count_le (h : IsSingleDate items) (f : DateField) :
    items.count (.field f) ≤ 1 := by
  cases f with
  | year => exact h.year.le
  | yearOfCentury => exact h.yearOfCentury.le.trans (Nat.zero_le 1)
  | month => exact h.month.le
  | day => exact h.day.le
  | hour => exact h.hour
  | minute => exact h.minute
  | second => exact h.second

lemma IsSingleDate.nodup (h : IsSingleDate items) (hr : Reads items vs rs) :
    (rs.map (·.1)).Nodup :=
  List.nodup_iff_count_le_one.mpr fun f => hr.count_eq f ▸ h.count_le f

lemma mem_iff_lookup (h : (rs.map (·.1)).Nodup) : (f, n) ∈ rs ↔ rs.lookup f = some n := by
  induction rs with
  | nil => simp
  | cons r rs ih =>
    obtain ⟨g, m⟩ := r
    obtain ⟨hg, h⟩ := List.nodup_cons.mp h
    rw [List.mem_cons, List.lookup_cons, Prod.mk.injEq]
    by_cases hf : f = g
    · subst hf
      have hn : (f, n) ∉ rs := fun hm => hg (List.mem_map.mpr ⟨_, hm, rfl⟩)
      simp [hn, eq_comm]
    · simp [hf, beq_false_of_ne hf, ih h]

lemma isSome_gather_iff_numberAt? (h : IsSingleDate items) (hr : Reads items vs rs) :
    (gather [] rs).isSome = true ↔
      ∀ f, ∀ k ∈ numberAt? f items vs, f.admits (k : ℤ) = true := by
  have hn := h.nodup hr
  rw [isSome_gather_iff, List.nil_append]
  constructor
  · intro ha f k hk
    have hl : rs.lookup f = some (k : ℤ) := by
      rw [hr.lookup_eq f, hk]
      rfl
    exact (ha _ ((mem_iff_lookup hn).mpr hl)).1
  · rintro ha ⟨f, n⟩ hm
    have hl := (mem_iff_lookup hn).mp hm
    obtain ⟨k, hk, rfl⟩ := Option.map_eq_some_iff.mp (hr.lookup_eq f ▸ hl)
    exact ⟨ha f k hk, hl⟩

lemma lookup_out (hr : Reads items vs rs) (hg : gather [] rs = some out) (f : DateField) :
    out.lookup f = (numberAt? f items vs).map Int.ofNat := by
  rw [lookup_of_gather hg, List.nil_append, hr.lookup_eq]

lemma has_eq_true (h : 0 < items.count (.field f)) : has items f = true :=
  List.contains_iff_mem.mpr (List.count_pos_iff.mp h)

lemma hasDate_parse (h : IsSingleDate (itemsOf p.toList)) : (parse p).hasDate = true := by
  have hy := has_eq_true (h.year ▸ Nat.one_pos)
  have hm := has_eq_true (h.month ▸ Nat.one_pos)
  have hd := has_eq_true (h.day ▸ Nat.one_pos)
  rw [parse, hy, hm, hd]
  rfl

lemma isSome_numberAt? : (numberAt? f items vs).isSome = has items f := by
  rw [numberAt?, Option.isSome_map]
  induction items with
  | nil => rfl
  | cons item items ih =>
    cases item with
    | literal c =>
      rw [placeOf?, Option.isSome_map, ih, has, has, List.contains_cons]
      rfl
    | field g =>
      rw [placeOf?, has, List.contains_cons]
      by_cases hf : f = g
      · simp [hf]
      · simp [hf, ih, has]

lemma numberAt?_yearOfCentury (h : IsSingleDate items) :
    numberAt? .yearOfCentury items vs = none := by
  have hn : (numberAt? .yearOfCentury items vs).isSome = false := by
    rw [isSome_numberAt?, has, List.contains_eq_mem, decide_eq_false_iff_not]
    exact List.count_eq_zero.mp h.yearOfCentury
  exact Option.not_isSome_iff_eq_none.mp (Bool.eq_false_iff.mp hn)

lemma givesDate_iff (h : IsSingleDate items)
    (hl : ∀ f, out.lookup f = (numberAt? f items vs).map Int.ofNat) :
    out.givesDate = true ↔ ∃ year month day : ℕ, numberAt? .year items vs = some year ∧
      numberAt? .month items vs = some month ∧ numberAt? .day items vs = some day ∧
        Calendar.isDate year month day = true := by
  rw [Readings.givesDate, Readings.year?, hl, hl, hl, hl, numberAt?_yearOfCentury h]
  cases numberAt? .year items vs with
  | none => simp
  | some year =>
    cases numberAt? .month items vs with
    | none => simp
    | some month =>
      cases numberAt? .day items vs with
      | none => simp
      | some day => simp

lemma isSatisfied_iff (h : IsSingleDate (itemsOf p.toList))
    (hl : ∀ f, out.lookup f = (numberAt? f (itemsOf p.toList) vs).map Int.ofNat) :
    (parse p).isSatisfied out = true ↔ out.givesDate = true := by
  rw [isSatisfied, hasDate_parse h, Bool.true_and, if_pos rfl]
  split
  · rename_i ht
    obtain ⟨hh, hm⟩ := Bool.and_eq_true_iff.mp (ht : (has _ .hour && has _ .minute) = true)
    have hg : out.givesTime = true := by
      rw [Readings.givesTime, hl, hl, Option.isSome_map, Option.isSome_map, isSome_numberAt?,
        isSome_numberAt?, hh, hm]
      rfl
    rw [hg, Bool.and_true]
  · rfl

/-! ### Ranges -/

lemma digitsValue_lt {digits : List Char} (hd : ∀ d ∈ digits, d.isDigit = true) :
    digitsValue digits < 10 ^ digits.length := by
  have general (n : ℕ) : digits.foldl (fun n c => 10 * n + (c.toNat - '0'.toNat)) n + 1 ≤
      (n + 1) * 10 ^ digits.length := by
    induction digits generalizing n with
    | nil => simp
    | cons d ds ih =>
      obtain ⟨hd, hds⟩ := List.forall_mem_cons.mp hd
      have hle : d.toNat - '0'.toNat ≤ 9 :=
        Nat.sub_le_sub_right (Char.isDigit_iff_toNat.mp hd).2 48
      calc ds.foldl (fun n c => 10 * n + (c.toNat - '0'.toNat)) (10 * n + (d.toNat - '0'.toNat)) + 1
          ≤ (10 * n + (d.toNat - '0'.toNat) + 1) * 10 ^ ds.length := ih hds _
        _ ≤ (n + 1) * 10 * 10 ^ ds.length := Nat.mul_le_mul_right _ (by omega)
        _ = (n + 1) * 10 ^ (d :: ds).length := by rw [List.length_cons, pow_succ]; ring
  simpa [digitsValue] using general 0

lemma Reads.numberAt?_lt (h : Reads items vs rs) {k : ℕ} (hk : numberAt? f items vs = some k) :
    k < 10 ^ f.width := by
  have hr : ∀ r ∈ rs, ∃ n < 10 ^ r.1.width, r.2 = Int.ofNat n := by
    clear hk
    induction h with
    | nil => simp
    | literal _ _ ih => exact ih
    | field f hl hd _ ih =>
      exact List.forall_mem_cons.mpr ⟨⟨_, hl ▸ digitsValue_lt hd, rfl⟩, ih⟩
  have hl : rs.lookup f = some (Int.ofNat k) := by rw [h.lookup_eq, hk, Option.map_some]
  obtain ⟨ls, _, rfl, -⟩ := List.lookup_eq_some_iff.mp hl
  obtain ⟨n, hn, he⟩ := hr (f, Int.ofNat k) (List.mem_append_right ls List.mem_cons_self)
  exact Int.ofNat.inj he ▸ hn

lemma isMoment_iff (h : IsSingleDate items) (hr : Reads items vs rs) : IsMoment items vs ↔
    (∀ f, ∀ k ∈ numberAt? f items vs, f.admits (k : ℤ) = true) ∧
      ∃ year month day : ℕ, numberAt? .year items vs = some year ∧
        numberAt? .month items vs = some month ∧ numberAt? .day items vs = some day ∧
          Calendar.isDate year month day = true := by
  constructor
  · intro hm
    obtain ⟨year, month, day, hyear, hmonth, hday, hd⟩ := hm.date
    refine ⟨fun f k hk => ?_, year, month, day, hyear, hmonth, hday,
      (isDate_iff (hr.numberAt?_lt hyear)).mpr hd⟩
    have hle := daysInMonth_le year month
    cases f with
    | year =>
      have hlt : k < 10 ^ 4 := hr.numberAt?_lt hk
      simp only [DateField.admits, Bool.and_eq_true, decide_eq_true_iff]
      omega
    | yearOfCentury =>
      rw [numberAt?_yearOfCentury h] at hk
      contradiction
    | month =>
      obtain rfl := Option.some.inj (hmonth.symm.trans hk)
      simpa [DateField.admits] using hd.1
    | day =>
      obtain rfl := Option.some.inj (hday.symm.trans hk)
      simp only [DateField.admits, Bool.and_eq_true, decide_eq_true_iff]
      omega
    | hour => simpa [DateField.admits] using hm.hour k hk
    | minute => simpa [DateField.admits] using hm.minute k hk
    | second => simpa [DateField.admits] using hm.second k hk
  · rintro ⟨ha, year, month, day, hyear, hmonth, hday, hd⟩
    have bound (f : DateField) {b : ℕ} (hf : ∀ n : ℤ, f.admits n = true → n ≤ b) :
        ∀ k ∈ numberAt? f items vs, k ≤ b :=
      fun k hk => by exact_mod_cast hf k (ha f k hk)
    exact ⟨⟨year, month, day, hyear, hmonth, hday, (isDate_iff (hr.numberAt?_lt hyear)).mp hd⟩,
      bound .hour (by simp [DateField.admits]), bound .minute (by simp [DateField.admits]),
      bound .second (by simp [DateField.admits])⟩

/-- What is admitted has the form of the pattern. If the pattern has one full date, what has the
form is admitted just when the date exists and the time of day is in range, provided that the
expression for the form is compiled, which it is unless the pattern is very long. -/
theorem admits_positional (p v : String) :
    ((parse p).admits v = true → HasForm p.toList v.toList) ∧
    (IsSingleDate (itemsOf p.toList) → ((parse p).admits v = true ↔
      (parse p).shape.isSome = true ∧ HasForm p.toList v.toList ∧
        IsMoment (itemsOf p.toList) v.toList)) ∧
    (p.length ≤ 1 <<< 16 → (parse p).shape.isSome = true) := by
  refine ⟨fun h => ?_, fun h => ?_, fun h => isSome_shape (p.length_toList ▸ h)⟩
  · obtain ⟨-, rs, hr, -⟩ := admits_iff.mp h
    exact hasForm_iff.mpr ⟨rs, hr⟩
  · rw [admits_iff, hasForm_iff]
    refine and_congr_right fun _ => ?_
    constructor
    · rintro ⟨rs, hr, out, hg, ho⟩
      have hl := lookup_out hr hg
      refine ⟨⟨rs, hr⟩, (isMoment_iff h hr).mpr ⟨?_, ?_⟩⟩
      · exact (isSome_gather_iff_numberAt? h hr).mp (hg ▸ rfl)
      · exact (givesDate_iff h hl).mp ((isSatisfied_iff h hl).mp ho)
    · rintro ⟨⟨rs, hr⟩, hm⟩
      obtain ⟨ha, hd⟩ := (isMoment_iff h hr).mp hm
      obtain ⟨out, hg⟩ := Option.isSome_iff_exists.mp ((isSome_gather_iff_numberAt? h hr).mpr ha)
      have hl := lookup_out hr hg
      exact ⟨rs, hr, out, hg, (isSatisfied_iff h hl).mpr ((givesDate_iff h hl).mpr hd)⟩

def literalsPattern : String := "%YYYY-MM-DD\u3000hh.mm.ss*é"

theorem admits_positional_literals : IsSingleDate (itemsOf literalsPattern.toList) ∧
    literalsPattern.length ≤ 1 <<< 16 ∧
      (parse literalsPattern).admits "%0000-02-29\u300023.59.60*é" = true ∧
        HasForm literalsPattern.toList "%0000-02-29\u300023.59.60*é".toList ∧
          (parse literalsPattern).admits "%0001-02-29\u300023.59.60*é" = false := by
  have hs : IsSingleDate (itemsOf literalsPattern.toList) := by constructor <;> decide
  have hl : literalsPattern.length ≤ 1 <<< 16 := by decide
  obtain ⟨-, hleap, hsize⟩ := admits_positional literalsPattern "%0000-02-29\u300023.59.60*é"
  obtain ⟨-, hnext, -⟩ := admits_positional literalsPattern "%0001-02-29\u300023.59.60*é"
  have hf : HasForm literalsPattern.toList "%0000-02-29\u300023.59.60*é".toList := by decide
  refine ⟨hs, hl, (hleap hs).mpr ⟨hsize hl, hf, ?_⟩, hf, Bool.eq_false_iff.mpr fun ha => ?_⟩
  · exact ⟨⟨0, 2, 29, by decide, by decide, by decide, by decide, by decide, by decide⟩,
      by decide, by decide, by decide⟩
  · obtain ⟨-, -, hm⟩ := (hnext hs).mp ha
    obtain ⟨year, month, day, hy, hmo, hd, -, -, hle⟩ := hm.date
    obtain rfl : 1 = year := Option.some.inj (Eq.trans (by decide) hy)
    obtain rfl : 2 = month := Option.some.inj (Eq.trans (by decide) hmo)
    obtain rfl : 29 = day := Option.some.inj (Eq.trans (by decide) hd)
    exact absurd hle (by decide)

end DatePattern

end LayeredSchema

import LayeredSchema.Pattern.Basic
import LayeredSchema.Proofs.Pattern.Matching
import LayeredSchema.Proofs.Pattern.Runs
import Mathlib

/-!
Anchored patterns: what becomes of a pattern that is put into a group between marks for the start
and the end of a text.
-/

namespace LayeredSchema.Pattern

open Text

variable {p : List Char} {part : Part} {t u : Reading}

/-- What a pattern on its own reads as, limits aside. -/
def part? (p : List Char) : Option Part := do (← Reading.run? {} p).finish?

/-- Behind a pattern that leaves no group open there may only be a parenthesis if a comment takes it
in. -/
def EndsInComment (p : List Char) : Prop := part? (p ++ ending) ≠ none

def anchoredLayout (l : Layout) : Layout := .sequence [.look .textStart, l, .look .textEnd]

def anchoredPart (part : Part) : Part :=
  .sequence [.ofAtom (.look .textStart) 0, part.grouped none, .ofAtom (.look .textEnd) 0]

lemma anchoredPart_regex :
    (anchoredPart part).regex = .seq (.seq (.look .textStart) part.regex) (.look .textEnd) := rfl

lemma anchoredPart_depth : (anchoredPart part).depth = part.depth + 2 := by
  simp [anchoredPart, Part.sequence, Part.maxDepth, Part.ofAtom, Part.grouped]

lemma regex?_eq_some_iff {r : Regex} : regex? p = some r ↔
    ∃ part, part? p = some part ∧ part.depth ≤ maxNesting ∧ part.layout.fits = true ∧
      part.regex = r := by
  have he : regex? p = part? p >>= fun part =>
      if part.depth ≤ maxNesting && part.layout.fits then some part.regex else none := by
    unfold regex? part?
    cases Reading.run? {} p <;> rfl
  rw [he]
  constructor
  · intro h
    obtain ⟨part, hp, h⟩ := Option.bind_eq_some_iff.mp h
    split at h
    · rename_i hl
      obtain ⟨hd, hf⟩ := Bool.and_eq_true_iff.mp hl
      exact ⟨part, hp, of_decide_eq_true hd, hf, Option.some.inj h⟩
    · contradiction
  · rintro ⟨part, hp, hd, hf, rfl⟩
    rw [hp]
    exact if_pos (by simp [hd, hf])

/-! ### The group around a pattern -/

def around : Level := { flags := {}, pieces := [.part (.ofAtom (.look .textStart) 0)] }

lemma run?_opening :
    Reading.run? {} (['^', '(', '?', ':'] ++ p) = (Reading.under {} [around]).run? p := by
  rw [List.cons_append, Reading.run?_of_cons rfl]
  change Reading.run? _ ('(' :: '?' :: ':' :: p) = _
  rw [Reading.run?_of_cons rfl]
  rfl

lemma skip_ending_of (t : Reading) : skip t.flags.verbose ending = ')' :: ['$'] :=
  Reading.skip_ending_eq _

def closed (t : Reading) : Reading :=
  { t with
    flags := {}
    level := (around.push (.part (t.level.content.grouped none))).push
      (.part (.ofAtom (.look .textEnd) 0))
    outer := [] }

lemma run?_closing (ho : t.outer = []) (hl : t.level.flags = {} ∧ t.level.number = none) :
    (t.under [around]).run? ending = some (closed t) := by
  obtain ⟨flags, ⟨start, number, branches, pieces⟩, outer, captures, names⟩ := t
  obtain rfl : outer = [] := ho
  obtain rfl : start = {} := hl.1
  obtain rfl : number = none := hl.2
  rw [Reading.run?_of_cons (skip_ending_of _)]
  change Reading.run? _ ['$'] = _
  rw [Reading.run?_of_cons rfl]
  change Reading.run? _ [] = _
  exact Reading.run?_of_nil rfl

lemma run?_closing_inner (ho : t.outer ≠ []) (h : (t.under [around]).run? ending = some u) :
    u.finish? = none := by
  obtain ⟨l, ls, ho⟩ := List.exists_cons_of_ne_nil ho
  rw [Reading.run?_of_cons (skip_ending_of _)] at h
  obtain ⟨⟨s, rest⟩, hs, h⟩ := Option.bind_eq_some_iff.mp h
  change (t.under [around]).closeGroup? >>= _ = _ at hs
  rw [Reading.closeGroup?, Reading.under_outer, ho] at hs
  obtain ⟨rfl, rfl⟩ := Prod.mk.inj (Option.some.inj hs)
  have := Reading.outer_of_dollar List.suffix_rfl h
  rw [Reading.finish?, this]
  simp

lemma part?_of_run? {x : Option Reading} (h : Reading.run? {} p = x) :
    part? p = x >>= Reading.finish? := by
  rw [part?, h]

lemma level_of_run? (h : Reading.run? {} p = some t) (ho : t.outer = []) :
    t.level.flags = {} ∧ t.level.number = none := by
  have hb := (Reading.reaches_of_run? h).bottom
  rwa [Reading.bottom, ho] at hb

lemma finish?_of_outer (ho : t.outer ≠ []) : t.finish? = none := by
  rw [Reading.finish?, if_neg (by simpa using ho)]

lemma run?_ending_alone (ho : t.outer = []) : t.run? ending = none := by
  rw [Reading.run?_of_cons (skip_ending_of t)]
  change (t.closeGroup? >>= _) >>= _ = none
  rw [Reading.closeGroup?, ho]
  rfl

/-- How a pattern fares in the group around it: as on its own, or its end is in a comment or in a
group that is open, or it closes the group. -/
lemma part?_anchored (p : List Char) :
    (∃ part, part? p = some part ∧ part? (p ++ ending) = none ∧
      part? (['^', '(', '?', ':'] ++ p ++ ending) = some (anchoredPart part)) ∨
    (part? p = none ∨ part? (p ++ ending) = part? p) ∧
      part? (['^', '(', '?', ':'] ++ p ++ ending) = none ∨
    part? p = none ∧ Reading.ClosesEarly {} p := by
  have anchored {x : Option Reading} (h : (Reading.under {} [around]).run? (p ++ ending) = x) :
      part? (['^', '(', '?', ':'] ++ p ++ ending) = x >>= Reading.finish? := by
    rw [List.append_assoc]
    exact part?_of_run? (run?_opening.trans h)
  have alone {x : Option Reading} (h : (Reading.under {} []).run? (p ++ ending) = x) :
      part? (p ++ ending) = x >>= Reading.finish? := by
    rw [Reading.under_nil] at h
    exact part?_of_run? h
  -- the same four cases with no group around the pattern and with one
  rcases Reading.beforeEnding {} p with ⟨t, hr, he⟩ | ⟨t, hr, he⟩ | ⟨hr, he⟩ | ⟨hr, he⟩
  · by_cases ho : t.outer = []
    · refine .inl ⟨t.level.content, ?_, ?_, ?_⟩
      · rw [part?_of_run? hr]
        simp [Reading.finish?, ho]
      · rw [alone (he []), Reading.under_nil, run?_ending_alone ho]
        rfl
      · rw [anchored (he [around]), run?_closing ho (level_of_run? hr ho)]
        rfl
    · refine .inr (.inl ⟨.inl ?_, ?_⟩)
      · rw [part?_of_run? hr]
        exact finish?_of_outer ho
      · rw [anchored (he [around])]
        exact Option.bind_eq_none_iff.mpr fun u hu => run?_closing_inner ho hu
  · refine .inr (.inl ⟨.inr ?_, ?_⟩)
    · rw [alone (he []), Reading.under_nil, part?_of_run? hr]
    · rw [anchored (he [around])]
      exact finish?_of_outer (by simp)
  · exact .inr (.inr ⟨part?_of_run? hr, he⟩)
  · refine .inr (.inl ⟨.inl (part?_of_run? hr), ?_⟩)
    rw [anchored rfl]
    exact Option.bind_eq_none_iff.mpr fun u hu =>
      finish?_of_outer (he _ (List.cons_ne_nil _ _) u hu)

end LayeredSchema.Pattern

namespace LayeredSchema.TextPattern

open Pattern

variable {part : Part} {t : TextPattern} {p : String}

lemma parse?_eq_some_iff : parse? p = some t ↔
    ∃ part, part? (anchored p) = some part ∧ part.depth ≤ maxNesting ∧ part.layout.fits = true ∧
      part.regex = t.regex := by
  rw [← regex?_eq_some_iff, parse?, Option.map_eq_some_iff]
  constructor
  · rintro ⟨r, hr, rfl⟩
    exact hr
  · exact fun h => ⟨t.regex, h, rfl⟩

lemma parse?_of_anchored (h : part? (anchored p) = some (anchoredPart part)) :
    parse? p = some t ↔ part.depth + 2 ≤ maxNesting ∧ (anchoredLayout part.layout).fits = true ∧
      t.regex = (anchoredPart part).regex := by
  rw [parse?_eq_some_iff]
  constructor
  · rintro ⟨q, hq, hd, hf, hr⟩
    obtain rfl : anchoredPart part = q := Option.some.inj (h.symm.trans hq)
    exact ⟨anchoredPart_depth ▸ hd, hf, hr.symm⟩
  · rintro ⟨hd, hf, hr⟩
    exact ⟨_, h, anchoredPart_depth ▸ hd, hf, hr.symm⟩

lemma parse?_ne_some (h : part? (anchored p) = none) : parse? p ≠ some t := by
  intro ht
  obtain ⟨q, hq, -⟩ := parse?_eq_some_iff.mp ht
  rw [h] at hq
  contradiction

lemma admits_iff (h : t.regex = (anchoredPart part).regex) (v : String) :
    t.admits v = true ↔ part.regex.Matches v.toList 0 v.toList.length := by
  rw [admits, h, anchoredPart_regex, Regex.finds_anchored, Regex.spans_iff]

/-- A pattern that is whole on its own is compiled unless it ends in a comment or gets too large,
and then it matches values as wholes. Any other pattern is only compiled if it closes the group
around it. -/
theorem anchored_exact (p : String) :
    (∀ r, regex? p.toList = some r ↔ ∃ part, part? p.toList = some part ∧
      part.depth ≤ maxNesting ∧ part.layout.fits = true ∧ part.regex = r) ∧
    (∀ part, part? p.toList = some part →
      ((∃ t, parse? p = some t) ↔ ¬EndsInComment p.toList ∧ part.depth + 2 ≤ maxNesting ∧
        (anchoredLayout part.layout).fits = true) ∧
      ∀ t, parse? p = some t → ∀ v : String,
        t.admits v = true ↔ part.regex.Matches v.toList 0 v.toList.length) ∧
    (part? p.toList = none → ∀ t, parse? p = some t → Reading.ClosesEarly {} p.toList) := by
  have hp := part?_anchored p.toList
  change _ ∨ (_ ∧ part? (anchored p) = none) ∨ _ at hp
  refine ⟨fun r => regex?_eq_some_iff, fun part h => ?_, fun hn t ht => ?_⟩
  · rcases hp with ⟨part', h', hc, ha⟩ | ⟨hc, ha⟩ | ⟨hn, -⟩
    · obtain rfl : part = part' := Option.some.inj (h.symm.trans h')
      constructor
      · constructor
        · rintro ⟨t, ht⟩
          obtain ⟨hd, hf, -⟩ := (parse?_of_anchored ha).mp ht
          exact ⟨not_not.mpr hc, hd, hf⟩
        · rintro ⟨-, hd, hf⟩
          exact ⟨⟨(anchoredPart part).regex⟩, (parse?_of_anchored ha).mpr ⟨hd, hf, rfl⟩⟩
      · intro t ht
        obtain ⟨-, -, hr⟩ := (parse?_of_anchored ha).mp ht
        exact admits_iff hr
    · have he : EndsInComment p.toList := by
        rcases hc with hc | hc
        · rw [hc] at h
          contradiction
        · rw [EndsInComment, hc, h]
          exact Option.some_ne_none part
      constructor
      · constructor
        · rintro ⟨t, ht⟩
          exact absurd ht (parse?_ne_some ha)
        · rintro ⟨hn, -⟩
          exact absurd he hn
      · exact fun t ht => absurd ht (parse?_ne_some ha)
    · rw [hn] at h
      contradiction
  · rcases hp with ⟨part, h, -⟩ | ⟨-, ha⟩ | ⟨-, he⟩
    · rw [hn] at h
      contradiction
    · exact absurd ht (parse?_ne_some ha)
    · exact he

theorem anchored_exact_choice : ∃ part, part? "a|bc".toList = some part ∧
    ∃ t, parse? "a|bc" = some t ∧
      ∀ v : String, t.admits v = true ↔ part.regex.Matches v.toList 0 v.toList.length := by
  have hl : (part? "a|bc".toList).any (fun part =>
      part.depth + 2 ≤ maxNesting && (anchoredLayout part.layout).fits) = true := by cbv
  obtain ⟨part, hp, hl⟩ := (Option.any_eq_true _ _).mp hl
  obtain ⟨hd, hf⟩ := Bool.and_eq_true_iff.mp hl
  have hc : ¬EndsInComment "a|bc".toList := by
    have hn : (part? ("a|bc".toList ++ ending)).isNone = true := by cbv
    exact not_not.mpr (Option.isNone_iff_eq_none.mp hn)
  obtain ⟨-, ha, -⟩ := anchored_exact "a|bc"
  obtain ⟨hc', hm⟩ := ha part hp
  obtain ⟨t, ht⟩ := hc'.mpr ⟨hc, of_decide_eq_true hd, hf⟩
  exact ⟨part, hp, t, ht, hm t ht⟩

/-- A pattern that closes the group: it is none on its own, but it is compiled, and its branches are
not anchored on both sides. -/
example : (part? "a)|(?:b".toList).isNone = true ∧
    (parse? "a)|(?:b").any (·.admits "ax") = true := by
  constructor <;> cbv

/-- A pattern that ends in a comment, which takes in the end of the group. -/
example : (part? "(?x)a #b".toList).isSome = true ∧ (parse? "(?x)a #b").isNone = true := by
  constructor <;> cbv

end LayeredSchema.TextPattern

import LayeredSchema.Pattern.Machine
import Mathlib.Data.List.Forall2
import Mathlib.Algebra.BigOperators.Group.List.Basic
import Mathlib.Algebra.Ring.Nat
import Mathlib.Tactic.Common

/-!
Bounds on the room that machines take. What is added takes no more than a number of bytes, and so
the parts of a machine that stays within the limit can be bounded one by one. Main statement:
`fits_of_takes`.
-/

namespace LayeredSchema.Pattern

variable {g h : Growth} {a b k n : ℕ} {l : Layout} {ls : List Layout} {ks : List ℕ}

namespace Growth

/-- What is added takes at most so many bytes, and there is no failure while they are there. -/
def Takes (g : Growth) (k : ℕ) : Prop :=
  ∀ f : Footprint, f.bytes + k ≤ Footprint.limit → ∃ f', g.run f = some f' ∧ f'.bytes ≤ f.bytes + k

lemma takes_add (states transitions links : ℕ) :
    (add states transitions links).Takes (32 * states + 8 * transitions + 4 * links) := by
  intro f hf
  have he : Footprint.bytes ⟨f.states + states, f.attached + transitions * 8 + links * 4⟩ =
      f.bytes + (32 * states + 8 * transitions + 4 * links) := by
    simp only [Footprint.bytes, Footprint.bytesOfState]
    omega
  exact ⟨_, if_pos (he ▸ hf), Nat.le_of_eq he⟩

lemma Takes.mono (hg : g.Takes a) (hab : a ≤ b) : g.Takes b := by
  intro f hf
  obtain ⟨f', hr, hl⟩ := hg f (by omega)
  exact ⟨f', hr, by omega⟩

lemma Takes.append (hg : g.Takes a) (hh : h.Takes b) : (g ++ h).Takes (a + b) := by
  intro f hf
  obtain ⟨f', hr, hl⟩ := hg f (by omega)
  obtain ⟨f'', hr', hl'⟩ := hh f' (by omega)
  refine ⟨f'', ?_, by omega⟩
  change (g.run f).bind h.run = _
  rw [hr]
  exact hr'

lemma Takes.times (hg : g.Takes a) (n : ℕ) : (g.times n).Takes (n * a) := by
  induction n with
  | zero => exact fun f _ => ⟨f, rfl, Nat.le_add_right _ _⟩
  | succ n ih =>
    intro f hf
    rw [Nat.succ_mul] at hf ⊢
    obtain ⟨f', hr, hl⟩ := hg f (by omega)
    obtain ⟨f'', hr', hl'⟩ := ih f' (by omega)
    refine ⟨f'', ?_, by omega⟩
    change iterate g.run (n + 1) f = _
    rw [iterate, hr]
    exact hr'

lemma takes_all {gs : List Growth} (h : List.Forall₂ Takes gs ks) : (all gs).Takes ks.sum := by
  induction h with
  | nil => exact fun f _ => ⟨f, rfl, Nat.le_add_right _ _⟩
  | @cons g k gs ks hg _ ih =>
    have he : all (g :: gs) = g ++ all gs := rfl
    rw [he, List.sum_cons]
    exact hg.append ih

end Growth

open Growth

def Layout.Takes (l : Layout) (k : ℕ) : Prop := ∀ d : Direction, (d.growth l).Takes k

lemma growths_eq_map (d : Direction) (ls : List Layout) : d.growths ls = ls.map d.growth := by
  induction ls with
  | nil => rfl
  | cons l ls ih => rw [Direction.growths, ih, List.map_cons]

lemma takes_seq (h : List.Forall₂ Layout.Takes ls ks) : (Layout.seq ls).Takes ks.sum := by
  intro d
  have hd : List.Forall₂ Growth.Takes (d.growths ls) ks := by
    rw [growths_eq_map, List.forall₂_map_left_iff]
    exact h.imp fun _ _ hl => hl d
  rw [Direction.growth]
  cases d with
  | forwards => exact takes_all hd
  | backwards =>
    rw [← List.sum_reverse]
    exact takes_all (List.forall₂_reverse_iff.mpr hd)

lemma takes_search (d : Direction) (l : Layout) : (d.search l).Takes 112 := by
  unfold Direction.search
  dsimp only
  split_ifs
  · exact (takes_add 1 0 0).mono (by decide)
  · exact takes_add 3 1 2

lemma takes_group (h : l.Takes k) : (Layout.group n l).Takes (64 + k) := by
  intro d
  cases d with
  | forwards =>
    exact (((takes_add 1 0 0).append (h .forwards)).append (takes_add 1 0 0)).mono (by omega)
  | backwards => exact (h .backwards).mono (by omega)

lemma fits_of_takes (h : l.Takes k) (hk : k + 208 ≤ Footprint.limit) : l.fits = true := by
  have hm (d : Direction) : ((d.machine l).run {}).isSome = true := by
    have ht : (d.machine l).Takes (112 + (64 + k) + 32) :=
      ((takes_search d l).append (takes_group h d)).append (takes_add 1 0 0)
    obtain ⟨f', hr, -⟩ := ht {} (by simp [Footprint.bytes]; omega)
    exact hr ▸ rfl
  rw [Layout.fits, List.all_cons, List.all_cons, hm, hm]
  rfl

end LayeredSchema.Pattern

import Mathlib.Data.List.Forall2
import Mathlib.Tactic.Common

/-! What the success or the error of a computation says of its steps. -/

namespace LayeredSchema.Outcome

variable {ε ε' α β σ : Type}

lemma bind_ok_iff {x : Except ε α} {f : α → Except ε β} {b : β} :
    x >>= f = .ok b ↔ ∃ a, x = .ok a ∧ f a = .ok b := by
  cases x <;> simp [bind, Except.bind]

lemma bind_error_iff {x : Except ε α} {f : α → Except ε β} {e : ε} :
    x >>= f = .error e ↔ x = .error e ∨ ∃ a, x = .ok a ∧ f a = .error e := by
  cases x <;> simp [bind, Except.bind]

lemma map_ok_iff {x : Except ε α} {f : α → β} {b : β} :
    x.map f = .ok b ↔ ∃ a, x = .ok a ∧ f a = b := by
  cases x <;> simp [Except.map]

lemma map_error_iff {x : Except ε α} {f : α → β} {e : ε} : x.map f = .error e ↔ x = .error e := by
  cases x <;> simp [Except.map]

lemma mapError_ok_iff {x : Except ε α} {f : ε → ε'} {a : α} :
    x.mapError f = .ok a ↔ x = .ok a := by
  cases x <;> simp [Except.mapError]

lemma pure_ok_iff {a b : α} : (pure a : Except ε α) = .ok b ↔ a = b := by
  simp [pure, Except.pure]

lemma exists_ok_iff_isOk {x : Except ε α} : (∃ a, x = .ok a) ↔ x.isOk = true := by
  cases x <;> simp [Except.isOk, Except.toBool]

lemma toOption_eq_some_iff {x : Except ε α} {a : α} : x.toOption = some a ↔ x = .ok a := by
  cases x <;> simp [Except.toOption]

lemma exists_error_iff {x : Except ε α} : (∃ e, x = .error e) ↔ ¬∃ a, x = .ok a := by
  cases x <;> simp

lemma mapM_ok_iff {f : α → Except ε β} {as : List α} {bs : List β} :
    as.mapM f = .ok bs ↔ List.Forall₂ (fun a b => f a = .ok b) as bs := by
  induction as generalizing bs with
  | nil => cases bs <;> simp [pure_ok_iff]
  | cons a as ih =>
    simp only [List.mapM_cons, bind_ok_iff, pure_ok_iff, ih]
    constructor
    · rintro ⟨b, hb, bs, hbs, rfl⟩
      exact .cons hb hbs
    · rintro (_ | ⟨hb, hbs⟩)
      exact ⟨_, hb, _, hbs, rfl⟩

lemma exists_mapM_ok_iff {f : α → Except ε β} {as : List α} :
    (∃ bs, as.mapM f = .ok bs) ↔ ∀ a ∈ as, ∃ b, f a = .ok b := by
  simp only [mapM_ok_iff]
  induction as with
  | nil => simp
  | cons a as ih =>
    rw [List.forall_mem_cons, ← ih]
    constructor
    · rintro ⟨_, _ | ⟨hb, hbs⟩⟩
      exact ⟨⟨_, hb⟩, _, hbs⟩
    · rintro ⟨⟨b, hb⟩, bs, hbs⟩
      exact ⟨b :: bs, .cons hb hbs⟩

lemma mapM_ok_iff_eq_map {f : α → Except ε β} {encode : β → α} {as : List α}
    (h : ∀ a ∈ as, ∀ b, f a = .ok b ↔ a = encode b) {bs : List β} :
    as.mapM f = .ok bs ↔ as = bs.map encode := by
  induction as generalizing bs with
  | nil => cases bs <;> simp [pure_ok_iff]
  | cons a as ih =>
    obtain ⟨ha, hs⟩ := List.forall_mem_cons.mp h
    simp only [List.mapM_cons, bind_ok_iff, pure_ok_iff, ha, ih hs]
    constructor
    · rintro ⟨b, rfl, bs, rfl, rfl⟩
      rfl
    · intro hb
      obtain ⟨b, bs, rfl, rfl, rfl⟩ := List.map_eq_cons_iff.mp hb.symm
      exact ⟨b, rfl, bs, rfl, rfl⟩

lemma exists_of_mem_mapM {f : α → Except ε β} {as : List α} {bs : List β} (h : as.mapM f = .ok bs)
    {b : β} (hb : b ∈ bs) : ∃ a ∈ as, f a = .ok b := by
  induction mapM_ok_iff.mp h with
  | nil => contradiction
  | @cons a b' as bs ha _ ih =>
    rcases List.mem_cons.mp hb with rfl | hb
    · exact ⟨a, List.mem_cons_self, ha⟩
    · obtain ⟨a', ha', hf⟩ := ih (mapM_ok_iff.mpr ‹_›) hb
      exact ⟨a', List.mem_cons_of_mem a ha', hf⟩

lemma forall₂_of_mem {R S : α → β → Prop} {as : List α} {bs : List β} (h : List.Forall₂ R as bs)
    (hi : ∀ a, ∀ b ∈ bs, R a b → S a b) : List.Forall₂ S as bs := by
  rw [List.forall₂_iff_zip] at h ⊢
  exact ⟨h.1, fun hab => hi _ _ (List.of_mem_zip hab).2 (h.2 hab)⟩

lemma foldlM_preserves {f : σ → α → Except ε σ} {as : List α} {s t : σ} (I : σ → Prop)
    (step : ∀ s a t, a ∈ as → I s → f s a = .ok t → I t)
    (h : as.foldlM f s = .ok t) (hs : I s) : I t := by
  induction as generalizing s with
  | nil =>
    obtain rfl := pure_ok_iff.mp h
    exact hs
  | cons a as ih =>
    simp only [List.foldlM_cons, bind_ok_iff] at h
    obtain ⟨u, hu, h⟩ := h
    exact ih (fun s b t hb => step s b t (List.mem_cons_of_mem a hb)) h
      (step s a u List.mem_cons_self hs hu)

lemma foldlM_of_forall₂ {R : α → β → Prop} {f : σ → α → Except ε σ} {g : σ → β → Except ε' σ}
    (step : ∀ s t a b, R a b → f s a = .ok t → g s b = .ok t) {as : List α} {bs : List β}
    (h : List.Forall₂ R as bs) {s t : σ} (hf : as.foldlM f s = .ok t) :
    bs.foldlM g s = .ok t := by
  induction h generalizing s with
  | nil => exact congrArg Except.ok (pure_ok_iff.mp hf)
  | cons hab _ ih =>
    simp only [List.foldlM_cons, bind_ok_iff] at hf ⊢
    obtain ⟨u, hu, hf⟩ := hf
    exact ⟨u, step s u _ _ hab hu, ih hf⟩

end LayeredSchema.Outcome

import LayeredSchema.Pattern.Atom
import Mathlib.Data.List.Infix
import Mathlib.Tactic.Common

/-!
What a closing parenthesis and a dollar sign behind a pattern do to the reading of its atoms.

They are left over with what is left of the pattern, unless a comment takes them in. Where the
pattern ends too soon for a reader, it may take the parenthesis, but no reader takes less.
-/

namespace LayeredSchema.Pattern

open Text

def ending : List Char := [')', '$']

class Leaves (β : Type) where
  rest : β → List Char
  add : β → List Char → β

instance : Leaves (List Char) := ⟨id, (· ++ ·)⟩

instance {α β : Type} [Leaves β] : Leaves (α × β) :=
  ⟨fun p => Leaves.rest p.2, fun p cs => (p.1, Leaves.add p.2 cs)⟩

open Leaves

variable {α β γ : Type} [Leaves β] [Leaves γ] {past : β → Prop} {past' : γ → Prop}
  {cs ds : List Char} {v : Bool}

@[simp] lemma rest_list : rest cs = cs := rfl
@[simp] lemma rest_pair {p : α × β} : rest p = rest p.2 := rfl
@[simp] lemma add_list : add cs ds = cs ++ ds := rfl
@[simp] lemma add_pair {p : α × β} : add p cs = (p.1, add p.2 cs) := rfl

/-- A reader gives `x` for a text, and `y` when the ending stands behind it: either the ending is
left over too, or a comment takes it in, or else the text is too short, and `past` is what is known
of `y`. -/
def Agree (past : β → Prop) (x y : Option β) : Prop :=
  (∃ p, x = some p ∧ y = some (add p ending)) ∨ (∃ p, rest p = [] ∧ x = some p ∧ y = some p) ∨
    x = none ∧ ∀ p, y = some p → past p

def Within (cs : List Char) (p : β) : Prop := rest p <:+ cs

namespace Agree

lemma left_over (p : β) : Agree past (some p) (some (add p ending)) :=
  .inl ⟨p, rfl, rfl⟩

lemma fails : Agree past (none : Option β) none :=
  .inr (.inr ⟨rfl, nofun⟩)

lemma falls_short {y : Option β} (h : ∀ p, y = some p → past p) : Agree past none y :=
  .inr (.inr ⟨rfl, h⟩)

lemma of_nil {x : Option β} (h : ∀ p, x = some p → rest p = []) : Agree past x x := by
  cases x with
  | none => exact fails
  | some p => exact .inr (.inl ⟨p, h p rfl, rfl, rfl⟩)

lemma read_here {P : α × List Char → Prop} (x : Option α) (cs : List Char) :
    Agree P (x.map (·, cs)) (x.map (·, cs ++ ending)) := by
  cases x with
  | none => exact fails
  | some a => exact left_over (a, cs)

lemma bind_here (x : Option α) (k : α → β) :
    Agree past (x >>= fun a => some (k a)) (x >>= fun a => some (add (k a) ending)) := by
  cases x with
  | none => exact fails
  | some a => exact left_over (k a)

lemma bind {x y : Option β} {k : β → Option γ} (h : Agree past x y)
    (hk : ∀ p, Agree past' (k p) (k (add p ending)))
    (hs : ∀ p q, k p = some q → rest q <:+ rest p)
    (hp : ∀ p q, past p → k p = some q → past' q) : Agree past' (x >>= k) (y >>= k) := by
  rcases h with ⟨p, rfl, rfl⟩ | ⟨p, hn, rfl, rfl⟩ | ⟨rfl, h⟩
  · exact hk p
  · refine of_nil fun q hq => ?_
    have := hs p q hq
    rwa [hn, List.suffix_nil] at this
  · refine falls_short fun q hq => ?_
    obtain ⟨p, hy, hq⟩ := Option.bind_eq_some_iff.mp hq
    exact hp p q (h p hy) hq

lemma then_read {α' : Type} {P : α × List Char → Prop} {Q : α' × List Char → Prop}
    {x y : Option (α × List Char)} {k : α × List Char → Option (α' × List Char)} {g : α → Option α'}
    (h : Agree P x y) (hk : ∀ p, k p = (g p.1).map (·, p.2))
    (hp : ∀ a b rest, P (a, rest) → g a = some b → Q (b, rest)) : Agree Q (x >>= k) (y >>= k) := by
  refine h.bind (fun p => ?_) (fun p q h => ?_) ?_
  · rw [hk, hk]
    exact read_here (g p.1) p.2
  · rw [hk] at h
    obtain ⟨b, -, rfl⟩ := Option.map_eq_some_iff.mp h
    exact List.suffix_rfl
  · rintro ⟨a, rest⟩ q hp' h
    rw [hk] at h
    obtain ⟨b, hb, rfl⟩ := Option.map_eq_some_iff.mp h
    exact hp a b rest hp' hb

lemma mono {x y : Option β} {past' : β → Prop} (h : Agree past x y) (hp : ∀ p, past p → past' p) :
    Agree past' x y := by
  rcases h with h | h | ⟨hx, hy⟩
  · exact .inl h
  · exact .inr (.inl h)
  · exact .inr (.inr ⟨hx, fun p h => hp p (hy p h)⟩)

end Agree

/-! ### White space and comments -/

lemma dropBlank_suffix (b : Bool) (cs : List Char) : dropBlank b cs <:+ cs := by
  fun_induction dropBlank b cs with
  | case1 => exact List.suffix_rfl
  | case2 c cs ih => exact ih.trans (List.suffix_cons c cs)
  | case3 c cs h ih => exact ih.trans (List.suffix_cons c cs)
  | case4 cs h ih => exact ih.trans (List.suffix_cons '#' cs)
  | case5 c cs h h' => exact List.suffix_rfl

@[simp] lemma skip_nil (v : Bool) : skip v [] = [] := by
  cases v <;> rfl

lemma skip_suffix (v : Bool) (cs : List Char) : skip v cs <:+ cs := by
  unfold skip
  split
  · exact dropBlank_suffix false cs
  · exact List.suffix_rfl

lemma dropBlank_ending (b : Bool) (cs : List Char) :
    dropBlank b (cs ++ ending) = dropBlank b cs ++ ending ∨
      dropBlank b cs = [] ∧ dropBlank b (cs ++ ending) = [] := by
  fun_induction dropBlank b cs with
  | case1 b => cases b <;> simp [ending, dropBlank, isBlank]
  | case2 c cs ih => simpa [dropBlank] using ih
  | case3 c cs h ih => simpa [dropBlank, h] using ih
  | case4 cs h ih => simpa [dropBlank, h] using ih
  | case5 c cs h h' => simp [dropBlank, h, h']

lemma skip_ending (v : Bool) (cs : List Char) :
    skip v (cs ++ ending) = skip v cs ++ ending ∨ skip v cs = [] ∧ skip v (cs ++ ending) = [] := by
  cases v with
  | false => exact .inl rfl
  | true => exact dropBlank_ending false cs

lemma Agree.skipping {f : List Char → Option β}
    (h : Agree past (f (skip v cs)) (f (skip v cs ++ ending)))
    (hs : ∀ cs p, f cs = some p → rest p <:+ cs) :
    Agree past (f (skip v cs)) (f (skip v (cs ++ ending))) := by
  rcases skip_ending v cs with he | ⟨hn, he⟩
  · rw [he]
    exact h
  · rw [hn, he]
    exact of_nil fun p hp => List.suffix_nil.mp (hs [] p hp)

lemma Agree.of_skip {f : List Char → Option β} (hf : ∀ cs ds, skip v cs = skip v ds → f cs = f ds)
    (hs : ∀ cs p, f cs = some p → rest p <:+ cs)
    (h : skip v (cs ++ ending) = skip v cs ++ ending → Agree past (f cs) (f (cs ++ ending))) :
    Agree past (f cs) (f (cs ++ ending)) := by
  rcases skip_ending v cs with he | ⟨hn, he⟩
  · exact h he
  · rw [hf (cs ++ ending) cs (he.trans hn.symm)]
    refine of_nil fun p hp => List.suffix_nil.mp (hs [] p ?_)
    rw [hf [] cs ((skip_nil v).trans hn.symm), hp]

namespace Atom

lemma braced?_suffix {b : Bool} {p : List Char × List Char} (h : braced? v b cs = some p) :
    p.2 <:+ cs := by
  fun_induction braced? v b cs generalizing p with
  | case1 => contradiction
  | case2 c cs ih => exact (ih h).trans (List.suffix_cons c cs)
  | case3 cs =>
    obtain rfl := Option.some.inj h
    exact List.suffix_cons _ cs
  | case4 c cs _ _ ih => exact (ih h).trans (List.suffix_cons c cs)
  | case5 c cs _ _ _ ih => exact (ih h).trans (List.suffix_cons c cs)
  | case6 c cs _ _ _ ih =>
    obtain ⟨q, hq, rfl⟩ := Option.map_eq_some_iff.mp h
    exact (ih hq).trans (List.suffix_cons c cs)

lemma braced?_ending (b : Bool) (cs : List Char) :
    braced? v b (cs ++ ending) = (braced? v b cs).map (add · ending) := by
  fun_induction braced? v b cs with
  | case1 b => cases b <;> cases v <;> simp [ending, braced?, isBlank]
  | case2 c cs ih => simpa [braced?] using ih
  | case3 cs => simp [braced?]
  | case4 c cs hc hb ih =>
    rw [List.cons_append, braced?, if_neg hc, if_pos hb]
    exact ih
  | case5 c cs hc hb hn ih =>
    rw [List.cons_append, braced?, if_neg hc, if_neg hb, if_pos hn]
    exact ih
  | case6 c cs hc hb hn ih =>
    rw [List.cons_append, braced?, if_neg hc, if_neg hb, if_neg hn, ih]
    simp [Function.comp_def]

lemma braced?_agree (cs : List Char) :
    Agree (fun _ => False) (braced? v false cs) (braced? v false (cs ++ ending)) := by
  rw [braced?_ending]
  cases braced? v false cs with
  | none => exact .fails
  | some p => exact .left_over p

lemma hexDigits?_suffix {k n : ℕ} {p : ℕ × List Char} (h : hexDigits? v k n cs = some p) :
    p.2 <:+ cs := by
  induction k generalizing n cs with
  | zero =>
    obtain rfl := Option.some.inj h
    exact List.suffix_rfl
  | succ k ih =>
    cases cs with
    | nil => contradiction
    | cons c cs =>
      obtain ⟨d, -, h⟩ := Option.bind_eq_some_iff.mp h
      exact (ih h).trans ((skip_suffix v cs).trans (List.suffix_cons c cs))

lemma hexDigits?_agree (k n : ℕ) (cs : List Char) :
    Agree (fun _ => False) (hexDigits? v k n cs) (hexDigits? v k n (cs ++ ending)) := by
  induction k generalizing n cs with
  | zero => exact .left_over (n, cs)
  | succ k ih =>
    cases cs with
    | nil => exact .fails
    | cons c cs =>
      simp only [List.cons_append, hexDigits?]
      cases hexDigit? c with
      | none => exact .fails
      | some d => exact Agree.skipping (ih _ _) fun _ _ => hexDigits?_suffix

lemma codePoint?_suffix {width : ℕ} {p : Atom × List Char} (h : codePoint? v width cs = some p) :
    p.2 <:+ cs := by
  have hs := skip_suffix v cs
  unfold codePoint? at h
  split at h
  · rename_i ds he
    rw [he] at hs
    obtain ⟨⟨digits, rest⟩, hq, h⟩ := Option.bind_eq_some_iff.mp h
    dsimp only at h
    split at h
    · contradiction
    · obtain ⟨ns, -, h⟩ := Option.bind_eq_some_iff.mp h
      obtain ⟨c, -, h⟩ := Option.bind_eq_some_iff.mp h
      obtain rfl := Option.some.inj h
      exact (braced?_suffix hq).trans ((List.suffix_cons _ ds).trans hs)
  · obtain ⟨⟨n, rest⟩, hq, h⟩ := Option.bind_eq_some_iff.mp h
    obtain ⟨c, -, h⟩ := Option.bind_eq_some_iff.mp h
    obtain rfl := Option.some.inj h
    exact (hexDigits?_suffix hq).trans hs

def bracedCharacter? (digits : List Char) : Option Atom :=
  if digits.isEmpty then none
  else do
    let ds ← digits.mapM hexDigit?
    return char (← scalar? (ds.foldl (fun n d => 16 * n + d) 0))

lemma codePoint?_agree {P : Atom × List Char → Prop} (width : ℕ) (cs : List Char) :
    Agree P (codePoint? v width cs) (codePoint? v width (cs ++ ending)) := by
  refine Agree.of_skip (v := v) ?_ (fun _ _ => codePoint?_suffix) fun he => ?_
  · intro cs ds h
    unfold codePoint?
    rw [h]
  · have digits (es : List Char) := (hexDigits?_agree (v := v) width 0 es).then_read
        (Q := P) (k := fun p => do return (.literal (← scalar? p.1) (width == 2), p.2))
        (g := fun n => (scalar? n).map (.literal · (width == 2)))
        (fun p => by cases scalar? p.1 <;> rfl) nofun
    unfold codePoint?
    rw [he]
    cases skip v cs with
    | nil => exact digits []
    | cons c ds =>
      by_cases hb : c = '\x7b'
      · subst hb
        refine (braced?_agree ds).then_read (g := bracedCharacter?) ?_ nofun
        rintro ⟨digits, rest⟩
        simp only [bracedCharacter?]
        split
        · rfl
        · cases digits.mapM hexDigit? with
          | none => rfl
          | some ns => cases h : scalar? (ns.foldl (fun n d => 16 * n + d) 0) <;> simp [h]
      · simpa [hb] using digits (c :: ds)

lemma property?_suffix {negated : Bool} {p : Atom × List Char}
    (h : property? v negated cs = some p) : p.2 <:+ cs := by
  have hs := skip_suffix v cs
  unfold property? at h
  split at h
  · contradiction
  · contradiction
  · rename_i ds he
    rw [he] at hs
    obtain ⟨q, hq, h⟩ := Option.bind_eq_some_iff.mp h
    obtain ⟨a, -, h⟩ := Option.bind_eq_some_iff.mp h
    obtain rfl := Option.some.inj h
    exact (braced?_suffix hq).trans ((List.suffix_cons _ ds).trans hs)
  · rename_i c ds _ _ he
    rw [he] at hs
    obtain ⟨a, -, rfl⟩ := Option.map_eq_some_iff.mp h
    exact (List.suffix_cons _ ds).trans hs

lemma property?_agree (negated : Bool) (cs : List Char) :
    Agree (Within ['$']) (property? v negated cs) (property? v negated (cs ++ ending)) := by
  refine Agree.of_skip (v := v) ?_ (fun _ _ => property?_suffix) fun he => ?_
  · intro cs ds h
    unfold property?
    rw [h]
  · unfold property?
    rw [he]
    cases skip v cs with
    | nil =>
      refine .falls_short fun p hp => ?_
      obtain ⟨a, -, rfl⟩ := Option.map_eq_some_iff.mp hp
      exact List.suffix_rfl
    | cons c ds =>
      by_cases hb : c = '\x7b'
      · subst hb
        refine (braced?_agree ds).then_read (g := propertyOf? negated) ?_ nofun
        rintro ⟨name, rest⟩
        cases h : propertyOf? negated name <;> simp [h]
      · by_cases hc : c = '\\'
        · subst hc
          exact .fails
        · simpa [hb, hc] using Agree.read_here (propertyOf? negated [c]) ds

def wordBoundary : Atom := .anchor (.word .boundary)

def IsDangling (v : Bool) (cs : List Char) : Prop :=
  ∃ inner, cs = '\x7b' :: (inner ++ ending) ∧ skip v inner = []

def PastEscape (v : Bool) (p : Atom × List Char) : Prop :=
  Within ['$'] p ∨ p.1 = wordBoundary ∧ IsDangling v p.2

lemma boundary?_suffix {p : Atom × List Char} (h : boundary? v cs = some p) : p.2 <:+ cs := by
  unfold boundary? at h
  split at h
  · rename_i inner
    split at h
    · contradiction
    · split at h
      · obtain ⟨q, hq, h⟩ := Option.bind_eq_some_iff.mp h
        obtain ⟨a, -, h⟩ := Option.bind_eq_some_iff.mp h
        obtain rfl := Option.some.inj h
        exact (braced?_suffix hq).trans (List.suffix_cons _ inner)
      · obtain rfl := Option.some.inj h
        exact List.suffix_rfl
  · obtain rfl := Option.some.inj h
    exact List.suffix_rfl

lemma boundary?_agree (cs : List Char) :
    Agree (PastEscape v) (boundary? v cs) (boundary? v (cs ++ ending)) := by
  cases cs with
  | nil => exact .left_over (wordBoundary, [])
  | cons c inner =>
    by_cases hc : c = '\x7b'
    · subst hc
      simp only [List.cons_append, boundary?]
      rcases hn : skip v inner with _ | ⟨d, ds⟩
      · refine .falls_short fun p hp => .inr ?_
        rcases skip_ending v inner with he | ⟨-, he⟩
        · rw [he, hn] at hp
          obtain rfl := Option.some.inj hp
          exact ⟨rfl, inner, rfl, hn⟩
        · rw [he] at hp
          contradiction
      · have he : skip v (inner ++ ending) = d :: (ds ++ ending) := by
          rcases skip_ending v inner with he | ⟨hn', -⟩
          · rw [he, hn]
            rfl
          · rw [hn] at hn'
            contradiction
        rw [he]
        dsimp only
        split
        · refine (braced?_agree inner).then_read
            (g := fun name => (wordPlace? name).map fun w => Atom.anchor (.word w)) ?_ nofun
          rintro ⟨name, rest⟩
          cases wordPlace? name <;> rfl
        · exact .left_over (wordBoundary, '\x7b' :: inner)
    · simpa [boundary?, hc, wordBoundary] using Agree.left_over (wordBoundary, c :: inner)

lemma escape?_suffix {p : Atom × List Char} (h : escape? v cs = some p) : p.2 <:+ cs := by
  unfold escape? at h
  split at h
  · contradiction
  · exact (codePoint?_suffix h).trans (List.suffix_cons _ _)
  · exact (codePoint?_suffix h).trans (List.suffix_cons _ _)
  · exact (codePoint?_suffix h).trans (List.suffix_cons _ _)
  · exact (property?_suffix h).trans (List.suffix_cons _ _)
  · exact (property?_suffix h).trans (List.suffix_cons _ _)
  · exact (boundary?_suffix h).trans (List.suffix_cons _ _)
  · split at h
    · obtain rfl := Option.some.inj h
      exact List.suffix_cons _ _
    · obtain ⟨a, -, rfl⟩ := Option.map_eq_some_iff.mp h
      exact List.suffix_cons _ _

lemma escape?_agree (cs : List Char) :
    Agree (PastEscape v) (escape? v cs) (escape? v (cs ++ ending)) := by
  unfold escape?
  split
  · refine .falls_short fun p hp => .inl ?_
    obtain rfl := Option.some.inj hp
    exact List.suffix_rfl
  · exact codePoint?_agree 2 _
  · exact codePoint?_agree 4 _
  · exact codePoint?_agree 8 _
  · exact (property?_agree false _).mono fun p hp => .inl hp
  · exact (property?_agree true _).mono fun p hp => .inl hp
  · exact boundary?_agree _
  · rename_i c ds h₁ h₂ h₃ h₄ h₅ h₆
    have he (es : List Char) := escape?.eq_8 v c es h₁ h₂ h₃ h₄ h₅ h₆
    change Agree _ _ (escape? v (c :: (ds ++ ending)))
    rw [he]
    split
    · exact .left_over (char c, ds)
    · exact .read_here (letter? c) ds

end Atom

end LayeredSchema.Pattern

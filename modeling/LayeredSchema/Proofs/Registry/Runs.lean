import LayeredSchema.Proofs.Registry.Names

/-!
Calls on a registry, one after the other, successful or not: a name that once resolves is that of
the same definition from then on.
-/

namespace LayeredSchema.Registry

inductive Call
  | insert (d : Definition)
  | addAliases (name : String) (aliases : List String)

def Call.IsCustom : Call → Prop
  | .insert d => d.kind = .custom
  | .addAliases _ _ => True

def call (r : Registry) : Call → Registry × Except Clash Bool
  | .insert d =>
    match r.insert d with
    | .ok s => (s, .ok true)
    | .error clash => (r, .error clash)
  | .addAliases name aliases => r.addAliases name aliases

def run (r : Registry) (calls : List Call) : Registry := calls.foldl (fun r c => (r.call c).1) r

def place? (r : Registry) (name : String) : Option ℕ :=
  r.definitions.findIdx? (·.isNamed name)

/-- All definitions keep their places and all that they are, and may get more aliases. -/
def Extends (r s : Registry) : Prop :=
  ∀ (i : ℕ) (d : Definition), r.definitions[i]? = some d →
    ∃ more, s.definitions[i]? = some { d with aliases := d.aliases ++ more }

/-- Every name that resolves goes on resolving to the definition at the same place, which may have
got more aliases. -/
def Keeps (r s : Registry) : Prop :=
  ∀ n d, r.resolve n = some d → ∃ (i : ℕ) (more : List String), r.definitions[i]? = some d ∧
    s.definitions[i]? = some { d with aliases := d.aliases ++ more } ∧
    s.resolve n = some { d with aliases := d.aliases ++ more }

/-- Every name of a definition is its own, whatever the order in which definitions are tried. -/
structure IsUnambiguous (r : Registry) : Prop where
  single : ∀ (i j : ℕ) (d e : Definition), r.definitions[i]? = some d → r.definitions[j]? = some e →
    ∀ n ∈ d.names, ∀ m ∈ e.names, normalName n = normalName m → i = j
  own : ∀ d ∈ r.definitions, ∀ n ∈ d.names, r.resolve n = some d
  order : ∀ ds : List Definition, ds.Perm r.definitions → ∀ n, resolve ⟨ds⟩ n = r.resolve n

variable {r s t : Registry} {d : Definition} {c : Call} {i : ℕ} {name a : String}
  {aliases : List String}

lemma Distinct.resolve_eq_some_iff (hr : r.Distinct) :
    r.resolve name = some d ↔ d ∈ r.definitions ∧ d.isNamed name = true :=
  ⟨fun h => ⟨mem_of_resolve h, by simpa using List.find?_some h⟩,
    fun h => hr.resolve_of_mem h.1 h.2⟩

lemma Distinct.perm (hr : r.Distinct) {ds : List Definition} (h : ds.Perm r.definitions) :
    Distinct ⟨ds⟩ :=
  (h.pairwise_iff fun hd => hd.symm).mpr hr

lemma Distinct.place?_eq_some_iff (hr : r.Distinct) :
    r.place? name = some i ↔ ∃ d, r.definitions[i]? = some d ∧ d.isNamed name = true := by
  rw [place?, List.findIdx?_eq_some_iff_getElem]
  constructor
  · rintro ⟨hi, hn, -⟩
    exact ⟨_, List.getElem?_eq_getElem hi, hn⟩
  · rintro ⟨d, hd, hn⟩
    obtain ⟨hi, rfl⟩ := List.getElem?_eq_some_iff.mp hd
    refine ⟨hi, hn, fun j hj => ?_⟩
    have ha := List.pairwise_iff_getElem.mp hr j i (Nat.lt_trans hj hi) hi hj
    simpa using ha.symm.not_isNamed hn

lemma Distinct.isUnambiguous (hr : r.Distinct) : r.IsUnambiguous where
  single i j d e hi hj n hn m hm h := by
    have hd : r.place? n = some i := hr.place?_eq_some_iff.mpr ⟨d, hi, isNamed_self hn⟩
    have he : r.place? n = some j :=
      hr.place?_eq_some_iff.mpr ⟨e, hj, isNamed_iff.mpr ⟨m, hm, h.symm⟩⟩
    exact Option.some.inj (hd.symm.trans he)
  own d hd n hn := hr.resolve_of_mem hd (isNamed_self hn)
  order ds hp n := by
    refine Option.ext fun d => ?_
    rw [(hr.perm hp).resolve_eq_some_iff, hr.resolve_eq_some_iff, hp.mem_iff]

lemma isNamed_moreAliases {more : List String} (h : d.isNamed name = true) :
    Definition.isNamed { d with aliases := d.aliases ++ more } name = true := by
  obtain ⟨n, hn, h⟩ := isNamed_iff.mp h
  exact isNamed_iff.mpr ⟨n, List.mem_append_left more hn, h⟩

lemma Extends.refl (r : Registry) : Extends r r :=
  fun _ d hd => ⟨[], by simpa using hd⟩

lemma Extends.trans (h : Extends r s) (h' : Extends s t) : Extends r t := by
  intro i d hd
  obtain ⟨xs, hx⟩ := h i d hd
  obtain ⟨ys, hy⟩ := h' i _ hx
  exact ⟨xs ++ ys, by simpa using hy⟩

lemma Extends.place? (h : Extends r s) (hr : r.Distinct) (hs : s.Distinct)
    (hn : r.place? name = some i) : s.place? name = some i := by
  obtain ⟨d, hd, hn⟩ := hr.place?_eq_some_iff.mp hn
  obtain ⟨more, hm⟩ := h i d hd
  exact hs.place?_eq_some_iff.mpr ⟨_, hm, isNamed_moreAliases hn⟩

lemma Extends.keeps (h : Extends r s) (hs : s.Distinct) : Keeps r s := by
  intro n d hd
  obtain ⟨i, hi⟩ := List.mem_iff_getElem?.mp (mem_of_resolve hd)
  obtain ⟨more, hm⟩ := h i d hi
  refine ⟨i, more, hi, hm, hs.resolve_of_mem (List.mem_of_getElem? hm) ?_⟩
  exact isNamed_moreAliases (by simpa using List.find?_some hd)

lemma taken_of_insert {clash : Clash} (h : r.insert d = .error clash) :
    ∃ n ∈ d.names, r.resolve n ≠ none ∧ clash = ⟨normalName n⟩ := by
  rw [insert] at h
  split at h
  · rename_i n hn
    have hs := List.find?_some hn
    obtain rfl := Except.error.inj h
    exact ⟨n, List.mem_of_find?_eq_some hn, Option.isSome_iff_ne_none.mp hs, rfl⟩
  · contradiction

lemma extends_insert (h : r.insert d = .ok s) : Extends r s := by
  obtain ⟨-, rfl⟩ := insert_ok_iff.mp h
  refine fun i e he => ⟨[], ?_⟩
  have hi := (List.getElem?_eq_some_iff.mp he).1
  simpa [List.getElem?_append_left hi] using he

lemma extends_pushAlias (i : ℕ) (other : String) : Extends r (r.pushAlias i other) := by
  intro j d hd
  by_cases hj : i = j
  · exact ⟨[other], by simp [pushAlias, hd, hj]⟩
  · exact ⟨[], by simp [pushAlias, hd, hj]⟩

lemma extends_pushAliases (i : ℕ) (aliases : List String) :
    Extends r (r.pushAliases i aliases).1 := by
  induction aliases generalizing r with
  | nil => exact .refl r
  | cons other aliases ih =>
    rw [pushAliases]
    split
    · exact (extends_pushAlias i other).trans ih
    · split
      · exact ih
      · exact .refl r

lemma extends_call (c : Call) : Extends r (r.call c).1 := by
  cases c with
  | insert d =>
    rw [call]
    split
    · rename_i h
      exact extends_insert h
    · exact .refl r
  | addAliases name aliases =>
    rw [call, addAliases]
    split
    · exact .refl r
    · exact extends_pushAliases _ aliases

lemma Distinct.call (hr : r.Distinct) (hc : c.IsCustom) : (r.call c).1.Distinct := by
  cases c with
  | insert d =>
    rw [Registry.call]
    split
    · rename_i h
      exact hr.step (.insert hc h)
    · exact hr
  | addAliases name aliases => exact hr.step (.addAliases r name aliases)

lemma Distinct.run_calls (hr : r.Distinct) {calls : List Call} (hc : ∀ c ∈ calls, c.IsCustom) :
    (r.run calls).Distinct := by
  induction calls generalizing r with
  | nil => exact hr
  | cons c calls ih =>
    obtain ⟨hc, hs⟩ := List.forall_mem_cons.mp hc
    exact ih (hr.call hc) hs

lemma run_append (before after : List Call) : r.run (before ++ after) = (r.run before).run after :=
  List.foldl_append

lemma extends_run (calls : List Call) : Extends r (r.run calls) := by
  induction calls generalizing r with
  | nil => exact .refl r
  | cons c calls ih => exact (extends_call c).trans ih

lemma Distinct.not_clash (hr : r.Distinct) (h : r.place? a = some i) :
    (r.pushAliases i aliases).2 ≠ .error ⟨a⟩ := by
  induction aliases generalizing r with
  | nil => simp [Registry.pushAliases]
  | cons other aliases ih =>
    rw [Registry.pushAliases]
    split
    · rename_i hn
      have hs : (r.pushAlias i other).Distinct := hr.pushAlias i (by simpa using hn)
      exact ih hs ((extends_pushAlias i other).place? hr hs h)
    · rename_i j hj
      split
      · exact ih hr h
      · rename_i hne
        rintro ⟨rfl⟩
        exact hne (Option.some.inj (hj.symm.trans h))

lemma Distinct.pushAliases_clash (hr : r.Distinct) (hi : i < r.definitions.length)
    (h : (r.pushAliases i aliases).2 = .error ⟨a⟩) :
    ∃ before after, aliases = before ++ a :: after ∧ a ∉ before ∧
      r.pushAliases i before = ((r.pushAliases i aliases).1, .ok ()) := by
  induction aliases generalizing r with
  | nil => simp [Registry.pushAliases] at h
  | cons other aliases ih =>
    rw [Registry.pushAliases] at h ⊢
    cases hf : r.definitions.findIdx? (·.isNamed other) with
    | none =>
      simp only [hf] at h ⊢
      have hs : (r.pushAlias i other).Distinct := hr.pushAlias i (by simpa using hf)
      have hl : i < (r.pushAlias i other).definitions.length := by
        simpa [Registry.pushAlias] using hi
      obtain ⟨before, after, rfl, hb, hp⟩ := ih hs hl h
      refine ⟨other :: before, after, rfl, ?_, by simpa only [Registry.pushAliases, hf] using hp⟩
      rintro (_ | ⟨_, hm⟩)
      · refine hs.not_clash (hs.place?_eq_some_iff.mpr ⟨_, List.getElem?_eq_getElem hl, ?_⟩) h
        exact isNamed_self (by simp [Registry.pushAlias, Definition.names])
      · exact hb hm
    | some j =>
      simp only [hf] at h ⊢
      split at h
      · rename_i hj
        obtain ⟨before, after, rfl, hb, hp⟩ := ih hr hi h
        rw [if_pos hj]
        refine ⟨other :: before, after, rfl, ?_, ?_⟩
        · rintro (_ | ⟨_, hm⟩)
          · exact hr.not_clash (hj ▸ hf) h
          · exact hb hm
        · simpa only [Registry.pushAliases, hf, if_pos hj] using hp
      · rename_i hj
        obtain rfl : other = a := by simpa using h
        exact ⟨[], aliases, rfl, List.not_mem_nil, by rw [if_neg hj, Registry.pushAliases]⟩

lemma Distinct.addAliases_clash (hr : r.Distinct)
    (h : (r.addAliases name aliases).2 = .error ⟨a⟩) :
    ∃ before after, aliases = before ++ a :: after ∧ a ∉ before ∧
      r.addAliases name before = ((r.addAliases name aliases).1, .ok true) := by
  rw [addAliases] at h ⊢
  cases hf : r.definitions.findIdx? (·.isNamed name) with
  | none => simp [hf] at h
  | some i =>
    obtain ⟨hi, -⟩ := List.findIdx?_eq_some_iff_getElem.mp hf
    have hp : (r.pushAliases i aliases).2 = .error ⟨a⟩ := by
      cases hp : (r.pushAliases i aliases).2 with
      | ok u => simp [hf, hp, Except.map] at h
      | error e => simpa [hf, hp, Except.map] using h
    obtain ⟨before, after, ha, hb, hp⟩ := hr.pushAliases_clash hi hp
    exact ⟨before, after, ha, hb, by simp [addAliases, hf, hp, Except.map]⟩

/-- Along every run names stay unambiguous, and a name that resolves keeps its definition. A refused
definition changes nothing, and a clash of an alias only cuts off the aliases from there on. -/
theorem run_resolves {start : Registry} (hs : start = builtin ∨ start = empty) {calls : List Call}
    (hc : ∀ c ∈ calls, c.IsCustom) :
    (start.run calls).IsUnambiguous ∧
      (∀ before after, calls = before ++ after → Keeps (start.run before) (start.run calls)) ∧
      (start = builtin → ∀ (i : ℕ) (k : Kind), Kind.builtin[i]? = some k →
        ∃ aliases, (start.run calls).definitions[i]? =
          some { Definition.builtin k with aliases := aliases }) ∧
      (∀ d clash, ((start.run calls).call (.insert d)).2 = .error clash →
        (∃ n ∈ d.names, (start.run calls).resolve n ≠ none ∧ clash = ⟨normalName n⟩) ∧
          ((start.run calls).call (.insert d)).1 = start.run calls) ∧
      ∀ name aliases a, ((start.run calls).call (.addAliases name aliases)).2 = .error ⟨a⟩ →
        ∃ before after, aliases = before ++ a :: after ∧ a ∉ before ∧
          (start.run calls).call (.addAliases name before) =
            (((start.run calls).call (.addAliases name aliases)).1, .ok true) := by
  have hd : start.Distinct := by
    rcases hs with rfl | rfl
    · exact distinct_builtin
    · exact distinct_empty
  have hr := hd.run_calls hc
  refine ⟨hr.isUnambiguous, ?_, ?_, ?_, fun name aliases a h => hr.addAliases_clash h⟩
  · rintro before after rfl
    rw [run_append] at hr ⊢
    exact (extends_run after).keeps hr
  · rintro rfl i k hk
    have hb : builtin.definitions[i]? = some (Definition.builtin k) := by
      simp [builtin, List.getElem?_map, hk]
    obtain ⟨more, hm⟩ := extends_run calls i _ hb
    exact ⟨more, hm⟩
  · intro d clash h
    rw [call] at h ⊢
    split at h
    · contradiction
    · rename_i e he
      obtain rfl := Except.error.inj h
      exact ⟨taken_of_insert he, rfl⟩

def captionCalls : List Call :=
  [.insert (.custom "Lay Out" "1.0.0" true ["lay-out", "plan"]), .addAliases "label" ["caption"],
    .addAliases "Unit" ["uom", "Caption", "measure"],
    .insert (.custom "Other" "1.0.0" false ["other", "LABEL"])]

theorem run_resolves_caption :
    (∀ c ∈ captionCalls, c.IsCustom) ∧ (builtin.run captionCalls).IsUnambiguous ∧
      (∃ d, (builtin.run captionCalls).resolve "CAP TION" = some d ∧ d.kind = .label) ∧
      ∃ d, (builtin.run captionCalls).resolve "UOM" = some d ∧ d.kind = .unit := by
  have hc : ∀ c ∈ captionCalls, c.IsCustom := by
    simp [captionCalls, Call.IsCustom, Definition.custom]
  obtain ⟨hu, hk, -⟩ := run_resolves (Or.inl rfl) hc
  refine ⟨hc, hu, ?_, ?_⟩
  · have h : (builtin.run (captionCalls.take 2)).resolve "CAP TION" =
        some ⟨"Label", .label, "2.0.0", true, ["caption"]⟩ := by decide +kernel
    obtain ⟨-, more, -, -, hm⟩ := hk _ _ (captionCalls.take_append_drop 2).symm _ _ h
    exact ⟨_, hm, rfl⟩
  · have h : (builtin.run (captionCalls.take 3)).resolve "UOM" =
        some ⟨"Unit", .unit, "2.0.0", false, ["uom"]⟩ := by decide +kernel
    obtain ⟨-, more, -, -, hm⟩ := hk _ _ (captionCalls.take_append_drop 3).symm _ _ h
    exact ⟨_, hm, rfl⟩

end LayeredSchema.Registry

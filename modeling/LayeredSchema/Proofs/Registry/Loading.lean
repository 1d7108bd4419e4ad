import LayeredSchema.Proofs.Registry.Runs
import LayeredSchema.Registry.Directory
import Mathlib.Data.List.Induction
import Mathlib.Data.List.Nodup

/-!
Definitions from registry files: which of them load together, and in which orders.

Two definitions must not share a name, and a name of a built-in definition is left to those that
restate it. Lists of definitions that keep to this load in any order. A list that does not may load
all the same, in an order in which a definition comes after one that gave its name to a built-in
kind as an alias; it is then taken for a restatement of that kind.
-/

namespace LayeredSchema

open Text

def FileDefinition.names (d : FileDefinition) : List String := d.name :: d.aliases

structure Listing where
  path : String
  text : String
  definition : FileDefinition

namespace Registry

def Loading.follow (l : Loading) (x : Listing) : Except LoadError Loading :=
  l.add x.path x.text x.definition

def loadListed (xs : List Listing) : Except LoadError Loading :=
  xs.foldlM Loading.follow ⟨builtin, []⟩

def Loads (xs : List Listing) : Prop := ∃ l, loadListed xs = .ok l

inductive Lists (dir : String) : String × List UInt8 → List Listing → Prop
  | mk {name text : String} {bytes : List UInt8} {ds : List FileDefinition}
    (ht : String.fromUTF8? ⟨bytes.toArray⟩ = some text)
    (hd : Json.decodeText RegistryFile.shape RegistryFile.ofJson text = .ok ds) :
    Lists dir (name, bytes) (ds.map fun d => ⟨Directory.join dir name, text, d⟩)

def SameDefinitions (xs ys : List Listing) : Prop :=
  (xs.map Listing.definition).Perm (ys.map Listing.definition)

def NamedApart (ds : List FileDefinition) : Prop :=
  ∀ d ∈ ds, ∀ e ∈ ds, normalName e.name ≠ normalName d.name →
    ∀ a ∈ e.aliases, normalName a ≠ normalName d.name

/-- A definition resolves to one whose own name it has, and not through an alias. -/
def Resolves (r : Registry) (d : FileDefinition) : Prop :=
  ∃ e, r.resolve d.name = some e ∧ normalName e.name = normalName d.name

/-- Definitions that can be loaded together: no two share a name, and a name of a built-in
definition is a name only of what restates this definition. -/
structure Consistent (ds : List FileDefinition) : Prop where
  nonblank : ∀ d ∈ ds, isAllBlank d.name.toList = false
  nodup : (ds.map fun d => normalName d.name).Nodup
  apart : ∀ d ∈ ds, ∀ e ∈ ds, ∀ n ∈ d.names, ∀ m ∈ e.names, normalName n = normalName m →
    normalName d.name = normalName e.name
  builtin : ∀ d ∈ ds, ∀ n ∈ d.names, ∀ i, Registry.builtin.place? n = some i →
    Registry.builtin.place? d.name = some i

structure Gains (r s : Registry) (i : ℕ) (names : List String) : Prop where
  grown : Extends r s
  gained : ∀ n ∈ names, s.place? n = some i
  only : ∀ n j, s.place? n = some j →
    r.place? n = some j ∨ j = i ∧ ∃ m ∈ names, normalName m = normalName n

variable {r s t : Registry} {i j : ℕ} {d : Definition} {f : FileDefinition} {n m : String}
  {ns ms : List String} {l l' : Loading} {xs ys : List Listing} {ds es : List FileDefinition}

lemma place?_congr (h : normalName n = normalName m) : r.place? n = r.place? m := by
  simp only [place?, Definition.isNamed, h]

lemma place?_eq_none_iff : r.place? n = none ↔ r.resolve n = none := by
  simp [place?, resolve]

lemma Distinct.resolve_of_place? (hr : r.Distinct) (h : r.place? n = some i) :
    ∃ d, r.definitions[i]? = some d ∧ r.resolve n = some d := by
  obtain ⟨d, hd, hn⟩ := hr.place?_eq_some_iff.mp h
  exact ⟨d, hd, hr.resolve_of_mem (List.mem_of_getElem? hd) hn⟩

lemma Distinct.place?_of_resolve (hr : r.Distinct) (h : r.resolve n = some d) :
    ∃ i, r.place? n = some i ∧ r.definitions[i]? = some d := by
  obtain ⟨hd, hn⟩ := hr.resolve_eq_some_iff.mp h
  obtain ⟨i, hi⟩ := List.mem_iff_getElem?.mp hd
  exact ⟨i, hr.place?_eq_some_iff.mpr ⟨d, hi, hn⟩, hi⟩

lemma name_of_builtin_place? (h : builtin.place? n = some i) :
    ∃ d, builtin.definitions[i]? = some d ∧ normalName d.name = normalName n := by
  obtain ⟨d, hd, hn⟩ := distinct_builtin.place?_eq_some_iff.mp h
  have ha : ∀ d ∈ builtin.definitions, d.aliases = [] := by decide
  obtain ⟨m, hm, hmn⟩ := isNamed_iff.mp hn
  rw [Definition.names, ha d (List.mem_of_getElem? hd), List.mem_singleton] at hm
  exact ⟨d, hd, hm ▸ hmn⟩

lemma Gains.trans (hs : s.Distinct) (ht : t.Distinct) (h : Gains r s i ns) (h' : Gains s t i ms) :
    Gains r t i (ns ++ ms) where
  grown := h.grown.trans h'.grown
  gained n hn := by
    rcases List.mem_append.mp hn with hn | hn
    · exact h'.grown.place? hs ht (h.gained n hn)
    · exact h'.gained n hn
  only n j hj := by
    rcases h'.only n j hj with hj | ⟨rfl, m, hm, hmn⟩
    · exact (h.only n j hj).imp_right fun ⟨he, m, hm, hmn⟩ =>
        ⟨he, m, List.mem_append_left _ hm, hmn⟩
    · exact .inr ⟨rfl, m, List.mem_append_right _ hm, hmn⟩

lemma gains_of_place? (hn : r.place? n = some i) : Gains r r i [n] where
  grown := .refl r
  gained _ hm := List.mem_singleton.mp hm ▸ hn
  only _ _ h := .inl h

lemma gains_insert (hr : r.Distinct) (h : r.insert d = .ok s) :
    Gains r s r.definitions.length d.names := by
  have hs := hr.insert h
  obtain ⟨hn, rfl⟩ := insert_ok_iff.mp h
  refine ⟨extends_insert h, fun n hm => ?_, fun n j hj => ?_⟩
  · exact hs.place?_eq_some_iff.mpr ⟨d, by simp, isNamed_self hm⟩
  · obtain ⟨e, he, hen⟩ := hs.place?_eq_some_iff.mp hj
    rcases Nat.lt_trichotomy j r.definitions.length with hlt | rfl | hgt
    · rw [List.getElem?_append_left hlt] at he
      exact .inl (hr.place?_eq_some_iff.mpr ⟨e, he, hen⟩)
    · obtain rfl : d = e := by simpa using he
      exact .inr ⟨rfl, isNamed_iff.mp hen⟩
    · rw [List.getElem?_eq_none (by simpa using Nat.succ_le_of_lt hgt)] at he
      contradiction

lemma gains_pushAlias (hr : r.Distinct) (hi : i < r.definitions.length) (hn : r.place? n = none) :
    Gains r (r.pushAlias i n) i [n] := by
  have hs : (r.pushAlias i n).Distinct :=
    hr.pushAlias i (by simpa [place?] using hn)
  refine ⟨extends_pushAlias i n, fun m hm => ?_, fun m j hj => ?_⟩
  · obtain rfl := List.mem_singleton.mp hm
    have hd : (r.pushAlias i m).definitions[i]? =
        some { r.definitions[i] with aliases := r.definitions[i].aliases ++ [m] } := by
      simp [pushAlias, List.getElem?_eq_getElem hi]
    exact hs.place?_eq_some_iff.mpr ⟨_, hd, isNamed_self (by simp [Definition.names])⟩
  · obtain ⟨e, he, hem⟩ := hs.place?_eq_some_iff.mp hj
    simp only [pushAlias, List.getElem?_modify] at he
    obtain ⟨d, hd, rfl⟩ := Option.map_eq_some_iff.mp he
    by_cases hij : i = j
    · obtain ⟨k, hk, hkm⟩ := isNamed_iff.mp hem
      rw [if_pos hij, Definition.names, ← List.cons_append, List.mem_append] at hk
      rcases hk with hk | hk
      · exact .inl (hr.place?_eq_some_iff.mpr ⟨d, hd, isNamed_iff.mpr ⟨k, hk, hkm⟩⟩)
      · exact .inr ⟨hij.symm, k, hk, hkm⟩
    · rw [if_neg hij] at hem
      exact .inl (hr.place?_eq_some_iff.mpr ⟨d, hd, hem⟩)

lemma gains_pushAliases (hr : r.Distinct) (hi : i < r.definitions.length)
    (h : (r.pushAliases i ns).2 = .ok ()) : Gains r (r.pushAliases i ns).1 i ns := by
  induction ns generalizing r with
  | nil => exact ⟨.refl r, by simp, fun _ _ h => .inl h⟩
  | cons n ns ih =>
    have hs := hr.pushAliases i (n :: ns)
    rw [pushAliases] at h hs ⊢
    cases hp : r.definitions.findIdx? (·.isNamed n) with
    | none =>
      simp only [hp] at h hs ⊢
      have hg := gains_pushAlias hr hi hp
      have hd : (r.pushAlias i n).Distinct := hr.pushAlias i (by simpa using hp)
      exact hg.trans hd hs (ih hd (by simpa [pushAlias] using hi) h)
    | some j =>
      simp only [hp] at h hs ⊢
      split at h
      · rename_i hj
        rw [if_pos hj] at hs ⊢
        exact (gains_of_place? (hj ▸ hp)).trans hr hs (ih hr hi h)
      · contradiction

lemma pushAliases_ok (hr : r.Distinct) (hi : i < r.definitions.length)
    (h : ∀ n ∈ ns, ∀ j, r.place? n = some j → j = i) : (r.pushAliases i ns).2 = .ok () := by
  induction ns generalizing r with
  | nil => rfl
  | cons n ns ih =>
    obtain ⟨hn, hns⟩ := List.forall_mem_cons.mp h
    rw [pushAliases]
    cases hp : r.definitions.findIdx? (·.isNamed n) with
    | none =>
      have hg := gains_pushAlias hr hi hp
      refine ih (hr.pushAlias i (by simpa using hp)) (by simpa [pushAlias] using hi)
        fun m hm j hj => ?_
      rcases hg.only m j hj with hj | ⟨hj, -⟩
      · exact hns m hm j hj
      · exact hj
    | some j =>
      simp only [hn j hp, if_true]
      exact ih hr hi hns

/-- What loading one definition does to the registry: a built-in definition that its name resolves
to gets its aliases, or it is inserted with names that are all new. -/
inductive Loaded (r s : Registry) (f : FileDefinition) (i : ℕ) : Prop
  | restated (d : Definition) (hd : r.definitions[i]? = some d) (hk : d.kind ≠ .custom)
      (hn : r.place? f.name = some i)
  | inserted (hd : s.definitions[i]? = some f.toDefinition) (hn : ∀ n ∈ f.names, r.place? n = none)

lemma add_ok {path text : String} (hr : l.registry.Distinct) (h : l.add path text f = .ok l') :
    isAllBlank f.name.toList = false ∧ normalName f.name ∉ l.seen ∧
      l'.seen = normalName f.name :: l.seen ∧ l'.registry.Distinct ∧
      ∃ i, Gains l.registry l'.registry i f.names ∧ Loaded l.registry l'.registry f i := by
  simp only [Loading.add] at h
  split at h
  · contradiction
  split at h
  · contradiction
  rename_i hb hs
  refine ⟨by simpa using hb, by simpa using hs, ?_⟩
  split at h
  · rename_i hk
    obtain ⟨d, hd, hk⟩ := Option.any_eq_true .. |>.mp hk
    obtain ⟨i, hi, hdi⟩ := hr.place?_of_resolve hd
    have hlt := (List.getElem?_eq_some_iff.mp hdi).1
    have ha : l.registry.addAliases f.name f.aliases = ((l.registry.pushAliases i f.aliases).1,
        (l.registry.pushAliases i f.aliases).2.map fun _ => true) := by
      rw [addAliases]
      rw [place?] at hi
      rw [hi]
    rw [ha] at h
    cases hp : (l.registry.pushAliases i f.aliases).2 with
    | error c => simp [hp, Except.map] at h
    | ok u =>
      simp only [hp, Except.map, Except.ok.injEq] at h
      subst h
      have hs := hr.pushAliases i f.aliases
      exact ⟨rfl, hs, i, (gains_of_place? hi).trans hr hs (gains_pushAliases hr hlt hp),
        .restated d hdi (by simpa using hk) hi⟩
  · split at h
    · rename_i r hi
      obtain rfl := Except.ok.inj h
      obtain ⟨hn, rfl⟩ := insert_ok_iff.mp hi
      refine ⟨rfl, hr.insert hi, _, gains_insert hr hi, .inserted (by simp) fun n hm => ?_⟩
      exact place?_eq_none_iff.mpr (hn n hm)
    · contradiction

/-- What is so once definitions are loaded: all names of a definition belong to one place, every
name there is of a built-in definition or of one that was loaded, and a definition has the name of
what it resolves to, or else the name of another one's alias. -/
structure Describes (l : Loading) (ds : List FileDefinition) : Prop where
  distinct : l.registry.Distinct
  grown : Extends builtin l.registry
  seen : ∀ n, n ∈ l.seen ↔ ∃ d ∈ ds, normalName d.name = n
  nonblank : ∀ d ∈ ds, isAllBlank d.name.toList = false
  nodup : (ds.map fun d => normalName d.name).Nodup
  placed : ∀ d ∈ ds, ∃ i, ∀ n ∈ d.names, l.registry.place? n = some i
  origin : ∀ n i, l.registry.place? n = some i →
    builtin.place? n = some i ∨ ∃ d ∈ ds, ∃ m ∈ d.names, normalName m = normalName n
  own : ∀ d ∈ ds, ∃ i e, l.registry.place? d.name = some i ∧ l.registry.definitions[i]? = some e ∧
    (normalName e.name = normalName d.name ∨ e.kind ≠ .custom ∧
      ∃ d' ∈ ds, normalName d'.name ≠ normalName d.name ∧
        ∃ a ∈ d'.aliases, normalName a = normalName d.name)

lemma describes_start : Describes ⟨builtin, []⟩ [] where
  distinct := distinct_builtin
  grown := .refl builtin
  seen := by simp
  nonblank := by simp
  nodup := List.nodup_nil
  placed := by simp
  origin _ _ h := .inl h
  own := by simp

lemma Describes.own_of_add (h : Describes l ds) (hs : normalName f.name ∉ l.seen)
    (hl : Loaded l.registry l'.registry f i) (hg : Gains l.registry l'.registry i f.names) :
    ∃ e, l'.registry.definitions[i]? = some e ∧ (normalName e.name = normalName f.name ∨
      e.kind ≠ .custom ∧ ∃ d ∈ ds, normalName d.name ≠ normalName f.name ∧
        ∃ a ∈ d.aliases, normalName a = normalName f.name) := by
  cases hl with
  | inserted hd _ => exact ⟨_, hd, .inl rfl⟩
  | restated d hd hk hn =>
    obtain ⟨more, hm⟩ := hg.grown i d hd
    refine ⟨_, hm, ?_⟩
    rcases h.origin _ _ hn with hb | ⟨e, he, m, hm, hme⟩
    · obtain ⟨b, hb, hbn⟩ := name_of_builtin_place? hb
      obtain ⟨_, hbd⟩ := h.grown i b hb
      obtain rfl := Option.some.inj (hd.symm.trans hbd)
      exact .inl hbn
    · have hne : normalName e.name ≠ normalName f.name :=
        fun heq => hs ((h.seen _).mpr ⟨e, he, heq⟩)
      rcases List.mem_cons.mp hm with rfl | hm
      · exact absurd hme hne
      · exact .inr ⟨hk, e, he, hne, m, hm, hme⟩

lemma Describes.add {path text : String} (h : Describes l ds) (ha : l.add path text f = .ok l') :
    Describes l' (ds ++ [f]) := by
  obtain ⟨hb, hs, hs', hd, i, hg, hl⟩ := add_ok h.distinct ha
  have hp {n : String} {j : ℕ} (hn : l.registry.place? n = some j) :
      l'.registry.place? n = some j := hg.grown.place? h.distinct hd hn
  refine ⟨hd, h.grown.trans hg.grown, fun n => ?_, ?_, ?_, ?_, fun n j hj => ?_, ?_⟩
  · simp [hs', h.seen, or_comm, eq_comm]
  · simpa [or_imp, forall_and] using ⟨h.nonblank, hb⟩
  · rw [List.map_append, List.nodup_append_comm, List.map_singleton, List.singleton_append,
      List.nodup_cons]
    refine ⟨fun hm => hs ((h.seen _).mpr ?_), h.nodup⟩
    simpa using hm
  · intro d hm
    rcases List.mem_append.mp hm with hm | hm
    · obtain ⟨j, hj⟩ := h.placed d hm
      exact ⟨j, fun n hn => hp (hj n hn)⟩
    · obtain rfl := List.mem_singleton.mp hm
      exact ⟨i, hg.gained⟩
  · rcases hg.only n j hj with hj | ⟨-, hm⟩
    · exact (h.origin n j hj).imp_right fun ⟨d, hm, hn⟩ => ⟨d, List.mem_append_left _ hm, hn⟩
    · exact .inr ⟨f, by simp, hm⟩
  · intro d hm
    rcases List.mem_append.mp hm with hm | hm
    · obtain ⟨j, e, hj, he, ho⟩ := h.own d hm
      obtain ⟨more, hmore⟩ := hg.grown j e he
      exact ⟨j, _, hp hj, hmore, ho.imp_right fun ⟨hk, d', hm', ho⟩ =>
        ⟨hk, d', List.mem_append_left _ hm', ho⟩⟩
    · obtain rfl := List.mem_singleton.mp hm
      obtain ⟨e, he, ho⟩ := h.own_of_add hs hl hg
      exact ⟨i, e, hg.gained _ List.mem_cons_self, he, ho.imp_right fun ⟨hk, d', hm', ho⟩ =>
        ⟨hk, d', List.mem_append_left _ hm', ho⟩⟩

lemma foldlM_addFile {dir : String} {files : List (String × List UInt8)}
    {parts : List (List Listing)} (h : List.Forall₂ (Lists dir) files parts) (l : Loading) :
    files.foldlM (Loading.addFile dir) l = parts.flatten.foldlM Loading.follow l := by
  induction h generalizing l with
  | nil => rfl
  | cons hf _ ih =>
    obtain ⟨ht, hd⟩ := hf
    rw [List.foldlM_cons, List.flatten_cons, List.foldlM_append, List.foldlM_map]
    simp only [Loading.addFile, ht, hd, ih]
    rfl

lemma load_directory {dir : Directory} {parts : List (List Listing)}
    (h : List.Forall₂ (Lists dir.path) dir.registryFiles parts) :
    load (.directory dir) = (loadListed parts.flatten).map (·.registry) := by
  rw [load, foldlM_addFile h]
  rfl

lemma loadListed_concat {x : Listing} :
    loadListed (xs ++ [x]) = loadListed xs >>= fun l => l.follow x := by
  simp [loadListed]

lemma describes_of_load (h : loadListed xs = .ok l) :
    Describes l (xs.map Listing.definition) := by
  induction xs using List.reverseRecOn generalizing l with
  | nil =>
    obtain rfl := Outcome.pure_ok_iff.mp h
    exact describes_start
  | append_singleton xs x ih =>
    rw [loadListed_concat, Outcome.bind_ok_iff] at h
    obtain ⟨l', hl', h⟩ := h
    rw [List.map_append]
    exact (ih hl').add h

lemma Consistent.prefix_of_append (h : Consistent (ds ++ es)) : Consistent ds where
  nonblank d hd := h.nonblank d (List.mem_append_left _ hd)
  nodup := (List.nodup_append.mp (List.map_append ▸ h.nodup)).1
  apart d hd e he := h.apart d (List.mem_append_left _ hd) e (List.mem_append_left _ he)
  builtin d hd := h.builtin d (List.mem_append_left _ hd)

lemma Consistent.perm (h : Consistent ds) (hp : ds.Perm es) : Consistent es where
  nonblank d hd := h.nonblank d (hp.mem_iff.mpr hd)
  nodup := (hp.map _).nodup_iff.mp h.nodup
  apart d hd e he := h.apart d (hp.mem_iff.mpr hd) e (hp.mem_iff.mpr he)
  builtin d hd := h.builtin d (hp.mem_iff.mpr hd)

lemma Consistent.namedApart (h : Consistent ds) : NamedApart ds :=
  fun d hd e he hne a ha hn => hne
    (h.apart e he d hd a (List.mem_cons_of_mem _ ha) d.name List.mem_cons_self hn)

lemma Describes.unseen (h : Describes l ds) (hc : Consistent (ds ++ [f])) :
    normalName f.name ∉ l.seen := by
  intro hm
  obtain ⟨d, hd, hn⟩ := (h.seen _).mp hm
  have hnd := hc.nodup
  rw [List.map_append, List.nodup_append] at hnd
  exact hnd.2.2 _ (List.mem_map_of_mem hd) _ (by simp) hn

lemma Describes.taken (h : Describes l ds) (hc : Consistent (ds ++ [f])) (hn : n ∈ f.names)
    (hi : l.registry.place? n = some i) :
    builtin.place? f.name = some i ∧ l.registry.place? f.name = some i := by
  have hf : f ∈ ds ++ [f] := by simp
  rcases h.origin n i hi with hi | ⟨d, hd, m, hm, hmn⟩
  · have hp := hc.builtin f hf n hn i hi
    exact ⟨hp, h.grown.place? distinct_builtin h.distinct hp⟩
  · refine absurd ((h.seen _).mpr ⟨d, hd, ?_⟩) (h.unseen hc)
    exact hc.apart d (List.mem_append_left _ hd) f hf m hm n hn hmn

lemma exists_add (path text : String) (h : Describes l ds) (hc : Consistent (ds ++ [f])) :
    ∃ l', l.add path text f = .ok l' := by
  have hb := hc.nonblank f (by simp)
  have hs := h.unseen hc
  simp only [Loading.add, hb, Bool.false_eq_true, if_false, List.contains_iff_mem, hs]
  cases hp : l.registry.place? f.name with
  | none =>
    have hr := place?_eq_none_iff.mp hp
    have hn : ∀ n ∈ f.names, l.registry.resolve n = none := by
      intro n hn
      refine place?_eq_none_iff.mp (Option.eq_none_iff_forall_ne_some.mpr fun i hi => ?_)
      exact nomatch hp.symm.trans (h.taken hc hn hi).2
    rw [hr, (insert_ok_iff (d := f.toDefinition)).mpr ⟨hn, rfl⟩]
    exact ⟨_, rfl⟩
  | some i =>
    obtain ⟨d, hd, hr⟩ := h.distinct.resolve_of_place? hp
    have hk : d.kind ≠ .custom := by
      obtain ⟨b, hb, -⟩ := name_of_builtin_place? (h.taken hc List.mem_cons_self hp).1
      obtain ⟨_, hbd⟩ := h.grown i b hb
      obtain rfl := Option.some.inj (hd.symm.trans hbd)
      have hall : ∀ b ∈ builtin.definitions, b.kind ≠ .custom := by decide
      exact hall b (List.mem_of_getElem? hb)
    have ha : (l.registry.pushAliases i f.aliases).2 = .ok () := by
      refine pushAliases_ok h.distinct (List.getElem?_eq_some_iff.mp hd).1 fun n hn j hj => ?_
      have hj := (h.taken hc (List.mem_cons_of_mem _ hn) hj).2
      exact Option.some.inj (hj.symm.trans hp)
    rw [place?] at hp
    simp only [hr, Option.any_some, bne_iff_ne, ne_eq, hk, not_false_eq_true, if_true, addAliases,
      hp, ha]
    exact ⟨_, rfl⟩

lemma loads_of_consistent (h : Consistent (xs.map Listing.definition)) : Loads xs := by
  induction xs using List.reverseRecOn with
  | nil => exact ⟨_, rfl⟩
  | append_singleton xs x ih =>
    rw [List.map_append] at h
    obtain ⟨l, hl⟩ := ih h.prefix_of_append
    obtain ⟨l', hl'⟩ := exists_add x.path x.text (describes_of_load hl) h
    exact ⟨l', by rw [loadListed_concat, Outcome.bind_ok_iff]; exact ⟨l, hl, hl'⟩⟩

lemma Describes.resolves_or (h : Describes l ds) (hf : f ∈ ds) : Resolves l.registry f ∨
    (∃ e, l.registry.resolve f.name = some e ∧ e.kind ≠ .custom) ∧
      ∃ d ∈ ds, normalName d.name ≠ normalName f.name ∧
        ∃ a ∈ d.aliases, normalName a = normalName f.name := by
  obtain ⟨i, e, hi, he, ho⟩ := h.own f hf
  obtain ⟨e', he', hr⟩ := h.distinct.resolve_of_place? hi
  obtain rfl := Option.some.inj (he'.symm.trans he)
  exact ho.imp (fun ho => ⟨e', hr, ho⟩) fun ⟨hk, ho⟩ => ⟨⟨e', hr, hk⟩, ho⟩

lemma Describes.resolves (h : Describes l ds) (hn : NamedApart ds) :
    ∀ d ∈ ds, Resolves l.registry d := by
  intro d hd
  refine (h.resolves_or hd).resolve_right ?_
  rintro ⟨-, e, he, hne, a, ha, han⟩
  exact hn d hd e he hne a ha han

lemma Describes.consistent (h : Describes l ds) (hr : ∀ d ∈ ds, Resolves l.registry d) :
    Consistent ds := by
  have hp {d : FileDefinition} (hd : d ∈ ds) {n : String} (hn : n ∈ d.names) {i : ℕ}
      (hi : l.registry.place? n = some i) : ∃ e, l.registry.definitions[i]? = some e ∧
        normalName e.name = normalName d.name := by
    obtain ⟨j, hj⟩ := h.placed d hd
    obtain rfl := Option.some.inj (hi.symm.trans (hj n hn))
    obtain ⟨e, he, hen⟩ := hr d hd
    obtain ⟨k, hk, hek⟩ := h.distinct.place?_of_resolve he
    obtain rfl := Option.some.inj (hk.symm.trans (hj d.name List.mem_cons_self))
    exact ⟨e, hek, hen⟩
  refine ⟨h.nonblank, h.nodup, fun d hd e he n hn m hm hnm => ?_, fun d hd n hn i hi => ?_⟩
  · obtain ⟨i, hi⟩ := h.placed d hd
    obtain ⟨c, hc, hcd⟩ := hp hd hn (hi n hn)
    obtain ⟨c', hc', hce⟩ := hp he hm (place?_congr hnm ▸ hi n hn)
    obtain rfl := Option.some.inj (hc.symm.trans hc')
    exact hcd.symm.trans hce
  · obtain ⟨b, hb, -⟩ := name_of_builtin_place? hi
    obtain ⟨_, hbe⟩ := h.grown i b hb
    obtain ⟨e, he, hed⟩ := hp hd hn (h.grown.place? distinct_builtin h.distinct hi)
    obtain rfl := Option.some.inj (he.symm.trans hbe)
    have hbn : b.isNamed d.name = true :=
      isNamed_iff.mpr ⟨b.name, List.mem_cons_self, hed⟩
    exact distinct_builtin.place?_eq_some_iff.mpr ⟨b, hb, hbn⟩

lemma place?_head {x : Listing} (h : loadListed (x :: xs) = .ok l) :
    ∃ i c, l.registry.place? x.definition.name = some i ∧ l.registry.definitions[i]? = some c ∧
      normalName c.name = normalName x.definition.name ∧
      (c.kind = .custom ∨ builtin.place? x.definition.name = some i) := by
  rw [loadListed, List.foldlM_cons, Outcome.bind_ok_iff] at h
  obtain ⟨l₁, hl₁, h⟩ := h
  obtain ⟨-, -, -, hd₁, i, hg₁, hx⟩ := add_ok distinct_builtin hl₁
  have hg : l.registry.Distinct ∧ Extends l₁.registry l.registry := by
    refine Outcome.foldlM_preserves (fun l : Loading => l.registry.Distinct ∧
      Extends l₁.registry l.registry) ?_ h ⟨hd₁, .refl _⟩
    rintro l y l' - ⟨hd, hg⟩ hl'
    obtain ⟨-, -, -, hd', i, hi, -⟩ := add_ok hd hl'
    exact ⟨hd', hg.trans hi.grown⟩
  have hp := hg.2.place? hd₁ hg.1 (hg₁.gained _ List.mem_cons_self)
  cases hx with
  | inserted hd _ =>
    obtain ⟨more, hm⟩ := hg.2 i _ hd
    exact ⟨i, _, hp, hm, rfl, .inl rfl⟩
  | restated d hd _ hn =>
    obtain ⟨b, hb, hbn⟩ := name_of_builtin_place? hn
    obtain rfl := Option.some.inj (hd.symm.trans hb)
    obtain ⟨more, hm⟩ := (hg₁.grown.trans hg.2) i d hd
    exact ⟨i, _, hp, hm, hbn, .inr hn⟩

lemma exists_builtin_place? {x : Listing} (h : loadListed (x :: xs) = .ok l)
    (hf : f ∈ (x :: xs).map Listing.definition)
    (hne : normalName f.name ≠ normalName x.definition.name) (hn : n ∈ f.aliases)
    (hnx : normalName n = normalName x.definition.name) :
    ∃ i, builtin.place? x.definition.name = some i := by
  have hD := describes_of_load h
  obtain ⟨i, c, hi, hc, hcx, hk⟩ := place?_head h
  refine ⟨i, hk.resolve_left fun hk => ?_⟩
  obtain ⟨j, c', hj, hc', ho⟩ := hD.own _ hf
  obtain ⟨k, hp⟩ := hD.placed _ hf
  have hpn := hp n (List.mem_cons_of_mem _ hn)
  rw [place?_congr hnx, hi] at hpn
  rw [hp _ List.mem_cons_self, ← hpn] at hj
  obtain rfl := Option.some.inj hj
  obtain rfl := Option.some.inj (hc.symm.trans hc')
  rcases ho with ho | ⟨ho, -⟩
  · exact hne (ho.symm.trans hcx)
  · exact ho hk

lemma normalName_eq_of_builtin {x : Listing} (h : loadListed (x :: xs) = .ok l)
    (hn : n ∈ x.definition.aliases) (hi : builtin.place? n = some i) :
    normalName n = normalName x.definition.name := by
  have hD := describes_of_load h
  obtain ⟨j, c, hj, hc, hcx, -⟩ := place?_head h
  obtain ⟨k, hp⟩ := hD.placed x.definition (by simp)
  obtain rfl := Option.some.inj (hj.symm.trans (hp _ List.mem_cons_self))
  have hpn := hp n (List.mem_cons_of_mem _ hn)
  rw [hD.grown.place? distinct_builtin hD.distinct hi] at hpn
  obtain rfl := Option.some.inj hpn
  obtain ⟨b, hb, hbn⟩ := name_of_builtin_place? hi
  obtain ⟨_, hbc⟩ := hD.grown i b hb
  obtain rfl := Option.some.inj (hc.symm.trans hbc)
  exact hbn.symm.trans hcx

/-- Of a definition and one with the first one's name for an alias, one shuts the other out if it is
loaded first: the first one as a definition of its own, or the second one where the first one
restates a built-in definition. -/
lemma namedApart_of_loads (h : ∀ ys, SameDefinitions xs ys → Loads ys) :
    NamedApart (xs.map Listing.definition) := by
  have hf : ∀ x ∈ xs, ∃ ys l, SameDefinitions xs (x :: ys) ∧ loadListed (x :: ys) = .ok l := by
    intro x hx
    obtain ⟨before, after, rfl⟩ := List.append_of_mem hx
    have hp : SameDefinitions (before ++ x :: after) (x :: (before ++ after)) :=
      List.perm_middle.map _
    obtain ⟨l, hl⟩ := h _ hp
    exact ⟨_, l, hp, hl⟩
  rintro d hd e he hne a ha hn
  obtain ⟨x, hx, rfl⟩ := List.mem_map.mp hd
  obtain ⟨y, hy, rfl⟩ := List.mem_map.mp he
  obtain ⟨_, _, hp, hl⟩ := hf x hx
  obtain ⟨i, hi⟩ := exists_builtin_place? hl (hp.mem_iff.mp he) hne ha hn
  obtain ⟨_, _, -, hl⟩ := hf y hy
  rw [← place?_congr hn] at hi
  exact hne ((normalName_eq_of_builtin hl ha hi).symm.trans hn)

lemma NamedApart.perm (h : NamedApart ds) (hp : ds.Perm es) : NamedApart es :=
  fun d hd e he => h d (hp.mem_iff.mpr hd) e (hp.mem_iff.mpr he)

lemma Loads.perm (h : Loads xs) (hn : NamedApart (xs.map Listing.definition))
    (hp : SameDefinitions xs ys) : Loads ys := by
  obtain ⟨l, hl⟩ := h
  have hD := describes_of_load hl
  exact loads_of_consistent ((hD.consistent (hD.resolves hn)).perm hp)

/-- Where no definition is named like an alias of another one, the order does not matter, and every
definition resolves to one of its own name. Of a list that is loaded all the same, some order fails
and some definition is taken for a restatement of a built-in one. -/
theorem loads_reordered (xs : List Listing) :
    (NamedApart (xs.map Listing.definition) →
      ∀ ys, SameDefinitions xs ys → (Loads xs ↔ Loads ys)) ∧
    ∀ l, loadListed xs = .ok l →
      ((∀ ys, SameDefinitions xs ys → Loads ys) ↔ NamedApart (xs.map Listing.definition)) ∧
      ((∀ x ∈ xs, Resolves l.registry x.definition) ↔
        NamedApart (xs.map Listing.definition)) ∧
      ∀ x ∈ xs, Resolves l.registry x.definition ∨
        ∃ e, l.registry.resolve x.definition.name = some e ∧ e.kind ≠ .custom := by
  refine ⟨fun hn ys hp => ⟨fun h => h.perm hn hp, fun h => h.perm (hn.perm hp) hp.symm⟩,
    fun l hl => ?_⟩
  have hD := describes_of_load hl
  refine ⟨⟨namedApart_of_loads, fun hn ys hp => Loads.perm ⟨l, hl⟩ hn hp⟩,
    ⟨fun hr => (hD.consistent ?_).namedApart, fun hn x hx => ?_⟩, fun x hx => ?_⟩
  · simpa using hr
  · exact hD.resolves hn _ (List.mem_map_of_mem hx)
  · exact (hD.resolves_or (List.mem_map_of_mem hx)).imp_right And.left

def captionAlias : Listing := ⟨"a.json", "", ⟨"label", none, false, ["caption"]⟩⟩

def captionListings : List Listing :=
  [captionAlias, ⟨"b.json", "", ⟨"Caption", none, true, ["title"]⟩⟩]

def layoutListings : List Listing :=
  [captionAlias, ⟨"b.json", "", ⟨"Layout", none, true, ["title"]⟩⟩]

theorem loads_reordered_caption :
    (∃ l e, loadListed captionListings = .ok l ∧ l.registry.resolve "Caption" = some e ∧
      e.kind = .label ∧ (¬∀ x ∈ captionListings, Resolves l.registry x.definition) ∧
      ∃ ys, SameDefinitions captionListings ys ∧ ¬Loads ys) ∧
    (Loads layoutListings ↔ Loads layoutListings.reverse) := by
  have hc : ((loadListed captionListings).toOption.bind fun l => l.registry.resolve "Caption").map
      (·.kind) = some .label := by decide +kernel
  have hn : ¬NamedApart (captionListings.map Listing.definition) := by
    unfold NamedApart
    decide +kernel
  have hl : NamedApart (layoutListings.map Listing.definition) := by
    unfold NamedApart
    decide +kernel
  refine ⟨?_, (loads_reordered layoutListings).1 hl _ ((List.reverse_perm _).symm.map _)⟩
  simp only [Option.map_eq_some_iff, Option.bind_eq_some_iff] at hc
  obtain ⟨e, ⟨l, hl, he⟩, hk⟩ := hc
  have hl := Outcome.toOption_eq_some_iff.mp hl
  obtain ⟨ho, hr, -⟩ := (loads_reordered captionListings).2 l hl
  refine ⟨l, e, hl, he, hk, mt hr.mp hn, ?_⟩
  simpa using mt ho.mp hn

end Registry

end LayeredSchema

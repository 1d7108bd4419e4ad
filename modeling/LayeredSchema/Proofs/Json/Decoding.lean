import LayeredSchema.Json.Decoding
import LayeredSchema.Proofs.Outcome

/-!
What decodes: the fields of wire objects, the elements of wire arrays, and texts of which only parts
count.
-/

namespace LayeredSchema.Json

variable {α : Type} {name : String} {old o : Option α} {new : Except Fault α} {a default : α}
variable {items : List Json} {i : ℕ} {decode : Json → Except Fault α}

lemma setOnce_ok_iff :
    setOnce name old new = .ok o ↔ old = none ∧ ∃ a, new = .ok a ∧ o = some a := by
  cases old with
  | none => simp [setOnce, Outcome.map_ok_iff, eq_comm (b := o)]
  | some a => simp [setOnce]

lemma require_ok_iff : require name old = .ok a ↔ old = some a := by
  cases old <;> simp [require]

lemma exists_of_element {expected : String} (h : element items i expected decode = .ok a) :
    ∃ v ∈ items, decode v = .ok a := by
  rw [element] at h
  split at h
  · exact ⟨_, List.mem_of_getElem? ‹_›, h⟩
  · contradiction

lemma exists_of_elementOr (h : elementOr items i default decode = .ok a) :
    a = default ∨ ∃ v ∈ items, decode v = .ok a := by
  rw [elementOr] at h
  split at h
  · exact Or.inr ⟨_, List.mem_of_getElem? ‹_›, h⟩
  · exact Or.inl (Except.ok.inj h).symm

/-- All of a value counts: its objects have only the names that a shape gives. -/
inductive Shape.Covers : Shape → Json → Prop
  | whole (v : Json) : Covers .whole v
  | fields {named : List (String × Shape)} {es : List (String × Json)}
      (names : ∀ e ∈ es, (named.lookup e.1).isSome = true)
      (values : ∀ e ∈ es, ∀ s, named.lookup e.1 = some s → Covers s e.2) :
      Covers (.fields named) (.object es)

lemma Outline.entryValues?_selectEntries {named : List (String × Shape)} {d : ℕ}
    {os : List (Option String × Outline)} {es : List (String × Json)}
    (h : entryValues? d os = some es)
    (hs : ∀ e ∈ es, ∃ s, named.lookup e.1 = some s ∧
      ∀ o : Outline, o.value? d = some e.2 → (o.select s).value? d = some e.2) :
    entryValues? d (selectEntries named os) = some es := by
  induction os generalizing es with
  | nil =>
    rw [selectEntries]
    exact h
  | cons o os ih =>
    obtain ⟨k, o⟩ := o
    simp only [entryValues?, Option.bind_eq_bind, Option.bind_eq_some_iff, Option.pure_def,
      Option.some.injEq] at h
    obtain ⟨k, rfl, v, hv, vs, hvs, rfl⟩ := h
    obtain ⟨s, hl, ho⟩ := hs (k, v) List.mem_cons_self
    simp only [selectEntries, hl, entryValues?, ho o hv,
      ih hvs fun e he => hs e (List.mem_cons_of_mem _ he)]
    rfl

lemma Outline.value?_select {s : Shape} {v : Json} (h : Shape.Covers s v) {d : ℕ} {o : Outline}
    (ho : o.value? d = some v) : (o.select s).value? d = some v := by
  induction h generalizing d o with
  | whole v => rwa [select_whole]
  | fields hn _ ih =>
    cases o with
    | scalar u => rwa [select] <;> simp
    | array items => cases d <;> simp [value?] at ho
    | object os =>
      cases d with
      | zero => simp [value?] at ho
      | succ d =>
        simp only [value?, Option.map_eq_some_iff, Json.object.injEq, exists_eq_right] at ho
        simp only [select, value?, Option.map_eq_some_iff, Json.object.injEq, exists_eq_right]
        refine Outline.entryValues?_selectEntries ho fun e he => ?_
        obtain ⟨s, hl⟩ := Option.isSome_iff_exists.mp (hn e he)
        exact ⟨s, hl, fun o ho => ih e he s hl ho⟩

lemma decodeText_of_read? {s : Shape} {text : String} {v : Json} (h : read? text = some v)
    (hs : Shape.Covers s v) : decodeText s decode text = (decode v).mapError (·.within text) := by
  obtain ⟨o, ho, hv⟩ := Option.bind_eq_some_iff.mp h
  rw [decodeText, ho]
  simp only [Option.bind_some, Outline.value?_select hs hv]

end LayeredSchema.Json

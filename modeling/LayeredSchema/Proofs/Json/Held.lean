import LayeredSchema.Proofs.Json.Normal

/-!
Values as a machine of 64 bits holds them: no text and no container is too long for its length to be
a number of 64 bits, and no object has a name twice.
-/

namespace LayeredSchema.Json

variable {P Q : Json → Prop} {v : Json}

def parts : Json → List Json
  | .array items => items
  | .object es => es.map (·.2)
  | _ => []

inductive Throughout (P : Json → Prop) : Json → Prop
  | intro {v : Json} (here : P v) (inside : ∀ u ∈ v.parts, Throughout P u) : Throughout P v

lemma Throughout.here (h : v.Throughout P) : P v := by
  cases h
  assumption

lemma Throughout.inside (h : v.Throughout P) : ∀ u ∈ v.parts, u.Throughout P := by
  cases h
  assumption

lemma Throughout.value {es : Entries Json} (h : Throughout P (.object es)) {e : String × Json}
    (he : e ∈ es) : e.2.Throughout P :=
  h.inside e.2 (List.mem_map.mpr ⟨e, he, rfl⟩)

lemma Throughout.and (h : v.Throughout P) (h' : v.Throughout Q) :
    v.Throughout fun u => P u ∧ Q u := by
  induction h with
  | intro here _ ih => exact .intro ⟨here, h'.here⟩ fun u hu => ih u hu (h'.inside u hu)

lemma throughout_string {s : String} (h : P (.string s)) : Throughout P (.string s) :=
  .intro h (by simp [parts])

lemma throughout_object {es : Entries Json} (h : P (.object es))
    (hv : ∀ e ∈ es, e.2.Throughout P) : Throughout P (.object es) := by
  refine .intro h fun u hu => ?_
  obtain ⟨e, he, rfl⟩ := List.mem_map.mp hu
  exact hv e he

def HasSize : Json → Prop
  | .string s => s.utf8ByteSize < 1 <<< 64
  | .array items => items.length < 1 <<< 64
  | .object es => es.length < 1 <<< 64 ∧ ∀ e ∈ es, e.1.utf8ByteSize < 1 <<< 64
  | _ => True

def HasDistinctNames : Json → Prop
  | .object es => (Entries.names es).Nodup
  | _ => True

def IsSized (v : Json) : Prop := v.Throughout HasSize

def IsHeld (v : Json) : Prop := v.Throughout fun u => u.HasSize ∧ u.HasDistinctNames

mutual

lemma distinctNames_normal : (v : Json) → v.normal.Throughout HasDistinctNames
  | .null | .bool _ | .number _ | .string _ => .intro trivial (by simp [normal, parts])
  | .array items => .intro trivial (distinctNames_of_mem_normalItems items)
  | .object es => throughout_object (Entries.sorted_ofList _).nodup_names fun e he =>
    distinctNames_of_mem_normalEntries es e (Entries.mem_of_mem_ofList he)

lemma distinctNames_of_mem_normalItems : (items : List Json) →
    ∀ v ∈ normalItems items, v.Throughout HasDistinctNames
  | [], _, h => absurd h List.not_mem_nil
  | v :: vs, w, h => by
    rcases List.mem_cons.mp h with rfl | h
    · exact distinctNames_normal v
    · exact distinctNames_of_mem_normalItems vs w h

lemma distinctNames_of_mem_normalEntries : (es : List (String × Json)) →
    ∀ e ∈ normalEntries es, e.2.Throughout HasDistinctNames
  | [], _, h => absurd h List.not_mem_nil
  | (k, v) :: es, e, h => by
    rcases List.mem_cons.mp h with rfl | h
    · exact distinctNames_normal v
    · exact distinctNames_of_mem_normalEntries es e h

end

lemma IsNormal.distinctNames (h : v.IsNormal) : v.Throughout HasDistinctNames :=
  h ▸ distinctNames_normal v

end LayeredSchema.Json

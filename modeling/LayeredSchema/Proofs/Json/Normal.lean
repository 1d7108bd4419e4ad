import LayeredSchema.Json.Basic
import LayeredSchema.Proofs.Assembly.Written

/-!
Normal values: objects are in order of names at every depth, so putting them in order again changes
nothing.
-/

namespace LayeredSchema.Json

def IsNormal (v : Json) : Prop := v.normal = v

lemma normalItems_eq_map (items : List Json) : normalItems items = items.map normal := by
  induction items with
  | nil => rfl
  | cons v vs ih => rw [normalItems, ih, List.map_cons]

lemma normalEntries_eq_map (es : Entries Json) :
    normalEntries es = es.map fun e => (e.1, e.2.normal) := by
  induction es with
  | nil => rfl
  | cons e es ih => rw [normalEntries, ih, List.map_cons]

lemma isNormal_array {items : List Json} (h : ∀ v ∈ items, IsNormal v) : IsNormal (.array items) := by
  rw [IsNormal, normal, normalItems_eq_map, List.map_congr_left h, List.map_id']

lemma normalEntries_of_isNormal {es : Entries Json} (h : ∀ e ∈ es, IsNormal e.2) :
    normalEntries es = es := by
  rw [normalEntries_eq_map, List.map_congr_left fun e he => congrArg (Prod.mk e.1) (h e he)]
  exact List.map_id' es

lemma isNormal_object {es : Entries Json} (hs : es.Sorted) (h : ∀ e ∈ es, IsNormal e.2) :
    IsNormal (.object es) := by
  rw [IsNormal, normal, normalEntries_of_isNormal h, Entries.ofList_eq_self hs]

lemma Plain.isNormal {v : Json} (h : v.Plain) : IsNormal v := by
  induction h with
  | string s => rfl
  | texts ss =>
    refine isNormal_array fun v hv => ?_
    obtain ⟨s, -, rfl⟩ := List.mem_map.mp hv
    rfl
  | object es hs _ ih => exact isNormal_object hs ih

mutual

lemma isNormal_normal : (v : Json) → IsNormal v.normal
  | .null | .bool _ | .number _ | .string _ => rfl
  | .array items => isNormal_array (isNormal_of_mem_normalItems items)
  | .object es => isNormal_object (Entries.sorted_ofList _) fun e he =>
    isNormal_of_mem_normalEntries es e (Entries.mem_of_mem_ofList he)

lemma isNormal_of_mem_normalItems : (items : List Json) → ∀ v ∈ normalItems items, IsNormal v
  | [], _, h => absurd h List.not_mem_nil
  | v :: vs, w, h => by
    rcases List.mem_cons.mp h with rfl | h
    · exact isNormal_normal v
    · exact isNormal_of_mem_normalItems vs w h

lemma isNormal_of_mem_normalEntries :
    (es : List (String × Json)) → ∀ e ∈ normalEntries es, IsNormal e.2
  | [], _, h => absurd h List.not_mem_nil
  | (k, v) :: es, e, h => by
    rcases List.mem_cons.mp h with rfl | h
    · exact isNormal_normal v
    · exact isNormal_of_mem_normalEntries es e h

end

end LayeredSchema.Json

/-!
Tables: finite maps from names, in the order of the names.

`Entries` holds the operations on lists of named values, `Table` the lists in strictly ascending
order of names. Main statements: `Entries.sorted_insert`, `Entries.sorted_ofList` and
`Entries.get?_insert`.
-/

namespace LayeredSchema

abbrev Entries (α : Type) := List (String × α)

namespace Entries

variable {α : Type}

def Sorted (es : Entries α) : Prop := es.Pairwise fun a b => a.1 < b.1

/-- Puts a value under a name, in the place of the name's former value if it has one. -/
def insert (k : String) (a : α) : Entries α → Entries α
  | [] => [(k, a)]
  | (l, b) :: es =>
    if k < l then (k, a) :: (l, b) :: es
    else if k = l then (k, a) :: es
    else (l, b) :: insert k a es

/-- The entries in order of names; of several under one name the last. -/
def ofList (es : Entries α) : Entries α := es.foldl (fun t e => insert e.1 e.2 t) []

def get? (es : Entries α) (k : String) : Option α := (es.find? (·.1 == k)).map (·.2)

def contains (es : Entries α) (k : String) : Bool := es.any (·.1 == k)

def erase (es : Entries α) (k : String) : Entries α := es.filter (·.1 != k)

def names (es : Entries α) : List String := es.map (·.1)

theorem mem_insert {k : String} {a : α} {es : Entries α} {e : String × α}
    (h : e ∈ insert k a es) : e = (k, a) ∨ e ∈ es := by
  induction es with
  | nil => simpa [insert] using h
  | cons e' es ih =>
    obtain ⟨l, b⟩ := e'
    simp only [insert] at h
    split at h
    · simpa using h
    · split at h
      · rcases List.mem_cons.1 h with h | h
        · exact .inl h
        · exact .inr (List.mem_cons_of_mem _ h)
      · rcases List.mem_cons.1 h with h | h
        · exact .inr (h ▸ List.mem_cons_self)
        · exact (ih h).imp_right (List.mem_cons_of_mem _)

theorem sorted_insert {k : String} {a : α} {es : Entries α} (h : Sorted es) :
    Sorted (insert k a es) := by
  induction es with
  | nil => simp [insert, Sorted]
  | cons e es ih =>
    obtain ⟨l, b⟩ := e
    obtain ⟨hl, hs⟩ := List.pairwise_cons.1 h
    simp only [insert]
    split
    · rename_i hk
      refine List.pairwise_cons.2 ⟨fun e he => ?_, h⟩
      rcases List.mem_cons.1 he with rfl | he
      · exact hk
      · exact String.lt_trans hk (hl e he)
    · rename_i hk
      split
      · rename_i hkl
        exact List.pairwise_cons.2 ⟨fun e he => hkl ▸ hl e he, hs⟩
      · rename_i hkl
        refine List.pairwise_cons.2 ⟨fun e he => ?_, ih hs⟩
        rcases mem_insert he with rfl | he
        · exact Std.lt_of_le_of_ne (String.not_lt.1 hk) (Ne.symm hkl)
        · exact hl e he

@[simp] theorem get?_nil (k : String) : get? ([] : Entries α) k = none := rfl

theorem get?_cons (e : String × α) (es : Entries α) (k : String) :
    get? (e :: es) k = if e.1 = k then some e.2 else es.get? k := by
  by_cases h : e.1 = k <;> simp [get?, h]

theorem get?_insert (k l : String) (a : α) (es : Entries α) :
    (insert k a es).get? l = if k = l then some a else es.get? l := by
  induction es with
  | nil => simp [insert, get?_cons]
  | cons e es ih =>
    obtain ⟨m, b⟩ := e
    simp only [insert]
    split
    · rw [get?_cons]
    · split
      · rename_i hkm
        subst hkm
        simp only [get?_cons]
        split <;> rfl
      · rename_i hkm
        simp only [get?_cons, ih]
        split
        · rename_i hml
          subst hml
          simp [hkm]
        · rfl

theorem sorted_ofList (es : Entries α) : Sorted (ofList es) := by
  have h : ∀ t : Entries α, Sorted t → Sorted (es.foldl (fun t e => insert e.1 e.2 t) t) := by
    induction es with
    | nil => exact fun t ht => ht
    | cons e es ih => exact fun t ht => ih _ (sorted_insert ht)
  exact h [] List.Pairwise.nil

end Entries

/-- A finite map from names, in the order of the names. -/
structure Table (α : Type) where
  entries : Entries α
  sorted : entries.Sorted
  deriving DecidableEq

namespace Table

variable {α : Type}

def empty : Table α := ⟨[], List.Pairwise.nil⟩

instance : EmptyCollection (Table α) := ⟨empty⟩
instance : Inhabited (Table α) := ⟨empty⟩

def ofList (es : Entries α) : Table α := ⟨.ofList es, Entries.sorted_ofList es⟩

def insert (t : Table α) (k : String) (a : α) : Table α :=
  ⟨t.entries.insert k a, Entries.sorted_insert t.sorted⟩

def get? (t : Table α) (k : String) : Option α := t.entries.get? k

theorem get?_insert (t : Table α) (k l : String) (a : α) :
    (t.insert k a).get? l = if k = l then some a else t.get? l :=
  Entries.get?_insert k l a t.entries

def contains (t : Table α) (k : String) : Bool := t.entries.contains k

def names (t : Table α) : List String := t.entries.names

end Table

end LayeredSchema

import LayeredSchema.Json.Basic

/-!
The parts of a JSON text before they have values.

A scalar may be well-formed and stand for nothing: a string with half of a surrogate pair, or a
number beyond the largest double. A text with such a part has no value, but what is asked for may be
in other parts of it. Main definitions: `Outline.value?`, `Outline.select`.
-/

namespace LayeredSchema.Json

/-- A text as the grammar sees it. Scalars that stand for nothing have no value, names that do no
text. -/
inductive Outline
  | scalar (value : Option Json)
  | array (items : List Outline)
  | object (entries : List (Option String × Outline))

inductive Shape
  | whole
  | items (item : Shape)
  /-- Of an object, what stands under the names given, and of an array, the items in their order. -/
  | fields (named : List (String × Shape))

namespace Outline

mutual

/-- The value, if all parts have one and containers nest at most `depth` deep. -/
def value? : (depth : Nat) → Outline → Option Json
  | _, .scalar v => v
  | 0, _ => none
  | depth + 1, .array items => (itemValues? depth items).map .array
  | depth + 1, .object entries => (entryValues? depth entries).map .object

def itemValues? (depth : Nat) : List Outline → Option (List Json)
  | [] => some []
  | o :: os => do return (← value? depth o) :: (← itemValues? depth os)

def entryValues? (depth : Nat) : List (Option String × Outline) → Option (List (String × Json))
  | [] => some []
  | (k, o) :: es => do return (← k, ← value? depth o) :: (← entryValues? depth es)

end

mutual

def select : Shape → Outline → Outline
  | .items s, .array items => .array (selectItems s items)
  | .fields named, .object entries => .object (selectEntries named entries)
  | .fields named, .array items => .array (selectInOrder named items)
  | _, o => o

def selectItems (s : Shape) : List Outline → List Outline
  | [] => []
  | o :: os => select s o :: selectItems s os

def selectEntries (named : List (String × Shape)) :
    List (Option String × Outline) → List (Option String × Outline)
  | [] => []
  | (none, o) :: es => (none, o) :: selectEntries named es
  | (some k, o) :: es =>
    match named.lookup k with
    | some s => (some k, select s o) :: selectEntries named es
    | none => selectEntries named es

def selectInOrder : List (String × Shape) → List Outline → List Outline
  | _, [] => []
  | [], os => os
  | (_, s) :: named, o :: os => select s o :: selectInOrder named os

end

theorem select_whole (o : Outline) : select .whole o = o := by
  cases o <;> simp [select]

end Outline

end LayeredSchema.Json

import LayeredSchema.Json.Printer
import LayeredSchema.Json.Reader
import LayeredSchema.Text.Quoted

/-!
Decoding JSON values into data, and why that fails.
-/

namespace LayeredSchema.Json

open Text

inductive Fault
  | wrongType (found : Json) (expected : String)
  | wrongLength (found : Nat) (expected : String)
  | missingField (name : String)
  | duplicateField (name : String)
  /-- The value has the right type, but not the right content. -/
  | refused (reason : String)
  deriving DecidableEq

/-- Drops the digits at the end of a text, which is in reverse, if they are those of a number below
`2 ^ 64`. -/
def dropNumber? (cs : List Char) : Option (List Char) :=
  match natural? (cs.takeWhile Char.isDigit).reverse with
  | some n => if n < 1 <<< 64 then some (cs.dropWhile Char.isDigit) else none
  | none => none

/-- Drops the place at the end of a text, if it ends in `at line` and `column` with numbers. -/
def dropPlace? (s : String) : Option String := do
  let cs ← dropNumber? s.toList.reverse
  let cs ← dropStem? " column ".toList.reverse cs
  let cs ← dropNumber? cs
  let cs ← dropStem? " at line ".toList.reverse cs
  return String.ofList cs.reverse

def description : Json → String
  | .null => "null"
  | .bool true => "boolean `true`"
  | .bool false => "boolean `false`"
  | .number (.double x) => s!"floating point `{x.text}`"
  | .number n => s!"integer `{n.text}`"
  | .string s => s!"string {quoted s}"
  | .array _ => "sequence"
  | .object _ => "map"

/-- The message of a fault. A place that a reason ends in is told apart from it, and left out. -/
def Fault.message : Fault → String
  | .wrongType found expected => s!"invalid type: {found.description}, expected {expected}"
  | .wrongLength n expected => s!"invalid length {n}, expected {expected}"
  | .missingField name => s!"missing field `{name}`"
  | .duplicateField name => s!"duplicate field `{name}`"
  | .refused reason => (dropPlace? reason).getD reason

inductive TextFault
  | notJson
  | notData (fault : Fault)
  deriving DecidableEq

/-- What a fault in some parts of a text makes of the whole text, which may be no JSON in others. -/
def Fault.within (text : String) (fault : Fault) : TextFault :=
  if (read? text).isSome then .notData fault else .notJson

/-- Decodes the parts of a text that count. The other parts need no value, but must be
well-formed. -/
def decodeText {α : Type} (shape : Shape) (decode : Json → Except Fault α) (text : String) :
    Except TextFault α :=
  match (Outline.read? text).bind fun o => (o.select shape).value? maxDepth with
  | some v => (decode v).mapError (·.within text)
  | none => .error .notJson

def toText : Json → Except Fault String
  | .string s => .ok s
  | v => .error (.wrongType v "a string")

def toFlag : Json → Except Fault Bool
  | .bool b => .ok b
  | v => .error (.wrongType v "a boolean")

def toItems : Json → Except Fault (List Json)
  | .array items => .ok items
  | v => .error (.wrongType v "a sequence")

def toEntries : Json → Except Fault (List (String × Json))
  | .object entries => .ok entries
  | v => .error (.wrongType v "a map")

def toOptional {α : Type} (decode : Json → Except Fault α) : Json → Except Fault (Option α)
  | .null => .ok none
  | v => (decode v).map some

def toTexts (v : Json) : Except Fault (List String) := do (← v.toItems).mapM toText

/-- Decodes the values of an object; of several under one name the last is kept. -/
def toTable {α : Type} (decode : Json → Except Fault α) (v : Json) : Except Fault (Table α) := do
  let entries ← (← v.toEntries).mapM fun (k, v) => do return (k, ← decode v)
  return .ofList entries

def setOnce {α : Type} (name : String) (old : Option α) (new : Except Fault α) :
    Except Fault (Option α) :=
  if old.isSome then .error (.duplicateField name) else new.map some

def require {α : Type} (name : String) : Option α → Except Fault α
  | some a => .ok a
  | none => .error (.missingField name)

/-- Decodes the element at a place of an array that must have one there. -/
def element {α : Type} (items : List Json) (i : Nat) (expected : String)
    (decode : Json → Except Fault α) : Except Fault α :=
  match items[i]? with
  | some v => decode v
  | none => .error (.wrongLength i expected)

/-- Decodes the element at a place of an array, if there is one. -/
def elementOr {α : Type} (items : List Json) (i : Nat) (default : α)
    (decode : Json → Except Fault α) : Except Fault α :=
  match items[i]? with
  | some v => decode v
  | none => .ok default

/-- Refuses an array with more than `n` elements. -/
def endAt (items : List Json) (n : Nat) : Except Fault Unit :=
  if n < items.length then .error (.refused "trailing characters") else .ok ()

end LayeredSchema.Json

import LayeredSchema.Assembly.Shape
import LayeredSchema.Bundle
import LayeredSchema.Registry.Basic

/-!
Assembly: the bundle that the commands of an OCAfile make.

The properties of an overlay command become a payload through the table of its kind's keys; a
custom kind keeps the whole tree of properties as JSON. Main definition: `assemble`.
-/

namespace LayeredSchema

open Text

namespace Assembly

inductive Reason
  | wrongShape (expected : String) (found : PropertyValue)
  | duplicateKey (inside : String)
  | badPayload (error : Body.Error)
  deriving DecidableEq

def Reason.message : Reason → String
  | .wrongShape expected found => s!"expected {expected}, found {found.shape}"
  | .duplicateKey inside => s!"duplicate key in {inside}"
  | .badPayload error => error.message

/-- Why commands make no bundle. Each cause comes with the line it was found on. -/
inductive Error
  | unknownOverlay (line : Nat) (name : String)
  | duplicateAttribute (line : Nat) (name : String)
  | duplicateProperty (line : Nat) (overlay key : String)
  | unexpectedProperty (line : Nat) (overlay key : String)
  | invalidProperty (line : Nat) (overlay key : String) (reason : Reason)
  | duplicateClassification (line : Nat)
  deriving DecidableEq

def Error.message : Error → String
  | .unknownOverlay line name => s!"line {line}: unknown overlay {quoted name}"
  | .duplicateAttribute line name => s!"line {line}: attribute {quoted name} is already declared"
  | .duplicateProperty line overlay key =>
    s!"line {line}: property {quoted key} of {overlay} overlay is given twice"
  | .unexpectedProperty line overlay key =>
    s!"line {line}: {overlay} overlay does not define property {quoted key}"
  | .invalidProperty line overlay key reason =>
    s!"line {line}: property {quoted key} of {overlay} overlay: {reason.message}"
  | .duplicateClassification line => s!"line {line}: classification is already set"

structure Context where
  overlay : String
  line : Nat

namespace Context

/-- The line of a property; that of the command if the property has none. -/
def lineOf (ctx : Context) (p : Property) : Nat := if p.line = 0 then ctx.line else p.line

def duplicate {α : Type} (ctx : Context) (p : Property) : Except Error α :=
  .error (.duplicateProperty (ctx.lineOf p) ctx.overlay p.key)

def unexpected {α : Type} (ctx : Context) (p : Property) : Except Error α :=
  .error (.unexpectedProperty (ctx.lineOf p) ctx.overlay p.key)

def invalid {α : Type} (ctx : Context) (p : Property) (reason : Reason) : Except Error α :=
  .error (.invalidProperty (ctx.lineOf p) ctx.overlay p.key reason)

def wrongShape {α : Type} (ctx : Context) (p : Property) (expected : String) : Except Error α :=
  ctx.invalid p (.wrongShape expected p.value)

def text (ctx : Context) (p : Property) : Except Error String :=
  match p.value with
  | .text s => .ok s
  | _ => ctx.wrongShape p "a text value"

def list (ctx : Context) (p : Property) : Except Error (List String) :=
  match p.value with
  | .list items => .ok items
  | _ => ctx.wrongShape p "an array"

/-- The properties in a block. A key alone is an empty block. -/
def children (ctx : Context) (p : Property) : Except Error (List Property) :=
  match p.value with
  | .bare => .ok []
  | .block ps => .ok ps
  | _ => ctx.wrongShape p "a nested block"

def bareKey (ctx : Context) (p : Property) : Except Error String :=
  match p.value with
  | .bare => .ok p.key
  | _ => ctx.wrongShape p "a bare key"

/-- The values of the properties in a block, by their keys, which must be distinct. -/
def table (ctx : Context) (value : Property → Except Error Json) (p : Property) :
    Except Error Json := do
  let entries ← (← ctx.children p).foldlM (fun (es : Entries Json) child =>
    if es.contains child.key then ctx.invalid child (.duplicateKey p.key)
    else return es.insert child.key (← value child)) []
  return .object entries

def textValue (ctx : Context) (p : Property) : Except Error Json := (ctx.text p).map .string

/-- The payload value that a property of a certain shape stands for. -/
def shaped (ctx : Context) (p : Property) : Shape → Except Error Json
  | .text => ctx.textValue p
  | .textTable => ctx.table ctx.textValue p
  | .textTableTable => ctx.table (ctx.table ctx.textValue) p
  | .listTable => ctx.table (fun child => (ctx.list child).map Json.ofTexts) p
  | .list =>
    match p.value with
    | .list items => .ok (Json.ofTexts items)
    | _ => do return Json.ofTexts (← (← ctx.children p).mapM ctx.bareKey)

end Context

mutual

/-- The JSON form of a property of a custom kind. A block of keys alone is the list of the keys,
any other block an object, and a key alone an empty object. -/
def customValue : PropertyValue → Json
  | .bare => .object []
  | .text s => .string s
  | .list items => Json.ofTexts items
  | .block ps =>
    if !ps.isEmpty && ps.all (·.value.isBare) then Json.ofTexts (ps.map (·.key))
    else .object (Entries.ofList (customEntries ps))

def customEntries : List Property → List (String × Json)
  | [] => []
  | .mk _ key value :: ps => (key, customValue value) :: customEntries ps

end

/-- The language and the payload of an overlay, as far as its properties were read. -/
structure Progress where
  language : Option String := none
  payload : Table Json := ∅

/-- The payload value of a property under a key of the payload. -/
def payloadValue (ctx : Context) (kind : Kind) (p : Property) : Except Error Json :=
  match kind.shapes? with
  | some shapes =>
    match shapes.lookup p.key with
    | some shape => ctx.shaped p shape
    | none => ctx.unexpected p
  | none =>
    match kind with
    | .metadata => ctx.textValue p
    | _ => .ok (customValue p.value)

/-- Reads one property. The language is written among the payload's keys but is none of them. -/
def Progress.read (ctx : Context) (kind : Kind) (s : Progress) (p : Property) :
    Except Error Progress :=
  if p.key = "language" then
    if s.language.isSome then ctx.duplicate p
    else do return { s with language := some (← ctx.text p) }
  else if s.payload.contains p.key then ctx.duplicate p
  else if Overlay.reservedKeys.contains p.key then ctx.unexpected p
  else do return { s with payload := s.payload.insert p.key (← payloadValue ctx kind p) }

def overlay (r : Registry) (line : Nat) (name : String) (ps : List Property) :
    Except Error Overlay :=
  match r.resolve name with
  | none => .error (.unknownOverlay line name)
  | some d => do
    let s ← ps.foldlM (Progress.read ⟨d.name, line⟩ d.kind) {}
    match Body.ofPayload d.tag s.payload with
    | .ok body => return .make s.language body
    | .error e => .error (.invalidProperty line d.name "" (.badPayload e))

structure Draft where
  captureBase : CaptureBase.Draft := {}
  isClassified : Bool := false
  overlays : List Overlay := []

def declare (line : Nat) (b : CaptureBase.Draft) (a : String × AttributeType) :
    Except Error CaptureBase.Draft :=
  if b.hasAttribute a.1 then .error (.duplicateAttribute line a.1) else .ok (b.declare a.1 a.2)

def Draft.follow (r : Registry) (d : Draft) (c : Command) : Except Error Draft :=
  match c.action with
  | .classification value =>
    if d.isClassified then .error (.duplicateClassification c.line)
    else .ok { d with isClassified := true, captureBase := d.captureBase.classify value }
  | .attributes declared => do
    return { d with captureBase := ← declared.foldlM (declare c.line) d.captureBase }
  | .overlay name ps => do
    return { d with overlays := d.overlays ++ [← overlay r c.line name ps] }

end Assembly

def assemble (r : Registry) (f : Ocafile) : Except Assembly.Error Bundle := do
  let d ← f.commands.foldlM (Assembly.Draft.follow r) {}
  return .make f.name d.captureBase.build d.overlays

end LayeredSchema

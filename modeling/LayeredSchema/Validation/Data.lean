import LayeredSchema.Format.Iso8601
import LayeredSchema.Format.TextEncoding
import LayeredSchema.Validation.Report
import LayeredSchema.Validation.Rules

/-!
Data validation: whether a record is what a bundle describes.

The attributes of the capture base are checked in the order of their declaration; entries of the
record that it does not declare are passed over. Main definition: `Bundle.dataReport`.
-/

namespace LayeredSchema

open Text

/-- A place where a record is not what the bundle describes. An element of an array is named by the
attribute and the element's index in brackets. -/
inductive DataFinding
  | notAnObject (found : String)
  | missingAttribute (name : String)
  | typeMismatch (path expected found : String)
  | cardinalityViolation (name : String) (count : Nat) (range : Cardinality)
  | invalidEntryCode (path code : String)
  | formatMismatch (path value format : String)
  | encodingMismatch (path encoding : String)
  | nonNumericUnit (path unit : String)
  deriving DecidableEq

namespace DataFinding

def message : DataFinding → String
  | .notAnObject found => s!"data record must be a JSON object, got {found}"
  | .missingAttribute name => s!"missing required attribute {quoted name}"
  | .typeMismatch path expected found =>
    s!"attribute {quoted path} must be {expected}, got {found}"
  | .cardinalityViolation name count range =>
    s!"attribute {quoted name} has {count} elements, allowed {range.text}"
  | .invalidEntryCode path code =>
    s!"attribute {quoted path} value {quoted code} is not an allowed entry code"
  | .formatMismatch path value format =>
    s!"attribute {quoted path} value {quoted value} does not match format {quoted format}"
  | .encodingMismatch path encoding => s!"attribute {quoted path} value is not valid {encoding}"
  | .nonNumericUnit path unit =>
    s!"attribute {quoted path} with unit {quoted unit} must be numeric"

end DataFinding

def Primitive.admits : Primitive → Json → Bool
  | .numeric, .number _ => true
  | .boolean, .bool _ => true
  | .text, .string _ | .dateTime, .string _ | .binary, .string _ => true
  | _, _ => false

namespace AttributeRules

/-- Whether the attribute must be in the record. A condition that the record does not meet lifts
the requirement; else the cardinality decides, then the conformance. -/
def isRequired (r : AttributeRules) (requiredByDefault : Bool) (record : Table Json) : Bool :=
  if r.condition.any fun c => !c.holds record then false
  else
    match r.cardinality with
    | some range => range.isRequired
    | none =>
      if r.conformance = some "M" then true
      else if r.conformance = some "O" then false
      else requiredByDefault

def codeOf : Json → String
  | .string s => s
  | v => v.compact

def codeFindings (r : AttributeRules) (path : String) (v : Json) : List DataFinding :=
  match r.entryCodes with
  | some codes => if codes.contains (codeOf v) then [] else [.invalidEntryCode path (codeOf v)]
  | none => []

def unitFindings (r : AttributeRules) (path : String) (v : Json) : List DataFinding :=
  match r.unit with
  | some unit => if Primitive.numeric.admits v then [] else [.nonNumericUnit path unit]
  | none => []

def defaultDateFormat : String := "ISO 8601"

def admitsDate (r : AttributeRules) (text : String) : Bool :=
  match r.format with
  | some pattern => (DatePattern.parse pattern).admits text
  | none => Iso8601.admits text

def formatFindings (r : AttributeRules) (p : Primitive) (path text : String) : List DataFinding :=
  match p with
  | .dateTime =>
    if r.admitsDate text then []
    else [.formatMismatch path text (r.format.getD defaultDateFormat)]
  | .text =>
    if r.textPattern.all (·.admits text) then []
    else [.formatMismatch path text (r.format.getD "")]
  | _ => []

/-- Checks the encoding. One that is not known admits every text. -/
def encodingFindings (r : AttributeRules) (path text : String) : List DataFinding :=
  match r.encoding with
  | some label =>
    if (TextEncoding.ofLabel? label).all (·.accepts text) then []
    else [.encodingMismatch path label]
  | none => []

def leafFindings (r : AttributeRules) (p : Primitive) (path : String) (v : Json) :
    List DataFinding :=
  r.codeFindings path v ++ r.unitFindings path v ++
    match v with
    | .string text => r.formatFindings p path text ++ r.encodingFindings path text
    | _ => []

def mismatch (path expected : String) (v : Json) : List DataFinding :=
  [.typeMismatch path expected v.kind]

/-- Checks a value against a type, through all levels of arrays. -/
def valueFindings (r : AttributeRules) (path : String) : AttributeType → Json → List DataFinding
  | .array t, .array items =>
    items.zipIdx.flatMap fun (v, i) => valueFindings r (path ++ s!"[{i}]") t v
  | .array t, v => mismatch path (AttributeType.array t).text v
  | .reference _, .object _ => []
  | .reference ref, v => mismatch path s!"an object ({ref.text})" v
  | .primitive p, v => if p.admits v then r.leafFindings p path v else mismatch path p.name v

def countFindings (r : AttributeRules) (name : String) :
    AttributeType → Json → List DataFinding
  | .array _, .array items =>
    match r.cardinality with
    | some range =>
      if range.contains items.length then []
      else [.cardinalityViolation name items.length range]
    | none => []
  | _, _ => []

end AttributeRules

namespace Bundle

/-- Checks what a record has for an attribute; null counts as nothing. -/
def attributeFindings (b : Bundle) (requiredByDefault : Bool) (record : Table Json)
    (name : String) (t : AttributeType) : List DataFinding :=
  let rules := b.rulesFor name
  match record.get? name with
  | none | some .null =>
    if rules.isRequired requiredByDefault record then [.missingAttribute name] else []
  | some v => rules.countFindings name t v ++ rules.valueFindings name t v

def recordFindings (b : Bundle) (requiredByDefault : Bool) (record : Table Json) :
    List DataFinding :=
  b.captureBase.attributes.entries.flatMap fun (a, t) =>
    b.attributeFindings requiredByDefault record a t

/-- All faults of a value as a record of the bundle. Without cardinality and conformance an
attribute is required or not `requiredByDefault`. -/
def dataReport (b : Bundle) (requiredByDefault : Bool) (data : Json) : Report DataFinding :=
  match data.normal with
  | .object entries => ⟨b.recordFindings requiredByDefault (.ofList entries)⟩
  | v => ⟨[.notAnObject v.kind]⟩

end Bundle

end LayeredSchema
